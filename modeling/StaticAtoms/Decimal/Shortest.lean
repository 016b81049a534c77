/-!
# Shortest decimals

The decimal with the fewest digits that reads back as a given double, and how it is written.

* `Decimal.shortest` finds it in exact arithmetic: among the decimal grids it takes the coarsest one
  with a point in the interval of numbers that round to the double, and there the nearest point.
* `Decimal.ofFloat` decodes a double and applies it.
* `Decimal.text` writes plain digits for the exponents -5 to 15 and scientific notation outside.
-/

namespace StaticAtoms

/-- The number `digits · 10 ^ exponent`, or its negation.  Zero has a sign, too. -/
structure Decimal where
  negative : Bool
  digits : Nat
  exponent : Int
deriving DecidableEq, Repr

/-- The magnitude of a double, `significand · 2 ^ exponent`. -/
structure Binary where
  significand : Nat
  exponent : Int
deriving DecidableEq, Repr

namespace Binary

/-- The exponent of the doubles nearest to zero. -/
def leastExponent : Int := -1074

/-- The leading bit of a significand, which the encoding leaves out. -/
def leadingBit : Nat := 0x10000000000000

/-- Decodes the bits of a finite double, without its sign. -/
def ofBits (bits : Nat) : Binary :=
  let fraction := bits % leadingBit
  let biased := bits / leadingBit % 0x800
  if biased = 0 then ⟨fraction, leastExponent⟩ else ⟨leadingBit + fraction, Int.ofNat biased - 1075⟩

/-- The distance to the lower end of the rounding interval, in quarters of the last place: half as
far as the upper end where the doubles below lie twice as close. -/
def quartersBelow (number : Binary) : Nat :=
  if number.significand = leadingBit ∧ number.exponent ≠ leastExponent then 1 else 2

end Binary

namespace Decimal

/-- The point of the grid `10 ^ k` nearest to the number, if it lies in the rounding interval.  The
ends of the interval belong to it when the significand is even; a tie goes to the even point. -/
def onGrid? (number : Binary) (k : Int) : Option Nat :=
  let quarter := number.exponent - 2
  let scale := Nat.pow 2 quarter.toNat * Nat.pow 10 (-k).toNat
  let step := Nat.pow 10 k.toNat * Nat.pow 2 (-quarter).toNat
  let value := 4 * number.significand * scale
  let lower := (4 * number.significand - number.quartersBelow) * scale
  let upper := (4 * number.significand + 2) * scale
  let inside (point : Nat) : Bool :=
    if number.significand % 2 = 0 then lower ≤ point * step && point * step ≤ upper
    else lower < point * step && point * step < upper
  let floor := value / step
  let below := value - floor * step
  let above := (floor + 1) * step - value
  let preferFloor := below < above || (below = above && floor % 2 = 0)
  if inside floor && (preferFloor || !inside (floor + 1)) then some floor
  else if inside (floor + 1) then some (floor + 1)
  else none

/-- Tries `count` grids, each ten times finer than the one before, from `10 ^ k` on. -/
def search (number : Binary) : (count : Nat) → (k : Int) → Nat × Int
  | 0, k => (0, k)
  | count + 1, k =>
      match onGrid? number k with
      | some point => (point, k)
      | none => search number count (k - 1)

/-- The coarsest grid that can hold a finite double. -/
def coarsest : Int := 309

/-- More grids than there are between the largest double and the last digit of the smallest. -/
def gridCount : Nat := 660

/-- The decimal with the fewest digits that reads back as the number. -/
def shortest (negative : Bool) (number : Binary) : Decimal :=
  if number.significand = 0 then ⟨negative, 0, 0⟩
  else
    let (digits, exponent) := search number gridCount coarsest
    ⟨negative, digits, exponent⟩

/-- The shortest decimal that reads back as a finite double. -/
def ofFloat (value : Float) : Decimal :=
  let bits := value.toBits.toNat
  shortest (0x8000000000000000 ≤ bits) (Binary.ofBits bits)

/-- The digits with a point, where the first of them counts `10 ^ lead`. -/
def positional (digits : List Char) (lead : Int) : List Char :=
  if lead < 0 then
    ['0', '.'] ++ List.replicate (-lead - 1).toNat '0' ++ digits
  else
    let whole := lead.toNat + 1
    let fraction := digits.drop whole
    digits.take whole ++ List.replicate (whole - digits.length) '0' ++ ['.']
      ++ (if fraction.isEmpty then ['0'] else fraction)

/-- The digits with a point after the first of them, and its exponent. -/
def scientific (digits : List Char) (lead : Int) : List Char :=
  let fraction := digits.drop 1
  digits.take 1 ++ (if fraction.isEmpty then [] else '.' :: fraction)
    ++ ['e', if lead < 0 then '-' else '+'] ++ Nat.toDigits 10 lead.natAbs

/-- The text of a decimal. -/
def text (number : Decimal) : String :=
  let digits := Nat.toDigits 10 number.digits
  let lead := (digits.length : Int) - 1 + number.exponent
  let magnitude :=
    if -5 ≤ lead ∧ lead ≤ 15 then positional digits lead else scientific digits lead
  String.ofList (if number.negative then '-' :: magnitude else magnitude)

end Decimal

end StaticAtoms
