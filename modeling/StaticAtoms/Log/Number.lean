/-!
# Numbers in directives

`Number.accepts` recognises the decimal numbers, with a sign, a fraction and an exponent if wanted, and
the names of infinity and of what is not a number.
-/

namespace StaticAtoms.Log.Number

/-- Takes a sign off. -/
def dropSign : List Char → List Char
  | '+' :: rest => rest
  | '-' :: rest => rest
  | s => s

/-- Whether a text is the exponent of a number, or empty. -/
def isExponent : List Char → Bool
  | [] => true
  | c :: rest =>
      let digits := dropSign rest
      (c = 'e' || c = 'E') && !digits.isEmpty && digits.all Char.isDigit

/-- Splits a fraction, which a point begins, off a text: its digits, and the rest. -/
def splitFraction : List Char → List Char × List Char
  | '.' :: rest => (rest.takeWhile Char.isDigit, rest.dropWhile Char.isDigit)
  | s => ([], s)

/-- Whether a text is a number. -/
def accepts (s : List Char) : Bool :=
  let unsigned := dropSign s
  let (fraction, rest) := splitFraction (unsigned.dropWhile Char.isDigit)
  let someDigit := !(unsigned.takeWhile Char.isDigit).isEmpty || !fraction.isEmpty
  ["inf", "infinity", "nan"].contains (String.ofList (unsigned.map Char.toLower))
    || someDigit && isExponent rest

end StaticAtoms.Log.Number
