import StaticAtoms.Hash.Running

/-!
# Hashing piece by piece

All ways to hash a text fold the same words into the running hash: `Hash.mixWords` is this fold, and
`TextHasher.words` are the words of one call to a hasher.

* `TextHasher.hash_feed` is about one call, and `TextHasher.hash_feedAll` about any number of them.
* `TextHasher.feeding_agrees` is the main statement: however the code units of a text are cut into
  calls, the hash is that of the text.
-/

namespace StaticAtoms

namespace Hash

/-- Folds words into the running hash. -/
def mixWords (hash : UInt32) (words : List UInt32) : UInt32 :=
  words.foldl mix hash

theorem mixWords_append (hash : UInt32) (first second : List UInt32) :
    mixWords hash (first ++ second) = mixWords (mixWords hash first) second :=
  List.foldl_append

theorem mixUnits_eq_mixWords (hash : UInt32) (units : List UInt16) :
    mixUnits hash units = mixWords hash (units.map UInt16.toUInt32) :=
  List.foldl_map.symm

theorem ofScalars_eq_mixWords (text : String) :
    ofScalars text = mixWords 0 (text.toList.map Char.val) :=
  List.foldl_map.symm

/-- The code points below U+10000 are the code units. -/
theorem map_val_eq_units {text : String} (narrow : ∀ c ∈ text.toList, c.toNat ≤ 0xFFFF) :
    text.toList.map Char.val = (Utf16.units text).map UInt16.toUInt32 := by
  have single (c : Char) (member : c ∈ text.toList) :
      (Utf16.ofChar c).map UInt16.toUInt32 = [c.val] := by
    have bound : c.toNat < 0x10000 := Nat.lt_succ_of_le (narrow c member)
    rw [Utf16.ofChar, if_pos bound, List.map_singleton, List.singleton_inj, ← UInt32.toNat_inj,
      UInt16.toNat_toUInt32, UInt16.toNat_ofNat_of_lt' bound]
    rfl
  rw [Utf16.units, Utf16.ofChars, List.map_flatMap, List.map_eq_flatMap, List.flatMap_def,
    List.flatMap_def, List.map_congr_left single]

end Hash

namespace TextHasher

/-! ## Calls -/

/-- A call that feeds a hasher of texts. -/
inductive Feed where
  | unit (word : UInt32)
  | units (units : List UInt16)
  | text (text : String)

/-- What a call feeds, one word after another. -/
def words : Feed → List UInt32
  | .unit word => [word]
  | .units units => units.map UInt16.toUInt32
  | .text text => (Utf16.units text).map UInt16.toUInt32

/-- The hasher after a call. -/
def feed (hasher : TextHasher) : Feed → TextHasher
  | .unit word => hasher.writeUnit word
  | .units units => hasher.writeUnits units
  | .text text => hasher.writeText text

/-- The hasher after calls one after another. -/
def feedAll (hasher : TextHasher) (feeds : List Feed) : TextHasher :=
  feeds.foldl feed hasher

theorem hash_writeUnits (hasher : TextHasher) (units : List UInt16) :
    (hasher.writeUnits units).hash = Hash.mixUnits hasher.hash units := by
  induction units generalizing hasher with
  | nil => rfl
  | cons unit units ih => exact ih (hasher.writeUnit unit.toUInt32)

/-- Every call folds in its words. -/
theorem hash_feed (hasher : TextHasher) (call : Feed) :
    (hasher.feed call).hash = Hash.mixWords hasher.hash (words call) := by
  cases call with
  | unit word => rfl
  | units units => rw [feed, hash_writeUnits, Hash.mixUnits_eq_mixWords, words]
  | text text => rw [feed, writeText, hash_writeUnits, Hash.mixUnits_eq_mixWords, words]

theorem hash_feedAll (hasher : TextHasher) (feeds : List Feed) :
    (hasher.feedAll feeds).hash = Hash.mixWords hasher.hash (feeds.flatMap words) := by
  induction feeds generalizing hasher with
  | nil => rfl
  | cons call feeds ih =>
    rw [List.flatMap_cons, Hash.mixWords_append, ← hash_feed]
    exact ih (hasher.feed call)

/-- A hasher that has been fed some code units goes on as if it had been fed all of them. -/
theorem hash_feedAll_ofUnits (before units : List UInt16) {feeds : List Feed}
    (fed : feeds.flatMap words = units.map UInt16.toUInt32) :
    (feedAll ⟨Hash.ofUnits before⟩ feeds).hash = Hash.ofUnits (before ++ units) := by
  rw [hash_feedAll, fed, Hash.ofUnits, Hash.mixUnits_eq_mixWords, Hash.ofUnits,
    Hash.mixUnits_eq_mixWords, List.map_append, Hash.mixWords_append]

/-- However the code units of a text are cut into calls, also between the halves of a pair, the hash is
that of the text, and hashes of units go on from one sequence to the next.  Fed with code points, a
hasher gets the hash of these, which is the same for texts without characters above U+FFFF. -/
theorem feeding_agrees (text : String) :
    (∀ feeds, feeds.flatMap words = (Utf16.units text).map UInt16.toUInt32 →
      (start.feedAll feeds).hash = Hash.ofText text) ∧
    Hash.ofText text = Hash.ofUnits (Utf16.units text) ∧
    (∀ before units feeds, feeds.flatMap words = units.map UInt16.toUInt32 →
      (feedAll ⟨Hash.ofUnits before⟩ feeds).hash = Hash.ofUnits (before ++ units)) ∧
    (start.feedAll (text.toList.map fun c => .unit c.val)).hash = Hash.ofScalars text ∧
    ((∀ c ∈ text.toList, c.toNat ≤ 0xFFFF) → Hash.ofScalars text = Hash.ofText text) := by
  refine ⟨fun feeds fed => ?_, rfl, fun before units feeds fed => ?_, ?_, fun narrow => ?_⟩
  · exact hash_feedAll_ofUnits [] (Utf16.units text) fed
  · exact hash_feedAll_ofUnits before units fed
  · have words : (text.toList.map fun c => Feed.unit c.val).flatMap words =
        text.toList.map Char.val := by
      rw [List.flatMap_map, List.map_eq_flatMap]
      rfl
    rw [hash_feedAll, words, Hash.ofScalars_eq_mixWords]
    rfl
  · rw [Hash.ofScalars_eq_mixWords, Hash.map_val_eq_units narrow, ← Hash.mixUnits_eq_mixWords]
    rfl

/-- Three kinds of calls, with a cut between the halves of a pair. -/
theorem feeding_agrees_cut :
    (start.feedAll [.unit 0x61, .units [0xD83D], .unit 0xDE00, .text "é"]).hash =
        Hash.ofText "a😀é" ∧
      Hash.ofScalars "é" = Hash.ofText "é" := by
  obtain ⟨whole, -⟩ := feeding_agrees "a😀é"
  obtain ⟨-, -, -, -, narrow⟩ := feeding_agrees "é"
  have letter : ∀ c ∈ ['é'], c.toNat ≤ 0xFFFF := List.forall_mem_singleton.2 (by decide)
  exact ⟨whole _ rfl, narrow letter⟩

end TextHasher

end StaticAtoms
