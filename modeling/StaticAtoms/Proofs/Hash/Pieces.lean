import StaticAtoms.Hash.Running

/-!
# Hashing keys piece by piece

A hasher of keys keeps its hash in a word of 64 bits, of which it uses the lower half only.  A piece
that is a 32-bit word replaces the hash, and every other piece is folded in byte by byte.

* `KeyHasher.writeAll_of_wordless` says that pieces which are no 32-bit words come to their bytes, one
  behind the other.
* `KeyHasher.exists_ofHash` says that the state is a 32-bit hash, whatever was fed: one piece keeps it
  so, and then any number of them.

`KeyHasher.hash_of_pieces` is the main statement: the hash is that of the bytes since the last 32-bit
word.
-/

namespace StaticAtoms.KeyHasher

/-! ## Pieces -/

/-- The 32-bit word that a piece is, if it is one. -/
def Piece.word? : Piece → Option UInt32
  | .word32 value => some value
  | .signed32 value => some value.toUInt32
  | _ => none

/-- The bytes of a piece that is no 32-bit word, the lowest byte of a number first. -/
def Piece.toBytes : Piece → Bytes
  | .bytes content => content
  | .word8 value => [value]
  | .signed8 value => [value.toUInt8]
  | .word16 value => LittleEndian.encode 2 value.toNat
  | .signed16 value => LittleEndian.encode 2 value.toUInt16.toNat
  | .word32 _ => []
  | .signed32 _ => []
  | .word64 value => LittleEndian.encode 8 value.toNat
  | .signed64 value => LittleEndian.encode 8 value.toUInt64.toNat
  | .word128 bits => LittleEndian.encode 16 bits.toNat
  | .signed128 bits => LittleEndian.encode 16 bits.toNat
  | .size value => LittleEndian.encode 8 value.toNat
  | .signedSize value => LittleEndian.encode 8 value.toUInt64.toNat
  | .text content => Text.utf8 content ++ [0xFF]

/-- Whether no piece is a 32-bit word. -/
def Wordless (pieces : List Piece) : Prop :=
  ∀ piece ∈ pieces, piece.word? = none

instance (pieces : List Piece) : Decidable (Wordless pieces) :=
  inferInstanceAs (Decidable (∀ piece ∈ pieces, piece.word? = none))

/-- The hasher after pieces, one behind the other. -/
def writeAll (hasher : KeyHasher) (pieces : List Piece) : KeyHasher :=
  pieces.foldl write hasher

theorem writeAll_cons (hasher : KeyHasher) (piece : Piece) (pieces : List Piece) :
    hasher.writeAll (piece :: pieces) = (hasher.write piece).writeAll pieces := rfl

theorem writeAll_append (hasher : KeyHasher) (first second : List Piece) :
    hasher.writeAll (first ++ second) = (hasher.writeAll first).writeAll second :=
  List.foldl_append

theorem write_of_wordless {piece : Piece} (noWord : piece.word? = none) (hasher : KeyHasher) :
    hasher.write piece = hasher.writeBytes piece.toBytes := by
  cases piece with
  | word32 value => cases noWord
  | signed32 value => cases noWord
  | _ => rfl

theorem writeAll_of_wordless (hasher : KeyHasher) {pieces : List Piece}
    (wordless : Wordless pieces) :
    hasher.writeAll pieces = hasher.writeBytes (pieces.flatMap Piece.toBytes) := by
  induction pieces generalizing hasher with
  | nil => rfl
  | cons piece pieces ih =>
    obtain ⟨noWord, wordless⟩ := List.forall_mem_cons.1 wordless
    rw [writeAll_cons, write_of_wordless noWord, ih _ wordless, List.flatMap_cons, writeBytes,
      writeBytes, writeBytes, List.foldl_append]

/-! ## Hashes of 32 bits -/

/-- The hasher whose state is a 32-bit hash. -/
def ofHash (hash : UInt32) : KeyHasher := ⟨hash.toUInt64⟩

theorem state_ofHash_lt (hash : UInt32) : (ofHash hash).state.toNat < UInt32.size := by
  rw [ofHash, UInt32.toNat_toUInt64]
  exact hash.toNat_lt

/-- Narrowing the state and widening it again changes nothing. -/
theorem narrow_ofHash (hash : UInt32) :
    (ofHash hash).state.toUInt32.toUInt64 = (ofHash hash).state := by
  rw [ofHash, UInt32.toUInt32_toUInt64]

theorem write_of_word {piece : Piece} {word : UInt32} (isWord : piece.word? = some word)
    (hasher : KeyHasher) : hasher.write piece = ofHash word := by
  cases piece with
  | word32 value =>
    cases isWord
    rfl
  | signed32 value =>
    cases isWord
    rfl
  | _ => cases isWord

theorem writeByte_ofHash (hash : UInt32) (byte : UInt8) :
    (ofHash hash).writeByte byte = ofHash (Hash.mix hash byte.toUInt32) := by
  rw [writeByte, ofHash, UInt32.toUInt32_toUInt64]
  rfl

theorem writeBytes_ofHash (hash : UInt32) (bytes : Bytes) :
    (ofHash hash).writeBytes bytes = ofHash (Hash.mixBytes hash bytes) :=
  List.foldl_hom ofHash writeByte_ofHash

theorem exists_ofHash (hash : UInt32) (pieces : List Piece) :
    ∃ after, (ofHash hash).writeAll pieces = ofHash after := by
  -- A word starts the hash anew, and bytes go on from it.
  induction pieces generalizing hash with
  | nil => exact ⟨hash, rfl⟩
  | cons piece pieces ih =>
    rw [writeAll_cons]
    cases isWord : piece.word? with
    | some word =>
      rw [write_of_word isWord]
      exact ih word
    | none =>
      rw [write_of_wordless isWord, writeBytes_ofHash]
      exact ih _

/-- The state is less than 2^32 after any pieces, also between the bytes of a further one, so that
narrowing it for the next byte loses nothing.  It is the hash of the bytes since the last 32-bit word,
or since the start if there is none, however these bytes are cut into pieces; and right behind a 32-bit
word it is this word. -/
theorem hash_of_pieces (pieces : List Piece) :
    (∀ bytes, ((start.writeAll pieces).writeBytes bytes).state.toNat < UInt32.size ∧
      ((start.writeAll pieces).writeBytes bytes).state.toUInt32.toUInt64 =
        ((start.writeAll pieces).writeBytes bytes).state) ∧
    (Wordless pieces → (start.writeAll pieces).state =
      (Hash.mixBytes 0 (pieces.flatMap Piece.toBytes)).toUInt64) ∧
    (∀ before piece after word, pieces = before ++ piece :: after → piece.word? = some word →
      Wordless after → (start.writeAll pieces).state =
        (Hash.mixBytes word (after.flatMap Piece.toBytes)).toUInt64) ∧
    (∀ left right, Wordless left → Wordless right →
      left.flatMap Piece.toBytes = right.flatMap Piece.toBytes →
      start.writeAll (pieces ++ left) = start.writeAll (pieces ++ right)) ∧
    ∀ piece word, piece.word? = some word →
      ((start.writeAll pieces).write piece).state = word.toUInt64 := by
  refine ⟨fun bytes => ?_, fun wordless => ?_, ?_, fun left right noLeft noRight same => ?_,
    fun piece word isWord => congrArg state (write_of_word isWord _)⟩
  · obtain ⟨hash, reached⟩ : ∃ hash, start.writeAll pieces = ofHash hash := exists_ofHash 0 pieces
    rw [reached, writeBytes_ofHash]
    exact ⟨state_ofHash_lt _, narrow_ofHash _⟩
  · rw [writeAll_of_wordless start wordless]
    exact congrArg state (writeBytes_ofHash 0 _)
  · -- The word wipes out what was fed before it.
    rintro before piece after word rfl isWord wordless
    rw [writeAll_append, writeAll_cons, write_of_word isWord, writeAll_of_wordless _ wordless]
    exact congrArg state (writeBytes_ofHash word _)
  · rw [writeAll_append, writeAll_append, writeAll_of_wordless _ noLeft,
      writeAll_of_wordless _ noRight, same]

/-- A signed word between other pieces, bytes without a word, and bytes cut in two ways behind one. -/
theorem hash_of_pieces_cut :
    (start.writeAll [.word64 5, .signed32 (-1), .text "é", .signed16 (-2)]).state =
        (Hash.mixBytes 0xFFFFFFFF [0xC3, 0xA9, 0xFF, 0xFE, 0xFF]).toUInt64 ∧
      (start.writeAll [.bytes [0xC3], .bytes [], .word8 0xA9]).state =
        (Hash.mixBytes 0 [0xC3, 0xA9]).toUInt64 ∧
      start.writeAll [.word32 7, .text "é"] =
        start.writeAll [.word32 7, .bytes [0xC3], .word16 0xFFA9] ∧
      ((start.writeAll [.text "é"]).write (.signed32 (-2))).state = 0xFFFFFFFE := by
  obtain ⟨-, -, behind, -, -⟩ :=
    hash_of_pieces [.word64 5, .signed32 (-1), .text "é", .signed16 (-2)]
  obtain ⟨-, whole, -⟩ := hash_of_pieces [.bytes [0xC3], .bytes [], .word8 0xA9]
  obtain ⟨-, -, -, cut, -⟩ := hash_of_pieces [.word32 7]
  obtain ⟨-, -, -, -, word⟩ := hash_of_pieces [.text "é"]
  exact ⟨behind [.word64 5] (.signed32 (-1)) _ _ rfl rfl (by decide), whole (by decide),
    cut [.text "é"] [.bytes [0xC3], .word16 0xFFA9] (by decide) (by decide) (by decide),
    word (.signed32 (-2)) 0xFFFFFFFE rfl⟩

end StaticAtoms.KeyHasher
