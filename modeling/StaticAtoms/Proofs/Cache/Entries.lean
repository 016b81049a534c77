import StaticAtoms.Cache.Entry
import StaticAtoms.Proofs.Bytes.LittleEndian

/-!
# Written entries

Every field that is written can be read again, with what follows it.  `Entry.written` is what can be
written of an entry; when a text of it is too long, that has no header: `Entry.read_front`.
For one tool version, keys are made from different bytes unless manifest and format are the same:
`keyInput_inj`.
-/

namespace StaticAtoms

theorem Digest.ofBytes?_bytes (digest : Digest) : ofBytes? digest.bytes = some digest := by
  simp only [ofBytes?, digest.length_bytes, ↓reduceDIte]

namespace Cache

/-! ## Fields -/

theorem take?_append {count : Nat} {field : Bytes} (length : field.length = count) (rest : Bytes) :
    take? count (field ++ rest) = some (field, rest) := by
  subst length
  simp only [take?, List.length_append, Nat.le_add_right, ↓reduceIte, List.take_left,
    List.drop_left]

theorem number?_append {width value : Nat} (fits : value < Nat.pow 256 width) (rest : Bytes) :
    number? width (LittleEndian.encode width value ++ rest) = some (value, rest) := by
  simp [number?, take?_append (LittleEndian.length_encode width value),
    LittleEndian.decode_encode fits]

theorem number?_nil {width : Nat} (wide : 0 < width) : number? width [] = none := by
  have short : ¬ width ≤ 0 := by omega
  simp [number?, take?, short]

theorem encodeText?_eq_some_iff {text : String} {spelling : Bytes} :
    encodeText? text = some spelling ↔ (Text.utf8 text).length < lengthLimit ∧
      spelling = LittleEndian.encode 4 (Text.utf8 text).length ++ Text.utf8 text := by
  simp only [encodeText?]
  split
  next short => simp [short, eq_comm]
  next long => simp [long]

theorem length_le_of_encodeText? {text : String} {spelling : Bytes}
    (encoded : encodeText? text = some spelling) : (Text.utf8 text).length ≤ spelling.length := by
  obtain ⟨-, rfl⟩ := encodeText?_eq_some_iff.1 encoded
  rw [List.length_append]
  exact Nat.le_add_left _ _

theorem text?_append {text : String} {spelling : Bytes} (encoded : encodeText? text = some spelling)
    {limit : Nat} (within : (Text.utf8 text).length ≤ limit) (rest : Bytes) :
    text? limit (spelling ++ rest) = some (text, rest) := by
  obtain ⟨short, rfl⟩ := encodeText?_eq_some_iff.1 encoded
  have fits : (Text.utf8 text).length < Nat.pow 256 4 := short
  rw [List.append_assoc]
  simp [text?, number?_append fits, Nat.not_lt.2 within, take?_append rfl, Text.ofUtf8?_utf8]

theorem digest?_append (digest : Digest) (rest : Bytes) :
    digest? (digest.bytes ++ rest) = some (digest, rest) := by
  simp [digest?, take?_append digest.length_bytes, digest.ofBytes?_bytes]

/-! ## Headers -/

theorem version?_append (rest : Bytes) :
    number? 2 (LittleEndian.encode 2 formatVersion ++ rest) = some (formatVersion, rest) :=
  number?_append (by decide) rest

theorem fields?_front {tool : String} {spelling : Bytes}
    (encoded : encodeText? tool = some spelling) {limit : Nat}
    (within : (Text.utf8 tool).length ≤ limit) (key : Digest) :
    Header.fields? limit (LittleEndian.encode 2 formatVersion ++ (spelling ++ (key.bytes ++ []))) =
      none := by
  simp only [Header.fields?, version?_append, text?_append encoded within, digest?_append,
    number?_nil (show 0 < 4 by decide), Option.bind_eq_bind, Option.bind_some, Option.bind_none]

theorem fields?_start (limit : Nat) :
    Header.fields? limit (LittleEndian.encode 2 formatVersion ++ []) = none := by
  simp only [Header.fields?, version?_append, text?, number?_nil (show 0 < 4 by decide),
    Option.bind_eq_bind, Option.bind_some, Option.bind_none]

theorem take?_magic (rest : Bytes) : take? 4 (magic ++ rest) = some (magic, rest) :=
  take?_append (rfl : magic.length = 4) rest

theorem read_of_fields {header : Header} {fields rest : Bytes}
    (found : Header.fields? (magic ++ fields).length fields = some (header, rest))
    (fits : header.outputLength ≤ (magic ++ fields).length) :
    Header.read (magic ++ fields) = .ok (header, rest) := by
  simp only [Header.read, take?_magic, ne_eq, not_true_eq_false, ↓reduceIte, found,
    Nat.not_lt.2 fits]

theorem read_of_no_fields {fields : Bytes}
    (missing : Header.fields? (magic ++ fields).length fields = none) :
    Header.read (magic ++ fields) = .error .absent := by
  simp only [Header.read, take?_magic, ne_eq, not_true_eq_false, ↓reduceIte, missing]

/-! ## Entries -/

namespace Entry

variable {entry : Entry} {content : Bytes}

/-- What is left of an entry with a text that is too long has no header. -/
theorem read_front (cut : entry.encode = .error content) : Header.read content = .error .absent := by
  rw [encode] at cut
  split at cut
  next =>
    cases cut
    have missing := read_of_no_fields (fields?_start _)
    rwa [List.append_nil] at missing
  next spelling toolEncoded =>
    dsimp only at cut
    split at cut
    next =>
      cases cut
      have inside := length_le_of_encodeText? toolEncoded
      have missing := read_of_no_fields
        (fields?_front toolEncoded (by simp only [List.length_append]; omega) entry.key)
      rw [List.append_nil] at missing
      simpa only [start, List.append_assoc] using missing
    next => cases cut

/-- The bytes that are written of an entry, up to the first text that is too long. -/
def written (entry : Entry) : Bytes :=
  match entry.encode with
  | .ok content => content
  | .error front => front

end Entry

/-! ## Keys -/

theorem getLast?_keyInput (manifest : Bytes) (format : OutputFormat) :
    (manifest ++ Text.utf8 format.name).getLast? =
      some (match format with | .listing => 'e'.toUInt8 | .json => 'n'.toUInt8) := by
  cases format with
  | listing =>
    rw [List.getLast?_append]
    rfl
  | json =>
    rw [List.getLast?_append]
    rfl

/-- For one tool version, the bytes that are hashed tell manifest and format. -/
theorem keyInput_inj {manifest other : Bytes} {format otherFormat : OutputFormat} {tool : String} :
    keyInput manifest format tool = keyInput other otherFormat tool ↔
      manifest = other ∧ format = otherFormat := by
  constructor
  · intro same
    have front := List.append_cancel_right same
    have last := congrArg List.getLast? front
    rw [getLast?_keyInput, getLast?_keyInput] at last
    -- The bytes have no lengths in them, but the names of the formats end in different bytes.
    have formats : format = otherFormat := by
      cases format <;> cases otherFormat
      · rfl
      · cases last
      · cases last
      · rfl
    subst formats
    exact ⟨List.append_cancel_right front, rfl⟩
  · rintro ⟨rfl, rfl⟩
    rfl

end Cache

end StaticAtoms
