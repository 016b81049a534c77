/-!
# Bytes of a text

The UTF-8 form of a text as a list of bytes, and back.

* `Text.utf8` is the byte form.
* `Text.ofUtf8?` accepts exactly the byte forms of texts: `ofUtf8?_eq_some_iff`.
-/

namespace StaticAtoms

/-- A byte string. -/
abbrev Bytes := List UInt8

namespace Text

/-- The UTF-8 form of a text. -/
def utf8 (text : String) : Bytes :=
  text.toByteArray.data.toList

/-- The text whose UTF-8 form is given, if there is one. -/
def ofUtf8? (bytes : Bytes) : Option String :=
  String.fromUTF8? ⟨⟨bytes⟩⟩

theorem utf8_injective {left right : String} (same : utf8 left = utf8 right) : left = right :=
  String.toByteArray_inj.1 (ByteArray.ext (Array.toList_inj.1 same))

theorem ofUtf8?_utf8 (text : String) : ofUtf8? (utf8 text) = some text := by
  have valid : (⟨⟨text.toByteArray.data.toList⟩⟩ : ByteArray).IsValidUTF8 := text.isValidUTF8
  simp only [ofUtf8?, utf8, String.fromUTF8?, valid, ↓reduceDIte]
  rfl

/-- Decoding inverts `utf8` and accepts nothing else. -/
theorem ofUtf8?_eq_some_iff {bytes : Bytes} {text : String} :
    ofUtf8? bytes = some text ↔ bytes = utf8 text := by
  constructor
  · intro decoded
    unfold ofUtf8? String.fromUTF8? at decoded
    split at decoded
    · simp only [Option.some.injEq] at decoded
      subst decoded
      rfl
    · contradiction
  · rintro rfl
    exact ofUtf8?_utf8 text

theorem utf8_ofList (chars : List Char) :
    utf8 (String.ofList chars) = chars.flatMap String.utf8EncodeChar := by
  rw [utf8, String.toByteArray_ofList, List.utf8Encode, List.data_toByteArray]

theorem utf8_eq_flatMap (text : String) : utf8 text = text.toList.flatMap String.utf8EncodeChar := by
  rw [← utf8_ofList, String.ofList_toList]

theorem length_utf8 (text : String) : (utf8 text).length = text.utf8ByteSize := by
  rw [← String.size_toByteArray]
  rfl

end Text

end StaticAtoms
