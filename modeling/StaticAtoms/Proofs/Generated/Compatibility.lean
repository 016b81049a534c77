import StaticAtoms.Proofs.Cache.Directories
import StaticAtoms.Proofs.Generated.RoundTrip
import StaticAtoms.Proofs.Json.Insertion

/-!
# Extra members in tables and manifests

Tables and their entries are open records, manifests and their declarations are closed ones.  A member
with an unknown key and any value behind it, which a later version may write, is therefore passed over
in a table and refused in a manifest: `extra_members_passed_over_or_refused`.  The key has to denote a text,
or a table is refused, too.
-/

namespace StaticAtoms

open Json

/-! ## Readers -/

theorem StaticAtom.exactFields_record : record.ExactFields := by
  simp only [Record.ExactFields, record, List.forall_mem_cons]
  exact ⟨exact_text.map _, exact_text.map _, exact_word32.map _, exact_boolean.map _, by simp⟩

theorem Declaration.exactFields_record : record.ExactFields := by
  simp only [Record.ExactFields, record, List.forall_mem_cons]
  exact ⟨exact_text.map _, exact_text.map _, by simp⟩

namespace GeneratedTable

theorem exactFields_record : record.ExactFields := by
  have atoms := (Record.exact StaticAtom.exactFields_record).list
  simp only [Record.ExactFields, record, List.forall_mem_cons]
  exact ⟨exact_text.map _, atoms.map _, by simp⟩

theorem encloses_record : record.Encloses "atoms" StaticAtom.record where
  exact := exactFields_record
  exactInner := StaticAtom.exactFields_record
  distinct := by decide
  listed := ⟨_, _, rfl, rfl⟩

theorem parse_eq_ok_iff {source : String} {table : GeneratedTable} :
    parse source = .ok table ↔ Json.parse record.reader source = .ok table := by
  unfold parse
  cases Json.parse record.reader source <;> simp

/-- One more member with an unknown key in the text of a table, or of one of its entries. -/
def Extended : String → String → Prop :=
  InSource (Inserted Grown ["fingerprint", "atoms"] "atoms"
    ["ident", "string", "hash", "is_ascii_lowercase"])

theorem parse_of_extended {source changed : String} {table : GeneratedTable}
    (extended : Extended source changed) (parsed : parse source = .ok table) :
    parse changed = .ok table := by
  have keeps := encloses_record.keeps_inserted rfl rfl
  rw [parse_eq_ok_iff] at parsed ⊢
  exact keeps.parse (Record.exact exactFields_record) (sound_inserted sound_grown _ _ _) extended parsed

end GeneratedTable

namespace Manifest

theorem exactFields_record : record.ExactFields := by
  have atoms := (Record.exact Declaration.exactFields_record).list
  simp only [Record.ExactFields, record, List.forall_mem_cons]
  exact ⟨atoms.map _, by simp⟩

theorem encloses_record : record.Encloses "atoms" Declaration.record where
  exact := exactFields_record
  exactInner := Declaration.exactFields_record
  distinct := by decide
  listed := ⟨_, _, rfl, rfl⟩

/-- One more member in the text of a manifest, or of one of its declarations, with a key that is unknown or
denotes no text. -/
def Extended : String → String → Prop :=
  InSource (Inserted Widened ["atoms"] "atoms" ["ident", "string"])

theorem parse_of_extended {source changed : String} (extended : Extended source changed) :
    ∃ cause, parse changed = .error (.invalidManifest cause) := by
  have refuses := encloses_record.refuses_inserted rfl rfl
  obtain ⟨cause, refused⟩ :=
    refuses.parse (Record.exact exactFields_record) (sound_inserted sound_widened _ _ _) extended
  exact ⟨cause, by rw [parse, refused]⟩

theorem wellFormed_of_parse {source : String} {manifest : Manifest}
    (parsed : parse source = .ok manifest) : WellFormed source := by
  unfold parse at parsed
  split at parsed
  next read => exact (Record.exact exactFields_record).wellFormed read
  next => cases parsed

end Manifest

/-! ## Extra members -/

/-- Tables are open and manifests are closed.  With one more member anywhere in a table or in one of
its entries, the same table is read, and the tool says the same about it.  With one more member
anywhere in a manifest or in one of its declarations, nothing is read.  The key of the member is spelled
in any way in which a text can be; in a manifest it may also be half of a surrogate pair, which denotes
none.  The value is any well-formed value, whatever the brackets in it and even if it denotes nothing that
a text or a number can be. -/
theorem extra_members_passed_over_or_refused (source : String) :
    (∀ table, GeneratedTable.parse source = .ok table → WellFormed source ∧
      ∀ changed, GeneratedTable.Extended source changed →
        GeneratedTable.parse changed = .ok table ∧ check changed = check source ∧
        ∀ arguments options path store storeBehind,
          understand arguments = .ok (options, .verify path) → store.readText path = .ok source →
          storeBehind.readText path = .ok changed →
            (runOn arguments storeBehind).1 = (runOn arguments store).1) ∧
    (∀ manifest, Manifest.parse source = .ok manifest → WellFormed source ∧
      ∀ changed, Manifest.Extended source changed →
        ∃ problem, Manifest.parse changed = .error problem ∧ problem.code.text = "E001") := by
  constructor
  · intro table parsed
    have read := GeneratedTable.parse_eq_ok_iff.1 parsed
    refine ⟨(Record.exact GeneratedTable.exactFields_record).wellFormed read, ?_⟩
    intro changed extended
    have parsedBehind := GeneratedTable.parse_of_extended extended parsed
    have checked : check changed = check source := by
      simp only [check, parsed, parsedBehind]
    refine ⟨parsedBehind, checked, ?_⟩
    intro arguments options path store storeBehind understood contains containsBehind
    simp only [runOn_of_understand understood, performOn_verify, contains, containsBehind, checked]
  · intro manifest parsed
    refine ⟨Manifest.wellFormed_of_parse parsed, ?_⟩
    intro changed extended
    obtain ⟨cause, refused⟩ := Manifest.parse_of_extended extended
    exact ⟨_, refused, rfl⟩

namespace Json

/-- An item without blanks. -/
def Item.plain (value : List Char) : Item :=
  ⟨[], value, [], blank_nil, blank_nil⟩

/-- A member without blanks. -/
def Member.plain (name : String) (value : List Char) : Member :=
  ⟨[], writeText name, [], .plain value, Spells.isText (textForm_writeText name), blank_nil, blank_nil⟩

/-- The text of an object in which one object is listed under the key `atoms`. -/
def listingSource (front members : List Member) : String :=
  String.ofList (Item.plain (objectText []
    (front ++ [.plain "atoms" (listText [] [.plain (objectText [] members)])]))).text

/-- A list of half of a surrogate pair, a number beyond all bounds, and an empty list. -/
def oddValue : List Char :=
  listText [] [.plain "\"\\ud800\"".toList, .plain "1e999".toList, .plain (listText [] [])]

theorem isValue_writeText (text : String) : IsValue (writeText text) :=
  .text (Spells.isText (textForm_writeText text))

theorem isValue_oddValue : IsValue oddValue := by
  have hex : IsHexDigit 13 'd' ∧ IsHexDigit 8 '8' ∧ IsHexDigit 0 '0' := ⟨.inl rfl, .inl rfl, .inl rfl⟩
  obtain ⟨first, second, zero⟩ := hex
  have half : UnitForm 0xD800 ['d', '8', '0', '0'] [] := .digits first second zero zero rfl
  have text : IsText ('"' :: ([['\\', 'u', 'd', '8', '0', '0']].flatten ++ ['"'])) :=
    .quoted (by simpa using IsSymbol.unit half)
  have number : IsNumber ([] ++ (['1'] ++ ([] ++ 'e' :: ([] ++ ['9', '9', '9'])))) :=
    .parts (by decide) (.digits ⟨by simp, by simp⟩ (by decide)) .none
      (.digits (.inl rfl) (by decide) ⟨by simp, by simp⟩)
  have empty : IsValue (listText [] []) := .list blank_nil (by simp)
  refine .list blank_nil ?_
  simp only [List.forall_mem_cons]
  exact ⟨.text text, .number number, empty, by simp⟩

theorem inSource_listingSource {grows : List String → Change} {outer inner : List String}
    {front members : List Member}
    (frontValues : ∀ member ∈ front, IsValue member.item.value)
    (values : ∀ member ∈ members, IsValue member.item.value) (undeclared : "note" ∉ inner)
    (covers : ∀ spelling changed, Grown inner spelling changed → grows inner spelling changed) :
    InSource (Inserted grows outer "atoms" inner) (listingSource front members)
      (listingSource front (.plain "note" oddValue :: members)) := by
  have extraValue : IsValue (Member.plain "note" oddValue).item.value := isValue_oddValue
  have grown : Grown inner (objectText [] ([] ++ members))
      (objectText [] ([] ++ .plain "note" oddValue :: members)) :=
    .insert blank_nil (List.forall_mem_cons.2 ⟨extraValue, values⟩) (textForm_writeText "note")
      undeclared
  have object : IsValue (Item.plain (objectText [] members)).value := .object blank_nil values
  have entry : InItem (fun _ => True) (grows inner)
      (listText [] ([] ++ [.plain (objectText [] members)]))
      (listText [] ([] ++ [.plain (objectText [] (.plain "note" oddValue :: members))])) :=
    .item blank_nil (List.forall_mem_singleton.2 object) trivial (covers _ _ grown)
  have listed : IsValue
      (Member.plain "atoms" (listText [] [.plain (objectText [] members)])).item.value :=
    .list blank_nil (List.forall_mem_singleton.2 object)
  have within : InMember "atoms" (InItem (fun _ => True) (grows inner))
      (objectText [] (front ++ [.plain "atoms" (listText [] [.plain (objectText [] members)])]))
      (objectText [] (front ++ [.plain "atoms"
        (listText [] [.plain (objectText [] (.plain "note" oddValue :: members))])])) :=
    .member blank_nil (List.forall_mem_append.2 ⟨frontValues, List.forall_mem_singleton.2 listed⟩)
      (textForm_writeText "atoms") entry
  exact .value (.entry within)

end Json

/-- The members of a declaration. -/
def declarationMembers : List Member :=
  [.plain "ident" (Json.writeText "a"), .plain "string" (Json.writeText "b")]

/-- The members of an entry. -/
def entryMembers : List Member :=
  declarationMembers ++ [.plain "hash" ['1'], .plain "is_ascii_lowercase" (writeFlag true)]

theorem values_declarationMembers : ∀ member ∈ declarationMembers, IsValue member.item.value :=
  List.forall_mem_cons.2 ⟨isValue_writeText "a", List.forall_mem_singleton.2 (isValue_writeText "b")⟩

theorem values_entryMembers : ∀ member ∈ entryMembers, IsValue member.item.value := by
  have number : IsNumber ([] ++ (['1'] ++ ([] ++ []))) :=
    .parts (by decide) (.digits ⟨by simp, by simp⟩ (by decide)) .none .none
  have flag : IsValue (writeFlag true) := .word (writeFlag_mem_words true)
  refine List.forall_mem_append.2 ⟨values_declarationMembers, ?_⟩
  exact List.forall_mem_cons.2 ⟨.number number, List.forall_mem_singleton.2 flag⟩

def plainTable : String :=
  "\x7b\"fingerprint\":\"\",\"atoms\":[\x7b\"ident\":\"a\",\"string\":\"b\",\"hash\":1,"
    ++ "\"is_ascii_lowercase\":true\x7d]\x7d"

def notedTable : String :=
  "\x7b\"fingerprint\":\"\",\"atoms\":[\x7b\"note\":[\"\\ud800\",1e999,[]],"
    ++ "\"ident\":\"a\",\"string\":\"b\",\"hash\":1,\"is_ascii_lowercase\":true\x7d]\x7d"

theorem extended_notedTable : GeneratedTable.Extended plainTable notedTable := by
  have front : ∀ member ∈ [Member.plain "fingerprint" (Json.writeText "")],
      IsValue member.item.value := List.forall_mem_singleton.2 (isValue_writeText "")
  have plain : listingSource [.plain "fingerprint" (Json.writeText "")] entryMembers = plainTable := by
    decide +kernel
  have noted : listingSource [.plain "fingerprint" (Json.writeText "")]
      (.plain "note" oddValue :: entryMembers) = notedTable := by decide +kernel
  rw [← plain, ← noted]
  exact inSource_listingSource front values_entryMembers (by decide) fun _ _ grown => grown

def plainManifest : String :=
  "\x7b\"atoms\":[\x7b\"ident\":\"a\",\"string\":\"b\"\x7d]\x7d"

def notedManifest : String :=
  "\x7b\"atoms\":[\x7b\"note\":[\"\\ud800\",1e999,[]],\"ident\":\"a\",\"string\":\"b\"\x7d]\x7d"

theorem extended_notedManifest : Manifest.Extended plainManifest notedManifest := by
  have plain : listingSource [] declarationMembers = plainManifest := by decide +kernel
  have noted : listingSource [] (.plain "note" oddValue :: declarationMembers) = notedManifest := by
    decide +kernel
  rw [← plain, ← noted]
  exact inSource_listingSource (by simp) values_declarationMembers (by decide)
    fun _ _ grown => grown.widened

/-- A store with a table in a file. -/
def tableFile (source : String) : Store :=
  .ofNodes [(["atoms.json"], .file (Text.utf8 source))]

theorem readText_tableFile (source : String) : (tableFile source).readText "atoms.json" = .ok source :=
  Store.readText_eq_ok_iff.2 rfl

/-- A note is put in front of the members of an entry, and of those of a declaration. -/
theorem extra_members_passed_over_or_refused_note :
    GeneratedTable.parse notedTable = .ok ⟨"", [⟨"a", "b", 1, true⟩]⟩ ∧
    (runOn ["verify", "atoms.json"] (tableFile notedTable)).1 =
      (runOn ["verify", "atoms.json"] (tableFile plainTable)).1 ∧
    ∃ problem, Manifest.parse notedManifest = .error problem ∧ problem.code.text = "E001" := by
  have table : GeneratedTable.parse plainTable = .ok ⟨"", [⟨"a", "b", 1, true⟩]⟩ :=
    Cache.Directory.toOption_eq_some_iff.1 (by decide +kernel)
  have manifest : Manifest.parse plainManifest = .ok ⟨[⟨"a", "b"⟩]⟩ :=
    Cache.Directory.toOption_eq_some_iff.1 (by decide +kernel)
  obtain ⟨-, keeps⟩ := (extra_members_passed_over_or_refused plainTable).1 _ table
  obtain ⟨-, refuses⟩ := (extra_members_passed_over_or_refused plainManifest).2 _ manifest
  obtain ⟨parsed, -, verified⟩ := keeps notedTable extended_notedTable
  exact ⟨parsed, verified _ _ _ _ _ understand_verify (readText_tableFile plainTable)
    (readText_tableFile notedTable), refuses notedManifest extended_notedManifest⟩

end StaticAtoms
