import StaticAtoms.Json.Reader

/-!
# Readers of records

A `Json.Record` describes a value with named fields: how each field is read into a draft, and how the
finished draft becomes the value.  `Record.reader` reads its two spellings, an object with the fields
in any order and a list with the fields in their declared order.

A closed record refuses keys that it does not know; an open one passes over their values.
-/

namespace StaticAtoms.Json

/-- A field of a record: its key, whether a draft has it, and how its value is put into a draft. -/
structure Field (δ : Type) where
  key : String
  isSet : δ → Bool
  value : Reader (δ → δ)

/-- A record that is read through drafts.  A draft that lacks a field has no finished form; the first
such field is named. -/
structure Record (δ ρ : Type) where
  name : String
  blank : δ
  fields : List (Field δ)
  isOpen : Bool
  finish : δ → Except String ρ

namespace Record

variable {δ ρ : Type}

/-! ## Keys -/

/-- Reads a key in front of `s`. -/
def keyAt : List Char → Except Failure (Option String × List Char)
  | '"' :: rest =>
      match readText rest with
      | .error failure => .error failure
      | .ok (key, rest) => .ok (some key, rest)
  | s => .error (.next .keyNotText s)

/-- Reads the next key of an object and the comma in front of it, except before the first key.  There
is no key at the closing bracket, which is taken off. -/
def nextKey (first : Bool) (s : List Char) : Except Failure (Option String × List Char) :=
  match skipBlank s with
  | [] => .error (.here .endInObject [])
  | c :: rest =>
      if c = '\x7d' then .ok (none, rest)
      else if first then keyAt (c :: rest)
      else if c = ',' then
        match skipBlank rest with
        | [] => .error (.here .endInValue [])
        | c :: rest =>
            if c = '\x7d' then .error (.next .trailingComma (c :: rest)) else keyAt (c :: rest)
      else .error (.next .noCommaInObject (c :: rest))

/-- The failure of a key: it stands behind the blanks that follow the key and the closing bracket, if
there is one. -/
def atKey (problem : Problem) (s : List Char) : Failure :=
  match skipBlank s with
  | '\x7d' :: rest => .here problem rest
  | s => .here problem s

theorem length_keyAt {s rest : List Char} {key : Option String}
    (read : keyAt s = .ok (key, rest)) : rest.length < s.length := by
  unfold keyAt at read
  grind [→ length_readText]

theorem length_nextKey {first : Bool} {s rest : List Char} {key : Option String}
    (read : nextKey first s = .ok (key, rest)) : rest.length < s.length := by
  unfold nextKey at read
  have := length_skipBlank_le s
  grind [length_skipBlank_le, → length_keyAt]

/-! ## Objects -/

/-- The field with the given key. -/
def field? (record : Record δ ρ) (key : String) : Option (Field δ) :=
  record.fields.find? fun field => field.key = key

/-- Reads what follows a key, and puts it into the draft. -/
def readMember (record : Record δ ρ) (draft : δ) (key : String) (s : List Char) :
    Except Failure (δ × List Char) :=
  match record.field? key with
  | some field =>
      if field.isSet draft then .error (atKey (.duplicateField key) s)
      else
        match colon s with
        | .error failure => .error failure
        | .ok s =>
            match field.value.read s with
            | .error failure => .error failure
            | .ok (put, rest) => .ok (put draft, rest)
  | none =>
      if record.isOpen then
        match colon s with
        | .error failure => .error failure
        | .ok s =>
            match skipValue s with
            | .error failure => .error failure
            | .ok rest => .ok (draft, rest)
      else .error (atKey (.unknownField key (record.fields.map Field.key)) s)

theorem length_readMember {record : Record δ ρ} {draft after : δ} {key : String}
    {s rest : List Char} (read : record.readMember draft key s = .ok (after, rest)) :
    rest.length < s.length := by
  unfold readMember at read
  split at read
  · rename_i field _
    have := @field.value.shrinks
    grind [→ length_colon]
  · grind [→ length_colon, → length_skipValue]

/-- Reads the members of an object up to its closing bracket. -/
def readMembers (record : Record δ ρ) (first : Bool) (draft : δ) (s : List Char) :
    Except Failure (δ × List Char) :=
  match _ : nextKey first s with
  | .error failure => .error failure
  | .ok (none, rest) => .ok (draft, rest)
  | .ok (some key, afterKey) =>
      match _ : record.readMember draft key afterKey with
      | .error failure => .error failure
      | .ok (draft, rest) => record.readMembers false draft rest
termination_by s.length
decreasing_by
  exact Nat.lt_trans (length_readMember (by assumption)) (length_nextKey (by assumption))

theorem length_readMembers {record : Record δ ρ} {first : Bool} {draft after : δ}
    {s rest : List Char} (read : record.readMembers first draft s = .ok (after, rest)) :
    rest.length < s.length := by
  fun_induction readMembers record first draft s <;>
    grind [→ length_nextKey, → length_readMember]

/-! ## Lists -/

/-- Takes off the closing bracket of a list behind the last field. -/
def closeList (s : List Char) : Except Failure (List Char) :=
  match skipBlank s with
  | [] => .error (.here .endInList [])
  | ']' :: rest => .ok rest
  | ',' :: rest =>
      match skipBlank rest with
      | ']' :: rest => .error (.next .trailingComma (']' :: rest))
      | s => .error (.next .trailingText s)
  | s => .error (.next .trailingText s)

/-- Reads the values of the given fields, of which `count` fields are read. -/
def readElements (record : Record δ ρ) (count : Nat) (draft : δ) :
    List (Field δ) → List Char → Except Failure (δ × List Char)
  | [], s =>
      match closeList s with
      | .error failure => .error failure
      | .ok rest => .ok (draft, rest)
  | field :: fields, s =>
      match nextItem (count = 0) s with
      | .error failure => .error failure
      | .ok (false, rest) =>
          .error (.here (.tooShort count record.name record.fields.length) rest)
      | .ok (true, start) =>
          match field.value.read start with
          | .error failure => .error failure
          | .ok (put, rest) => record.readElements (count + 1) (put draft) fields rest

theorem length_closeList {s rest : List Char} (read : closeList s = .ok rest) :
    rest.length < s.length := by
  unfold closeList at read
  have := length_skipBlank_le s
  grind

theorem length_readElements {record : Record δ ρ} {count : Nat} {draft after : δ}
    {fields : List (Field δ)} {s rest : List Char}
    (read : record.readElements count draft fields s = .ok (after, rest)) :
    rest.length < s.length := by
  fun_induction readElements record count draft fields s with
  | case1 => simp at read
  | case2 => grind [→ length_closeList]
  | case3 => simp at read
  | case4 => simp at read
  | case5 => simp at read
  | case6 count draft field fields s start item put rest' taken ih =>
      have := field.value.shrinks taken
      have := length_nextItem item
      have := ih read
      omega

/-! ## Records -/

/-- Turns a complete draft into the record. -/
def complete (record : Record δ ρ) :
    Except Failure (δ × List Char) → Except Failure (ρ × List Char)
  | .error failure => .error failure
  | .ok (draft, rest) =>
      match record.finish draft with
      | .error key => .error (.here (.missingField key) rest)
      | .ok value => .ok (value, rest)

/-- Reads a record in either spelling. -/
def readAt (record : Record δ ρ) (s : List Char) : Except Failure (ρ × List Char) :=
  match skipBlank s with
  | '\x7b' :: rest => record.complete (record.readMembers true record.blank rest)
  | '[' :: rest => record.complete (record.readElements 0 record.blank record.fields rest)
  | s => .error (mismatch s!"struct {record.name}" s)

theorem length_complete {record : Record δ ρ} {s rest : List Char} {value : ρ}
    {read : Except Failure (δ × List Char)}
    (shorter : ∀ draft rest, read = .ok (draft, rest) → rest.length < s.length)
    (done : record.complete read = .ok (value, rest)) : rest.length < s.length := by
  unfold complete at done
  grind

theorem length_readAt {record : Record δ ρ} {s rest : List Char} {value : ρ}
    (read : record.readAt s = .ok (value, rest)) : rest.length < s.length := by
  have blank := length_skipBlank_le s
  unfold readAt at read
  split at read
  · rename_i opened bracket
    rw [bracket, List.length_cons] at blank
    have := length_complete (s := opened) (fun _ _ => length_readMembers) read
    omega
  · rename_i opened bracket
    rw [bracket, List.length_cons] at blank
    have := length_complete (s := opened) (fun _ _ => length_readElements) read
    omega
  · simp at read

/-- Reads a record in either spelling. -/
def reader (record : Record δ ρ) : Reader ρ :=
  ⟨record.readAt, length_readAt⟩

end Record

end StaticAtoms.Json
