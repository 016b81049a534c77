import StaticAtoms.Proofs.Table.Runs

/-!
# The facts that atoms carry

An atom carries the hash of its text and whether the text is free of capitals, and nothing ever
compares them with the text again.  They are right because every call that gives an atom computes them
or hands on an atom that some other call gave.

* `Atom.Obtained` and `Table.Obtained` are the atoms and the tables that calls lead to, the atoms taken
  from tables and put into others included.
* `Atom.Obtained.built` and `Table.Obtained.reachable` say that this makes no new ones: by induction on
  the calls, an atom is one of its text, and a table is one of a run.

`Atom.facts_follow_text` is the main statement.
-/

namespace StaticAtoms

/-! ## What calls lead to -/

mutual

/-- An atom that calls lead to: it is built, or it comes out of a table. -/
inductive Atom.Obtained : {ι : Type} → Atom ι → Prop where
  | new {ι : Type} {atom : Atom ι} (built : atom.Built) : Atom.Obtained atom
  /-- A copy, which as a value is the atom itself. -/
  | clone {ι : Type} {atom : Atom ι} (obtained : Atom.Obtained atom) : Atom.Obtained atom
  | resolved {ι : Type} {table : Table ι} {id : AtomId} {atom : Atom ι}
      (obtained : Table.Obtained table) (found : table.get? id = some atom) : Atom.Obtained atom
  | listed {ι : Type} {table : Table ι} {id : AtomId} {atom : Atom ι}
      (obtained : Table.Obtained table) (member : (id, atom) ∈ table.toList) : Atom.Obtained atom

/-- A table that calls lead to, where the atoms that are inserted may come out of other tables. -/
inductive Table.Obtained : {ι : Type} → Table ι → Prop where
  | empty {ι : Type} : Table.Obtained (Table.empty : Table ι)
  | intern {ι : Type} {table : Table ι} (obtained : Table.Obtained table) (ident : ι)
      (text : String) : Table.Obtained (table.intern ident text).2
  | insert {ι : Type} {table : Table ι} {atom : Atom ι} (obtained : Table.Obtained table)
      (inserted : Atom.Obtained atom) : Table.Obtained (table.insert atom).2
  | register {table : Table String} (obtained : Table.Obtained table) (atoms : List StaticAtom) :
      Table.Obtained (table.register atoms).2
  | reserve {ι : Type} {table : Table ι} (obtained : Table.Obtained table) (count : Nat) :
      Table.Obtained (table.reserve count)
  /-- A copy, which as a value is the table itself. -/
  | clone {ι : Type} {table : Table ι} (obtained : Table.Obtained table) : Table.Obtained table
  | clear {ι : Type} {table : Table ι} (obtained : Table.Obtained table) :
      Table.Obtained table.clear

end

-- The induction is on the calls for atoms and tables at once, as either may come from the other.
mutual

theorem Atom.Obtained.built : ∀ {ι : Type} {atom : Atom ι}, atom.Obtained → atom.Built
  | _, _, .new built => built
  | _, _, .clone obtained => obtained.built
  | _, _, .resolved obtained found => obtained.reachable.filed.built_of_get? found
  | _, _, .listed obtained member =>
      obtained.reachable.filed.built_of_get? (Table.mem_toList_iff.1 member)

theorem Table.Obtained.reachable :
    ∀ {ι : Type} {table : Table ι}, table.Obtained → table.Reachable
  | _, _, .empty => ⟨[], rfl⟩
  | _, _, .intern obtained ident text => obtained.reachable.step (.intern ident text)
  | _, _, .insert obtained inserted => obtained.reachable.step (.insert _ inserted.built)
  | _, _, .register obtained atoms => obtained.reachable.register atoms
  | _, _, .reserve obtained count => obtained.reachable.step (.reserve count)
  | _, _, .clone obtained => obtained.reachable
  | _, _, .clear obtained => obtained.reachable.step .clear

end

/-! ## What follows for equality and for static atoms -/

namespace Atom

variable {ι : Type}

/-- All four fields are compared, but the facts are equal wherever the texts are. -/
theorem Built.beq_eq [BEq ι] {left right : Atom ι} (builtLeft : left.Built)
    (builtRight : right.Built) :
    (left == right) = (left.ident == right.ident && left.text == right.text) := by
  have fields : (left == right) = (left.ident == right.ident && (left.text == right.text &&
      (left.hash == right.hash && left.lowercase == right.lowercase))) := rfl
  rw [fields, builtLeft.hash_eq, builtLeft.lowercase_eq, builtRight.hash_eq,
    builtRight.lowercase_eq]
  cases same : left.text == right.text with
  | false => rw [Bool.false_and]
  | true => rw [eq_of_beq same, beq_self_eq_true, beq_self_eq_true, Bool.and_self, Bool.and_true]

theorem Built.eq_iff {left right : Atom ι} (builtLeft : left.Built) (builtRight : right.Built) :
    left = right ↔ left.ident = right.ident ∧ left.text = right.text := by
  constructor
  · rintro rfl
    exact ⟨rfl, rfl⟩
  · rintro ⟨sameIdent, sameText⟩
    rw [builtLeft.eq_ofText, builtRight.eq_ofText, sameIdent, sameText]

theorem Built.verify_toStatic [ToString ι] {atom : Atom ι} (built : atom.Built) :
    atom.toStatic.verify = .ok () :=
  StaticAtom.verify_eq_ok_iff.2 ⟨built.hash_eq, built.lowercase_eq⟩

theorem Built.toAtom_toStatic {atom : Atom String} (built : atom.Built) :
    atom.toStatic.toAtom = atom :=
  built.eq_ofText.symm

end Atom

/-- The atom of a static atom computes its facts anew. -/
theorem StaticAtom.toStatic_toAtom (static : StaticAtom) :
    static.toAtom.toStatic = .compute static.ident static.string := rfl

/-- Whatever calls an atom comes from, it carries the facts of its text.  So two atoms are equal, by
the test of equality and as values, if their identities and texts are; a static atom that an atom is
turned into passes its check and gives the atom back; and a static atom passes its check if and only if
it comes back from the atom that it stands for. -/
theorem Atom.facts_follow_text :
    (∀ {ι : Type} (atom : Atom ι), atom.Obtained →
      atom.hash = Hash.ofText atom.text ∧ atom.lowercase = isLowercase atom.text) ∧
    (∀ {ι : Type} [BEq ι] (left right : Atom ι), left.Obtained → right.Obtained →
      (left == right) = (left.ident == right.ident && left.text == right.text)) ∧
    (∀ {ι : Type} (left right : Atom ι), left.Obtained → right.Obtained →
      (left = right ↔ left.ident = right.ident ∧ left.text = right.text)) ∧
    (∀ {ι : Type} [ToString ι] (atom : Atom ι), atom.Obtained → atom.toStatic.verify = .ok ()) ∧
    (∀ atom : Atom String, atom.Obtained → atom.toStatic.toAtom = atom) ∧
    ∀ static : StaticAtom, static.verify = .ok () ↔ static.toAtom.toStatic = static := by
  refine ⟨fun atom obtained => ?_, fun left right obtainedLeft obtainedRight => ?_,
    fun left right obtainedLeft obtainedRight => ?_, fun atom obtained => ?_,
    fun atom obtained => ?_, fun static => ?_⟩
  · exact ⟨obtained.built.hash_eq, obtained.built.lowercase_eq⟩
  · exact obtainedLeft.built.beq_eq obtainedRight.built
  · exact obtainedLeft.built.eq_iff obtainedRight.built
  · exact obtained.built.verify_toStatic
  · exact obtained.built.toAtom_toStatic
  · rw [StaticAtom.toStatic_toAtom, StaticAtom.verify_eq_ok_iff_eq_compute, eq_comm]

/-- An atom of a static atom with wrong facts, taken out of one table and put into another one. -/
theorem Atom.facts_follow_text_tampered :
    let first := (Table.empty.insert (⟨"first", "Mozilla", 7, true⟩ : StaticAtom).toAtom).2
    ∃ atom, first.get? ⟨0⟩ = some atom ∧
      ∃ moved, (Table.empty.insert atom).2.toList = [(⟨0⟩, moved)] ∧
        moved.hash = Hash.ofText "Mozilla" ∧ moved.lowercase = isLowercase "Mozilla" ∧
        (moved == .ofText "second" "Mozilla") = false ∧ moved ≠ .ofText "second" "Mozilla" ∧
        moved.toStatic.verify = .ok () ∧ moved.toStatic.toAtom = atom := by
  intro first
  obtain ⟨facts, beq, eq, verifies, back, -⟩ := facts_follow_text
  have obtainedFirst : first.Obtained := .insert .empty (.new (.ofStatic _))
  have found : first.get? ⟨0⟩ = some (.ofText "first" "Mozilla") := rfl
  have obtained : (Atom.ofText "first" "Mozilla").Obtained := .resolved obtainedFirst found
  have listing : (Table.empty.insert (Atom.ofText "first" "Mozilla")).2.toList =
      [(⟨0⟩, .ofText "first" "Mozilla")] := rfl
  have moved : (Atom.ofText "first" "Mozilla").Obtained :=
    .listed (.insert .empty obtained) (listing ▸ List.mem_singleton_self _)
  obtain ⟨hash, lowercase⟩ := facts _ moved
  have other : (Atom.ofText "second" "Mozilla").Obtained := .new (.ofText "second" "Mozilla")
  refine ⟨_, found, _, listing, hash, lowercase, (beq _ _ moved other).trans (by decide),
    fun same => ?_, verifies _ moved, back _ moved⟩
  obtain ⟨sameIdent, -⟩ := (eq _ _ moved other).1 same
  exact absurd sameIdent (by decide)

end StaticAtoms
