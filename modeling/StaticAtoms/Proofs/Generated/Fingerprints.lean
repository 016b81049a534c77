import StaticAtoms.Fingerprint
import StaticAtoms.Proofs.Bytes.LittleEndian

/-!
# What fingerprints cover

The bytes that a fingerprint is the hash of tell everything about the atoms: no list of atoms has bytes
that the bytes of another list begin with.  Every field has a fixed length or stands behind its
length, so that the fields can be taken off the front one after another: `encodeText_append_inj`,
`encodeAtom_append_inj` and `flatMap_encodeAtom_inj`.  `encode_prefixFree` is the main
statement.
-/

namespace StaticAtoms.Fingerprint

/-- Whether the number of atoms and the lengths of their texts fit into the four bytes that they are
given. -/
structure Fits (atoms : List StaticAtom) : Prop where
  count : atoms.length < 0x100000000
  idents : ∀ atom ∈ atoms, (Text.utf8 atom.ident).length < 0x100000000
  strings : ∀ atom ∈ atoms, (Text.utf8 atom.string).length < 0x100000000

theorem encodeText_append_inj {left right : String} (fitsLeft : (Text.utf8 left).length < 0x100000000)
    (fitsRight : (Text.utf8 right).length < 0x100000000) {s t : Bytes}
    (same : encodeText left ++ s = encodeText right ++ t) : left = right ∧ s = t := by
  simp only [encodeText, List.append_assoc] at same
  obtain ⟨lengths, behind⟩ := LittleEndian.encode_append_inj fitsLeft fitsRight same
  obtain ⟨texts, rests⟩ := List.append_inj behind lengths
  exact ⟨Text.utf8_injective texts, rests⟩

theorem encodeFlag_append_inj {left right : Bool} {s t : Bytes}
    (same : [if left then (1 : UInt8) else 0] ++ s = [if right then 1 else 0] ++ t) :
    left = right ∧ s = t := by
  obtain ⟨flags, rests⟩ := List.cons.inj same
  refine ⟨?_, rests⟩
  cases left <;> cases right
  · rfl
  · cases flags
  · cases flags
  · rfl

theorem encodeAtom_append_inj {left right : StaticAtom} {s t : Bytes}
    (fitsLeft : Fits [left]) (fitsRight : Fits [right])
    (same : encodeAtom left ++ s = encodeAtom right ++ t) : left = right ∧ s = t := by
  have identLeft := fitsLeft.idents left List.mem_cons_self
  have identRight := fitsRight.idents right List.mem_cons_self
  have stringLeft := fitsLeft.strings left List.mem_cons_self
  have stringRight := fitsRight.strings right List.mem_cons_self
  simp only [encodeAtom, List.append_assoc] at same
  obtain ⟨idents, behindIdent⟩ := encodeText_append_inj identLeft identRight same
  obtain ⟨strings, behindString⟩ := encodeText_append_inj stringLeft stringRight behindIdent
  obtain ⟨hashes, behindHash⟩ :=
    LittleEndian.encode_append_inj left.hash.toNat_lt right.hash.toNat_lt behindString
  obtain ⟨flags, rests⟩ := encodeFlag_append_inj behindHash
  refine ⟨?_, rests⟩
  cases left
  cases right
  simp only [StaticAtom.mk.injEq]
  exact ⟨idents, strings, UInt32.toNat_inj.1 hashes, flags⟩

theorem Fits.of_cons {atom : StaticAtom} {atoms : List StaticAtom} (fits : Fits (atom :: atoms)) :
    Fits [atom] ∧ Fits atoms where
  left :=
    { count := Nat.lt_of_le_of_lt (Nat.succ_le_succ (Nat.zero_le _)) fits.count
      idents := by simpa using fits.idents atom List.mem_cons_self
      strings := by simpa using fits.strings atom List.mem_cons_self }
  right :=
    { count := Nat.lt_of_succ_lt fits.count
      idents := fun other member => fits.idents other (List.mem_cons_of_mem _ member)
      strings := fun other member => fits.strings other (List.mem_cons_of_mem _ member) }

/-- As many atoms on either side, in front of other bytes. -/
theorem flatMap_encodeAtom_inj {left right : List StaticAtom} (fitsLeft : Fits left)
    (fitsRight : Fits right) (counts : left.length = right.length) {s t : Bytes}
    (same : left.flatMap encodeAtom ++ s = right.flatMap encodeAtom ++ t) :
    left = right ∧ s = t := by
  induction left generalizing right with
  | nil =>
    obtain rfl := List.length_eq_zero_iff.1 counts.symm
    exact ⟨rfl, same⟩
  | cons atom left ih =>
    cases right with
    | nil => cases counts
    | cons other right =>
      obtain ⟨fitsAtom, fitsAtoms⟩ := fitsLeft.of_cons
      obtain ⟨fitsOther, fitsOthers⟩ := fitsRight.of_cons
      rw [List.flatMap_cons, List.flatMap_cons, List.append_assoc, List.append_assoc] at same
      obtain ⟨rfl, behind⟩ := encodeAtom_append_inj fitsAtom fitsOther same
      rw [List.length_cons, List.length_cons, Nat.succ_inj] at counts
      obtain ⟨rfl, rests⟩ := ih fitsAtoms fitsOthers counts behind
      exact ⟨rfl, rests⟩

/-- A fingerprint is the hash of the bytes of the atoms.  The bytes of a list of atoms are never the front
of the bytes of another list, so that whatever differs between two lists, different bytes are hashed. -/
theorem encode_prefixFree {left right : List StaticAtom} (fitsLeft : Fits left)
    (fitsRight : Fits right) :
    (∀ atoms, ofAtoms atoms = Sha256.digest (encode atoms)) ∧
      (encode left <+: encode right → left = right) ∧
      (left ≠ right → encode left ≠ encode right) := by
  have equal {s : Bytes} (same : encode left ++ s = encode right) : left = right := by
    rw [← List.append_nil (encode right)] at same
    simp only [encode, List.append_assoc] at same
    obtain ⟨counts, behind⟩ :=
      LittleEndian.encode_append_inj fitsLeft.count fitsRight.count same
    exact (flatMap_encodeAtom_inj fitsLeft fitsRight counts behind).1
  refine ⟨fun _ => rfl, ?_, ?_⟩
  · rintro ⟨rest, same⟩
    exact equal same
  · intro different same
    rw [← List.append_nil (encode left)] at same
    exact different (equal same)

/-- A letter that moves from the identifier to the string changes the bytes. -/
theorem encode_prefixFree_shifted :
    Fits [⟨"ab", "c", 0, true⟩] ∧ Fits [⟨"a", "bc", 0, true⟩] ∧
      ofAtoms [⟨"ab", "c", 0, true⟩] = Sha256.digest (encode [⟨"ab", "c", 0, true⟩]) ∧
      ofAtoms [⟨"a", "bc", 0, true⟩] = Sha256.digest (encode [⟨"a", "bc", 0, true⟩]) ∧
      encode [⟨"ab", "c", 0, true⟩] ≠ encode [⟨"a", "bc", 0, true⟩] := by
  have fitsLeft : Fits [⟨"ab", "c", 0, true⟩] := ⟨by decide, by decide, by decide⟩
  have fitsRight : Fits [⟨"a", "bc", 0, true⟩] := ⟨by decide, by decide, by decide⟩
  obtain ⟨hashed, -, differ⟩ := encode_prefixFree fitsLeft fitsRight
  exact ⟨fitsLeft, fitsRight, hashed _, hashed _, differ (by decide)⟩

end StaticAtoms.Fingerprint
