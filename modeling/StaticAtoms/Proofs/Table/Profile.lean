import Mathlib.Data.Finset.Card
import StaticAtoms.Proofs.Table.Occupancy
import StaticAtoms.Proofs.Table.Runs

/-!
# The collision profile of a table

`TableStats.Profiles` says what the figures of a table's occupancy have to be, by looking at the atoms
and their texts alone.  A table that a run leads to has these figures, and the order in which its
buckets are visited does not matter: `Table.stats_profile`.
-/

namespace StaticAtoms

/-! ## Profiles -/

/-- The hash of the text of an atom that is listed with its index. -/
def hashOf {ι : Type} (entry : AtomId × Atom ι) : UInt32 :=
  Hash.ofText entry.2.text

/-- Whether figures are those of listed atoms: how many there are; how many distinct hashes their texts
have; how many of them have one hash, at most; and how many have the hash of another one. -/
structure TableStats.Profiles {ι : Type} (stats : TableStats) (entries : List (AtomId × Atom ι)) :
    Prop where
  atoms : stats.atoms = entries.length
  buckets : stats.buckets = (entries.map hashOf).toFinset.card
  bounded : ∀ hash, (entries.map hashOf).count hash ≤ stats.largestBucket
  attained : ∃ hash, (entries.map hashOf).count hash = stats.largestBucket
  collided : stats.collided =
    entries.countP fun entry => ∃ other ∈ entries, other.1 ≠ entry.1 ∧ hashOf other = hashOf entry

section Counting

/-- An entry has the hash of another one if its hash occurs more than once. -/
theorem exists_other_iff {ι : Type} {entries : List (AtomId × Atom ι)} {entry : AtomId × Atom ι}
    (distinct : (entries.map Prod.fst).Nodup) (member : entry ∈ entries) :
    (∃ other ∈ entries, other.1 ≠ entry.1 ∧ hashOf other = hashOf entry) ↔
      1 < (entries.map hashOf).count (hashOf entry) := by
  obtain ⟨before, after, rfl⟩ := List.append_of_mem member
  -- Its own index does not occur beside the entry.
  have apart : ∀ other ∈ before ++ after, other.1 ≠ entry.1 := by
    rw [List.map_append, List.map_cons, List.nodup_middle, List.nodup_cons, ← List.map_append]
      at distinct
    intro other found same
    exact distinct.1 (List.mem_map.2 ⟨other, found, same⟩)
  have count : ((before ++ entry :: after).map hashOf).count (hashOf entry) =
      ((before ++ after).map hashOf).count (hashOf entry) + 1 := by
    simp only [List.map_append, List.map_cons, List.count_append, List.count_cons_self]
    omega
  rw [count, Nat.lt_add_left_iff_pos, List.count_pos_iff, List.mem_map]
  constructor
  · rintro ⟨other, found, different, same⟩
    refine ⟨other, ?_, same⟩
    simp only [List.mem_append, List.mem_cons] at found ⊢
    obtain found | rfl | found := found
    · exact .inl found
    · exact absurd rfl different
    · exact .inr found
  · rintro ⟨other, found, same⟩
    refine ⟨other, ?_, apart other found, same⟩
    exact (List.sublist_cons_self entry after).append_left before |>.subset found

/-- Hashes that occur once are among the distinct ones. -/
theorem countP_single_le (hashes : List UInt32) :
    (hashes.countP fun hash => ¬ 1 < hashes.count hash) ≤ hashes.toFinset.card := by
  have single : (hashes.filter fun hash => ¬ 1 < hashes.count hash).Nodup := by
    rw [List.nodup_iff_count_le_one]
    intro hash
    by_cases repeated : 1 < hashes.count hash
    · rw [List.count_eq_zero_of_not_mem (by simp [repeated])]
      exact Nat.zero_le 1
    · exact (List.filter_sublist.count_le hash).trans (Nat.not_lt.1 repeated)
  rw [List.countP_eq_length_filter, ← List.toFinset_card_of_nodup single]
  refine Finset.card_le_card fun hash member => ?_
  rw [List.mem_toFinset] at member ⊢
  exact List.mem_of_mem_filter member

theorem foldr_max_eq_zero_or_mem (sizes : List Nat) :
    sizes.foldr max 0 = 0 ∨ sizes.foldr max 0 ∈ sizes := by
  induction sizes with
  | nil => exact .inl rfl
  | cons size sizes ih =>
    rw [List.foldr_cons]
    obtain larger | larger := max_choice size (sizes.foldr max 0)
    · rw [larger]
      exact .inr List.mem_cons_self
    · rw [larger]
      exact ih.imp_right (List.mem_cons_of_mem size)

end Counting

namespace TableStats

variable {ι : Type} {entries : List (AtomId × Atom ι)} {stats : TableStats}

theorem profiles_ofHashes (distinct : (entries.map Prod.fst).Nodup) :
    (ofHashes (entries.map hashOf)).Profiles entries := by
  have bounded (hash : UInt32) :
      (entries.map hashOf).count hash ≤ (ofHashes (entries.map hashOf)).largestBucket := by
    by_cases present : hash ∈ entries.map hashOf
    · exact List.le_max_of_le (List.mem_map_of_mem present) (Nat.le_refl _)
    · rw [List.count_eq_zero_of_not_mem present]
      exact Nat.zero_le _
  refine ⟨List.length_map _, (List.card_toFinset _).symm, bounded, ?_, ?_⟩
  · obtain none | most := foldr_max_eq_zero_or_mem
      ((entries.map hashOf).map (entries.map hashOf).count)
    · -- Then no hash occurs at all.
      have limit := bounded 0
      simp only [ofHashes, none] at limit ⊢
      exact ⟨0, Nat.le_zero.1 limit⟩
    · obtain ⟨hash, -, same⟩ := List.mem_map.1 most
      exact ⟨hash, same⟩
  · rw [ofHashes, List.countP_map]
    refine List.countP_congr fun entry member => ?_
    simp only [Function.comp_apply, decide_eq_true_eq]
    exact (exists_other_iff distinct member).symm

/-- The figures bound each other: an atom without a collision has a hash of its own. -/
theorem atoms_sub_collided_le (hashes : List UInt32) :
    (ofHashes hashes).atoms - (ofHashes hashes).collided ≤ (ofHashes hashes).buckets := by
  have parts := List.length_eq_countP_add_countP (fun hash => decide (1 < hashes.count hash))
    (l := hashes)
  have single := countP_single_le hashes
  rw [List.card_toFinset] at single
  simp only [decide_eq_true_eq] at parts
  simp only [ofHashes]
  omega

theorem buckets_le_atoms (hashes : List UInt32) :
    (ofHashes hashes).buckets ≤ (ofHashes hashes).atoms :=
  (List.dedup_sublist hashes).length_le

end TableStats

namespace Table

variable {ι : Type} {table : Table ι}

theorem nodup_ids (table : Table ι) : (table.toList.map Prod.fst).Nodup := by
  have ids : table.toList.map Prod.fst = (List.range' 0 table.entries.toList.length).map AtomId.mk := by
    rw [toList, List.map_map, ← List.zipIdx_map_snd 0 table.entries.toList, List.map_map]
    rfl
  rw [ids]
  exact List.Nodup.map (fun _ _ same => AtomId.mk.inj same) List.nodup_range'

theorem Filed.hashes_eq (filed : table.Filed) : table.hashes = table.toList.map hashOf := by
  have atoms : table.toList.map Prod.snd = table.entries.toList := by
    conv_rhs => rw [← List.zipIdx_map_fst 0 table.entries.toList]
    rw [toList, List.map_map]
    rfl
  have hashed : table.toList.map hashOf =
      (table.toList.map Prod.snd).map fun atom => Hash.ofText atom.text := by
    rw [List.map_map]
    rfl
  rw [hashed, atoms, hashes]
  exact List.map_congr_left fun atom member => (filed.built atom member).hash_eq

/-- Counting over the buckets gives the same in every order. -/
theorem foldl_addBucket_perm (table : Table ι) {order : List (UInt32 × List AtomId)}
    (visited : order.Perm table.buckets.toList) :
    order.foldl (fun stats bucket => addBucket stats bucket.2)
      ⟨table.size, table.buckets.size, 0, 0⟩ = table.stats := by
  have sizes (size : Nat) : size ∈ (order.map fun bucket => bucket.2.length) ↔
      size ∈ table.buckets.toList.map fun bucket => bucket.2.length :=
    (visited.map _).mem_iff
  rw [stats, Std.TreeMap.foldl_eq_foldl_toList, foldl_addBucket, foldl_addBucket,
    foldr_max_congr sizes, ((visited.map _).filter _).sum_eq]
  rfl

/-- The occupancy of a table is the collision profile of its atoms, in whatever order its buckets are
visited. -/
theorem stats_profile (reachable : table.Reachable) :
    table.stats.Profiles table.toList ∧
    (∀ order : List (UInt32 × List AtomId), order.Perm table.buckets.toList →
      order.foldl (fun stats bucket => addBucket stats bucket.2)
        ⟨table.size, order.length, 0, 0⟩ = table.stats) ∧
    table.stats.atoms - table.stats.collided ≤ table.stats.buckets ∧
    table.stats.buckets ≤ table.stats.atoms := by
  have filed := reachable.filed
  refine ⟨?_, fun order visited => ?_, ?_, ?_⟩
  · rw [filed.stats_eq, filed.hashes_eq]
    exact TableStats.profiles_ofHashes table.nodup_ids
  · rw [visited.length_eq, Std.TreeMap.length_toList]
    exact table.foldl_addBucket_perm visited
  · rw [filed.stats_eq]
    exact TableStats.atoms_sub_collided_le table.hashes
  · rw [filed.stats_eq]
    exact TableStats.buckets_le_atoms table.hashes

/-- Two of three texts have one hash, and the table was cleared and a registration refused before. -/
theorem stats_profile_colliding :
    let table := run [.intern "cleared" "atom_0", .clear, .intern "first" "atom_359078",
      .register [⟨"again", "atom_359078", 0x0B2339E6, true⟩], .intern "second" "atom_3000486",
      .intern "third" "atom_1"]
    table.stats = ⟨3, 2, 2, 2⟩ ∧ table.stats.Profiles table.toList := by
  intro table
  have reachable : table.Reachable := ⟨_, rfl⟩
  obtain ⟨profile, -⟩ := stats_profile reachable
  exact ⟨by decide +kernel, profile⟩

end Table

end StaticAtoms
