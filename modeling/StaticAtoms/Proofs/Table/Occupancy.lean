import Mathlib.Algebra.BigOperators.Group.List.Lemmas
import Mathlib.Algebra.GroupWithZero.Nat
import Mathlib.Data.List.MinMax
import Mathlib.Order.Nat
import StaticAtoms.Proofs.Table.Buckets

/-!
# The occupancy of a table

The occupancy of a table is counted over its buckets.  `TableStats.ofHashes` counts the same over the
hashes of the atoms alone, and `Table.Filed.stats_eq` says that both agree.
-/

namespace StaticAtoms

/-- The occupancy of a table whose atoms have the given hashes: how many there are, how many different
ones, how often the most frequent one occurs, and how many occur more than once. -/
def TableStats.ofHashes (hashes : List UInt32) : TableStats where
  atoms := hashes.length
  buckets := hashes.dedup.length
  largestBucket := (hashes.map hashes.count).foldr max 0
  collided := hashes.countP fun hash => 1 < hashes.count hash

namespace Table

variable {ι : Type}

/-- The hashes of the atoms, in the order of their insertion. -/
def hashes (table : Table ι) : List UInt32 :=
  table.entries.toList.map Atom.hash

/-! ## Counting over buckets -/

theorem foldl_addBucket (buckets : List (UInt32 × List AtomId)) (stats : TableStats) :
    buckets.foldl (fun stats bucket => addBucket stats bucket.2) stats =
      { stats with
        largestBucket :=
          max stats.largestBucket ((buckets.map fun bucket => bucket.2.length).foldr max 0)
        collided := stats.collided +
          ((buckets.map fun bucket => bucket.2.length).filter fun size => 1 < size).sum } := by
  induction buckets generalizing stats with
  | nil => simp
  | cons bucket buckets ih =>
    rw [List.foldl_cons, ih]
    by_cases crowded : 1 < bucket.2.length
    · simp [addBucket, crowded, max_assoc, Nat.add_assoc]
    · simp [addBucket, crowded, max_assoc]

theorem atoms_stats (table : Table ι) : table.stats.atoms = table.size := by
  rw [stats, Std.TreeMap.foldl_eq_foldl_toList, foldl_addBucket]
  rfl

theorem foldr_max_congr {left right : List Nat} (same : ∀ size, size ∈ left ↔ size ∈ right) :
    left.foldr max 0 = right.foldr max 0 := by
  apply Nat.le_antisymm
  · exact List.max_le_of_forall_le _ _ fun size member =>
      List.le_max_of_le ((same size).1 member) (Nat.le_refl size)
  · exact List.max_le_of_forall_le _ _ fun size member =>
      List.le_max_of_le ((same size).2 member) (Nat.le_refl size)

/-- Counting the hashes that occur more than once comes to adding up how often they do. -/
theorem sum_crowded {keys hashes : List UInt32} (distinct : keys.Perm hashes.dedup) :
    ((keys.map hashes.count).filter fun size => 1 < size).sum =
      hashes.countP fun hash => 1 < hashes.count hash := by
  rw [List.filter_map, ((distinct.filter _).map _).sum_eq]
  exact List.sum_map_count_dedup_filter_eq_countP (fun hash => 1 < hashes.count hash) hashes

theorem length_indicesOf (entries : List (Atom ι)) (hash : UInt32) :
    (indicesOf entries hash).length = (entries.map Atom.hash).count hash := by
  have numbered : entries.map Atom.hash = entries.zipIdx.map fun entry => entry.1.hash := by
    conv_lhs => rw [← List.zipIdx_map_fst 0 entries, List.map_map]
    rfl
  rw [indicesOf, List.length_map, ← List.countP_eq_length_filter, numbered, List.count,
    List.countP_map]
  rfl

/-! ## Buckets of filed tables -/

namespace Filed

variable {table : Table ι}

theorem length_bucket (filed : table.Filed) (hash : UInt32) :
    (table.buckets.getD hash []).length = table.hashes.count hash := by
  rw [filed.bucket, length_indicesOf]
  rfl

theorem mem_buckets_iff (filed : table.Filed) {hash : UInt32} :
    hash ∈ table.buckets ↔ hash ∈ table.hashes := by
  have occupied := filed.occupied hash
  rw [Std.TreeMap.mem_iff_isSome_getElem?, ← List.count_pos_iff, ← filed.length_bucket,
    Std.TreeMap.getD_eq_getD_getElem?, List.length_pos_iff]
  cases found : table.buckets[hash]? with
  | none => simp
  | some ids =>
    rw [found] at occupied
    simpa using occupied

theorem keys_perm (filed : table.Filed) : table.buckets.keys.Perm table.hashes.dedup := by
  refine (List.perm_ext_iff_of_nodup Std.TreeMap.nodup_keys (List.nodup_dedup _)).2 fun hash => ?_
  rw [Std.TreeMap.mem_keys, List.mem_dedup, filed.mem_buckets_iff]

theorem lengths_buckets (filed : table.Filed) :
    (table.buckets.toList.map fun bucket => bucket.2.length) =
      table.buckets.keys.map table.hashes.count := by
  rw [← Std.TreeMap.map_fst_toList_eq_keys, List.map_map]
  refine List.map_congr_left fun bucket member => ?_
  have found := Std.TreeMap.mem_toList_iff_getElem?_eq_some.1 member
  have length := filed.length_bucket bucket.1
  rwa [Std.TreeMap.getD_eq_getD_getElem?, found, Option.getD_some] at length

/-- The occupancy of a table is that of the hashes of its atoms, in whatever order its buckets are
counted. -/
theorem stats_eq (filed : table.Filed) : table.stats = .ofHashes table.hashes := by
  have atoms : table.entries.size = table.hashes.length := (List.length_map _).symm
  have buckets : table.buckets.size = table.hashes.dedup.length := by
    rw [← Std.TreeMap.length_keys, filed.keys_perm.length_eq]
  have sizes (size : Nat) : size ∈ table.buckets.keys.map table.hashes.count ↔
      size ∈ table.hashes.map table.hashes.count := by
    rw [List.mem_map, List.mem_map]
    simp only [Std.TreeMap.mem_keys, filed.mem_buckets_iff]
  -- The fold takes a maximum and a sum of lengths, so that the order of the buckets does not matter.
  rw [stats, Std.TreeMap.foldl_eq_foldl_toList, foldl_addBucket, filed.lengths_buckets,
    sum_crowded filed.keys_perm, foldr_max_congr sizes, buckets, atoms, Nat.zero_max, Nat.zero_add]
  rfl

end Filed

end Table

example : TableStats.ofHashes [7, 8, 7, 9, 7] = ⟨5, 3, 3, 3⟩ := by decide

end StaticAtoms
