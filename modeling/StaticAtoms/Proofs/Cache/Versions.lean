import StaticAtoms.Proofs.Cache.Histories

/-!
# Versions that share a cache directory

The bytes that a key is the hash of have no lengths in them, so that versions of the tool can have one
key for different manifests.  They can share a cache directory all the same, since every entry tells its
version: `Directory.History.unmixed`.
-/

namespace StaticAtoms.Cache

/-! ## Products -/

/-- An output, what it was made from, and the version of the tool that made it. -/
structure Product where
  manifest : Bytes
  format : OutputFormat
  tool : String
  output : String
deriving DecidableEq

namespace Product

def keyInput (product : Product) : Bytes :=
  Cache.keyInput product.manifest product.format product.tool

def key (product : Product) : Digest :=
  Cache.key product.manifest product.format product.tool

/-- The entry as which an output is stored. -/
def entry (product : Product) : Entry :=
  ⟨product.tool, product.key, product.output⟩

/-- One version of the tool has one entry for a key, when the hash does not mix up the two inputs. -/
theorem eq_of_entry {product : Product} {manifest : Bytes} {format : OutputFormat}
    {tool output : String} (same : product.entry = ⟨tool, Cache.key manifest format tool, output⟩)
    (separated : Sha256.digest product.keyInput = Sha256.digest (Cache.keyInput manifest format tool) →
      product.keyInput = Cache.keyInput manifest format tool) :
    product = ⟨manifest, format, tool, output⟩ := by
  have tools : product.tool = tool := congrArg Entry.tool same
  have keys : product.key = Cache.key manifest format tool := congrArg Entry.key same
  have outputs : product.output = output := congrArg Entry.output same
  have inputs := separated keys
  subst tools outputs
  obtain ⟨rfl, rfl⟩ := keyInput_inj.1 inputs
  rfl

end Product

namespace Directory

variable {directory : Directory} {attempts : List Attempt} {store : Store}

/-! ## Sharing a directory -/

/-- When products of any versions of the tool are stored, by calls of which some may fail, then whatever
is loaded for a manifest, a format and a version is the latest product that was stored under the same
key, and it was made from that manifest, in that format and by that version. -/
theorem History.unmixed (history : History directory attempts store) {products : List Product}
    (stored : (successes attempts).map Attempt.entry = products.map Product.entry)
    {manifest : Bytes} {format : OutputFormat} {tool output : String}
    (separated : ∀ left ∈ keyInput manifest format tool :: products.map Product.keyInput,
      ∀ right ∈ keyInput manifest format tool :: products.map Product.keyInput,
        Sha256.digest left = Sha256.digest right → left = right)
    (loaded : directory.loadOn (key manifest format tool) tool store = some output) :
    products.find? (fun product => product.key = key manifest format tool) =
      some ⟨manifest, format, tool, output⟩ := by
  obtain ⟨attempt, latest, same⟩ := history.latest?_of_loadOn loaded
  -- Products are found by their entries, as calls are.
  have found : (products.map Product.entry).find? (fun entry => entry.key = key manifest format tool) =
      some ⟨tool, key manifest format tool, output⟩ := by
    rw [← stored, List.find?_map, ← same]
    exact congrArg (Option.map Attempt.entry) latest
  rw [List.find?_map, Option.map_eq_some_iff] at found
  obtain ⟨product, found, entry⟩ := found
  have member : product.keyInput ∈ products.map Product.keyInput :=
    List.mem_map_of_mem (List.mem_of_find?_eq_some found)
  have made := Product.eq_of_entry entry
    (separated _ (List.mem_cons_of_mem _ member) _ List.mem_cons_self)
  rw [← made]
  exact found

def olderProduct : Product :=
  ⟨Text.utf8 "x", .json, "json2", "old"⟩

/-- A product of another version for another manifest, with the key of the older one. -/
def newerProduct : Product :=
  ⟨Text.utf8 "xjson", .json, "2", "new"⟩

/-- The older product is stored, and then the newer one under the same key.  After that the older one
cannot be stored again, and the newer one is loaded. -/
theorem History.unmixed_colliding :
    let first := (storeOn ⟨"cache"⟩ olderProduct.entry Store.empty).2
    let second := (storeOn ⟨"cache"⟩ newerProduct.entry first).2.bar
      (location ⟨"cache"⟩ newerProduct.entry.key) (.closed .refused)
    let store := (storeOn ⟨"cache"⟩ olderProduct.entry second).2
    olderProduct.key = newerProduct.key ∧
      loadOn ⟨"cache"⟩ newerProduct.key "2" store = some "new" ∧
      [newerProduct, olderProduct].find?
        (fun product => product.key = newerProduct.key) = some newerProduct := by
  intro first second store
  have same : olderProduct.entry.key = newerProduct.entry.key :=
    congrArg Sha256.digest (rfl : olderProduct.keyInput = newerProduct.keyInput)
  have older := start_empty.store olderProduct.entry
  have both := older.store newerProduct.entry
  have closed : History ⟨"cache"⟩ _ second := both.bar _ _
  -- There is nothing in the way of the first two calls.
  obtain ⟨olderDone, clear⟩ := clear_empty.storeOn
    (Entry.encode_of_short olderProduct.entry (by decide) (by decide))
  obtain ⟨newerDone, -⟩ := clear.storeOn
    (Entry.encode_of_short newerProduct.entry (by decide) (by decide))
  have olderStored : (call ⟨"cache"⟩ olderProduct.entry Store.empty).Succeeded :=
    succeeded_call olderDone
  have newerStored : (call ⟨"cache"⟩ newerProduct.entry first).Succeeded := succeeded_call newerDone
  have barred : second.barriers (location ⟨"cache"⟩ olderProduct.entry.key) =
      some (.closed .refused) := by
    rw [same]
    exact Store.barriers_bar _ _ _
  obtain ⟨failure, after, failed, grows⟩ := storeOn_of_closed barred
  have olderFailed : ¬ (call ⟨"cache"⟩ olderProduct.entry second).Succeeded :=
    not_succeeded_call (congrArg Prod.fst failed)
  have loaded : loadOn ⟨"cache"⟩ newerProduct.entry.key "2" store = some "new" := by
    have reached : (storeOn ⟨"cache"⟩ olderProduct.entry second).2 = after := congrArg Prod.snd failed
    rw [← reached] at grows
    -- Neither the barrier nor the call that fails changes the file of the key.
    have still (content : Bytes) := grows.file_iff (location ⟨"cache"⟩ newerProduct.entry.key) content
    rw [closed.loadOn_congr (closed.store olderProduct.entry) still,
      both.loadOn_congr closed fun content => by rw [Store.node?_bar]]
    exact older.loadOn_call newerStored
  have stored : (successes [call ⟨"cache"⟩ olderProduct.entry second,
      call ⟨"cache"⟩ newerProduct.entry first, call ⟨"cache"⟩ olderProduct.entry Store.empty]).map
        Attempt.entry = [newerProduct, olderProduct].map Product.entry := by
    rw [successes_cons_of_failed olderFailed, successes_cons_of_succeeded newerStored,
      successes_cons_of_succeeded olderStored]
    rfl
  exact ⟨same, loaded,
    (closed.store olderProduct.entry).unmixed stored (by decide +kernel) loaded⟩

end Directory

end StaticAtoms.Cache
