import Theia.ForStd.Run
import Theia.Native.DeviceLinkCache
import Theia.Spec.Identifiers

/-!
# The indexes of the device and link cache

The cache keeps three indexes beside its rows. `linksByDevice` always agrees with the links. The
indexes by name and by endpoints agree with the rows as long as no row gives up a key that another
cached row has, because a row that gives up its key removes the entry whoever it points at.
-/

namespace Theia

open List FMap

variable {rows : FMap UUID LinkRow} {order : List UUID}

/-! ### The order of the links -/

/-- What `linkBefore` compares. -/
def linkSortKey (link : LinkRow) : Time ×ₗ String := toLex (link.createdAt, link.id.toString)

theorem linkBefore_iff (a b : LinkRow) : linkBefore a b = true ↔ linkSortKey a < linkSortKey b := by
  unfold linkBefore linkSortKey
  rw [Prod.Lex.toLex_lt_toLex]
  by_cases h : a.createdAt = b.createdAt
  · simp [h]
  · simp [h]

theorem eq_of_linkSortKey_eq {a b : LinkRow} (h : linkSortKey a = linkSortKey b) : a.id = b.id := by
  have hid := congrArg (fun key => (ofLex key).2) h
  exact UUID.toString_injective hid

namespace DeviceLinkCache

/-! ### The links of a device -/

/-- A link has the device as one of its endpoints. -/
def incident (id : UUID) (link : LinkRow) : Bool :=
  link.sourceDeviceID = id || link.targetDeviceID = id

/-- The links that `linksByDevice` holds for a device. -/
def linksOf (linksByDevice : FMap UUID (Finset UUID)) (id : UUID) : Finset UUID :=
  getZero linksByDevice ∅ id

section LinksOf

variable {m : FMap UUID (Finset UUID)} {x : UUID} {id device : UUID} {link : LinkRow}

theorem mem_indexEndpoint {linkID : UUID} :
    x ∈ linksOf (indexEndpoint linkID m id) device ↔
      x ∈ linksOf m device ∨ (device = id ∧ x = linkID) := by
  unfold indexEndpoint linksOf getZero
  by_cases h : device = id
  · simp [h, or_comm]
  · simp [h]

theorem mem_unindexEndpoint {linkID : UUID} :
    x ∈ linksOf (unindexEndpoint linkID m id) device ↔
      x ∈ linksOf m device ∧ ¬(device = id ∧ x = linkID) := by
  unfold unindexEndpoint linksOf getZero
  dsimp only
  by_cases h : device = id
  · subst h
    split_ifs with hempty
    · -- the set of the device is removed once it is empty
      have hx : x ∉ ((m.get device).getD ∅).erase linkID := by simp [hempty]
      rw [Finset.mem_erase, not_and', not_not] at hx
      simpa using hx
    · simp [and_comm]
  · split <;> simp [h]

theorem mem_indexLinkEndpoints :
    x ∈ linksOf (indexLinkEndpoints m link) device ↔
      x ∈ linksOf m device ∨ (incident device link = true ∧ x = link.id) := by
  unfold indexLinkEndpoints
  rw [foldl_cons, foldl_cons, foldl_nil, mem_indexEndpoint, mem_indexEndpoint]
  simp only [incident, Bool.or_eq_true, decide_eq_true_eq]
  grind

theorem mem_unindexLinkEndpoints :
    x ∈ linksOf (unindexLinkEndpoints m link) device ↔
      x ∈ linksOf m device ∧ ¬(incident device link = true ∧ x = link.id) := by
  unfold unindexLinkEndpoints
  rw [foldl_cons, foldl_cons, foldl_nil, mem_unindexEndpoint, mem_unindexEndpoint]
  simp only [incident, Bool.or_eq_true, decide_eq_true_eq]
  grind

end LinksOf

/-- `linksByDevice` holds for each device the links that have it as an endpoint. -/
def LinksIndexed (linksByID : FMap UUID LinkRow) (linksByDevice : FMap UUID (Finset UUID)) : Prop :=
  ∀ device x, x ∈ linksOf linksByDevice device ↔
    ∃ link, linksByID.get x = some link ∧ incident device link = true

/-- Every row is stored under its own identifier. -/
def OwnID (linksByID : FMap UUID LinkRow) : Prop :=
  ∀ x link, linksByID.get x = some link → link.id = x

section Links

variable {rows : FMap UUID LinkRow} {m : FMap UUID (Finset UUID)} {link : LinkRow}

theorem LinksIndexed.insert_new (h : LinksIndexed rows m) (hnew : rows.get link.id = none) :
    LinksIndexed (rows.insert link.id link) (indexLinkEndpoints m link) := by
  intro device x
  rw [mem_indexLinkEndpoints, h device x, get_insert]
  by_cases hx : x = link.id
  · simp [hx, hnew]
  · simp [hx]

theorem LinksIndexed.erase (h : LinksIndexed rows m) (hid : rows.get link.id = some link) :
    LinksIndexed (rows.erase link.id) (unindexLinkEndpoints m link) := by
  intro device x
  rw [mem_unindexLinkEndpoints, h device x, get_erase]
  by_cases hx : x = link.id
  · subst hx
    simp [hid]
  · simp [hx]

theorem LinksIndexed.load (links : List LinkRow) (h : (links.map (·.id)).Nodup) :
    LinksIndexed (ofList (links.map fun link => (link.id, link)))
      (links.foldl indexLinkEndpoints ∅) := by
  induction links using List.reverseRecOn with
  | nil => intro device x; simp [linksOf, getZero]
  | append_singleton links link ih =>
    rw [map_append, nodup_append] at h
    rw [foldl_append, map_append, map_singleton, ofList_concat]
    apply (ih h.1).insert_new
    apply get_ofList_eq_none
    intro entry hentry
    obtain ⟨other, hother, rfl⟩ := mem_map.1 hentry
    exact h.2.2 other.id (mem_map_of_mem hother) link.id (by simp)

end Links

/-! ### One change -/

/-- A step on a prepared cache. A batch of changes is the list of its changes, in the order in
which the source iterates over the maps of events. -/
inductive CacheOp
  | reload (devices : List DeviceRow) (links : List LinkRow)
  | deviceChange (change : RowChange DeviceRow)
  | linkChange (change : RowChange LinkRow)
  | getDevices (order : List UUID)
  | getLinks (order : List UUID)

section Step

variable (lower : Char → Char)

def step (c : DeviceLinkCache) : CacheOp → DeviceLinkCache
  | .reload devices links => reload lower devices links
  | .deviceChange change => c.applyDeviceChange lower change
  | .linkChange change => c.applyLinkChange lower change
  | .getDevices order => (c.getDevices order).1
  | .getLinks order => (c.getLinks order).1

theorem applyChanges_eq_steps (c : DeviceLinkCache) (devices : List (RowChange DeviceRow))
    (links : List (RowChange LinkRow)) :
    c.applyChanges lower devices links =
      (devices.map CacheOp.deviceChange ++ links.map CacheOp.linkChange).foldl (step lower) c := by
  rw [foldl_append, foldl_map, foldl_map]
  rfl

/-- The key of a link in `linksByEndpoint`. -/
def endpointKey (link : LinkRow) : Option LinkEndpointKey := some (makeLinkEndpointKey lower link)

/-- What the repositories and the runtime promise: the identifiers of the rows are primary keys,
`LinkRepo.GetAll` orders by `created_at`, and a map is iterated entry by entry. -/
def CacheOp.Valid (c : DeviceLinkCache) : CacheOp → Prop
  | .reload devices links => (devices.map (·.id)).Nodup ∧ (links.map (·.id)).Nodup ∧
      links.Pairwise fun a b => a.createdAt ≤ b.createdAt
  | .deviceChange _ | .linkChange _ => True
  | .getDevices order => FMap.Enumerates c.devicesByID order
  | .getLinks order => FMap.Enumerates c.linksByID order

/-- A row that gives up its key is the only cached row with it, and links loaded with the same
creation time are in the order of their identifiers. -/
def CacheOp.KeepsKeys (c : DeviceLinkCache) : CacheOp → Prop
  | .reload _ links =>
    links.Pairwise fun a b => a.createdAt = b.createdAt → a.id.toString < b.id.toString
  | .deviceChange (.upsert device) =>
    ∀ k, (c.devicesByID.get device.id).bind (sysNameKey lower) = some k →
      sysNameKey lower device ≠ some k →
      SoleOwner (sysNameKey lower) c.devicesByID device.id k
  | .deviceChange (.delete id) =>
    ∀ k, (c.devicesByID.get id).bind (sysNameKey lower) = some k →
      SoleOwner (sysNameKey lower) c.devicesByID id k
  | .linkChange (.upsert link) =>
    ∀ k, (c.linksByID.get link.id).bind (endpointKey lower) = some k →
      endpointKey lower link ≠ some k →
      SoleOwner (endpointKey lower) c.linksByID link.id k
  | .linkChange (.delete id) =>
    ∀ k, (c.linksByID.get id).bind (endpointKey lower) = some k →
      SoleOwner (endpointKey lower) c.linksByID id k
  | .getDevices _ | .getLinks _ => True

/-- The list of links is a sorted list of the rows. -/
structure SortedRows (rows : FMap UUID LinkRow) (links : List LinkRow) : Prop where
  nodup : links.Nodup
  mem : ∀ link, link ∈ links ↔ rows.get link.id = some link
  sorted : links.Pairwise fun a b => linkSortKey a ≤ linkSortKey b

/-- The indexes and lists of the cache agree with its rows. -/
structure Coherent (c : DeviceLinkCache) : Prop where
  sysNames : Indexes (sysNameKey lower) c.devicesByID c.devicesBySysName
  endpoints : Indexes (endpointKey lower) c.linksByID c.linksByEndpoint
  byDevice : LinksIndexed c.linksByID c.linksByDevice
  ownID : OwnID c.linksByID
  links : c.linksDirty = false → SortedRows c.linksByID c.links

variable {lower} {c : DeviceLinkCache}

theorem Coherent.upsertDevice (h : Coherent lower c) {device : DeviceRow}
    (hkeeps : (CacheOp.deviceChange (.upsert device)).KeepsKeys lower c) :
    Coherent lower (c.upsertDevice lower device) := by
  have hsole : ∀ k, (c.devicesByID.get device.id).bind (sysNameKey lower) = some k →
      sysNameKey lower device ≠ some k →
      SoleOwner (sysNameKey lower) c.devicesByID device.id k := hkeeps
  have hupsert := h.sysNames.upsert hsole
  unfold DeviceLinkCache.upsertDevice
  constructor
  · dsimp only
    exact hupsert
  · exact h.endpoints
  · exact h.byDevice
  · exact h.ownID
  · exact h.links

theorem Coherent.deleteDevice (h : Coherent lower c) {id : UUID}
    (hkeeps : (CacheOp.deviceChange (.delete id)).KeepsKeys lower c) :
    Coherent lower (c.deleteDevice lower id) := by
  unfold DeviceLinkCache.deleteDevice
  cases hget : c.devicesByID.get id with
  | none => exact h
  | some existing =>
    have hsole : ∀ k, (c.devicesByID.get id).bind (sysNameKey lower) = some k →
        SoleOwner (sysNameKey lower) c.devicesByID id k := hkeeps
    have hdelete := h.sysNames.delete hsole
    rw [hget, Option.bind_some] at hdelete
    constructor
    · dsimp only
      exact hdelete
    · exact h.endpoints
    · exact h.byDevice
    · exact h.ownID
    · exact h.links

theorem OwnID.insert (h : OwnID rows) (link : LinkRow) : OwnID (rows.insert link.id link) :=
  forall_get_insert rfl fun x other _ hget => h x other hget

theorem OwnID.erase (h : OwnID rows) (id : UUID) : OwnID (rows.erase id) :=
  fun x other hget => h x other (get_erase_eq_some.1 hget).2

theorem Coherent.upsertLink (h : Coherent lower c) {link : LinkRow}
    (hkeeps : (CacheOp.linkChange (.upsert link)).KeepsKeys lower c) :
    Coherent lower (c.upsertLink lower link) := by
  have hendpoints := h.endpoints.upsert hkeeps
  unfold DeviceLinkCache.upsertLink
  cases hget : c.linksByID.get link.id with
  | none =>
    rw [hget] at hendpoints
    exact ⟨h.sysNames, hendpoints, h.byDevice.insert_new hget, h.ownID.insert link, nofun⟩
  | some existing =>
    rw [hget] at hendpoints
    have hid : existing.id = link.id := h.ownID _ _ hget
    -- the old row is taken out of `linksByDevice` before the new one is put in
    have herased : LinksIndexed (c.linksByID.erase link.id)
        (unindexLinkEndpoints c.linksByDevice existing) := by
      rw [← hid] at hget ⊢
      exact h.byDevice.erase hget
    have hnew : (c.linksByID.erase link.id).get link.id = none := by simp
    have hinserted := herased.insert_new hnew
    have hrows : (c.linksByID.erase link.id).insert link.id link =
        c.linksByID.insert link.id link := by
      ext x
      by_cases hx : x = link.id <;> simp [hx]
    rw [hrows] at hinserted
    exact ⟨h.sysNames, hendpoints, hinserted, h.ownID.insert link, nofun⟩

theorem Coherent.deleteLink (h : Coherent lower c) {id : UUID}
    (hkeeps : (CacheOp.linkChange (.delete id)).KeepsKeys lower c) :
    Coherent lower (c.deleteLink lower id) := by
  unfold DeviceLinkCache.deleteLink
  cases hget : c.linksByID.get id with
  | none => exact h
  | some existing =>
    have hid : existing.id = id := h.ownID _ _ hget
    have hendpoints := h.endpoints.delete hkeeps
    rw [hget] at hendpoints
    refine ⟨h.sysNames, hendpoints, ?_, h.ownID.erase id, nofun⟩
    subst hid
    exact h.byDevice.erase hget

/-! ### The lists -/

theorem mem_filterMap_get (h : FMap.Enumerates rows order) (hown : OwnID rows) (link : LinkRow) :
    link ∈ order.filterMap rows.get ↔ rows.get link.id = some link := by
  rw [mem_filterMap]
  constructor
  · intro hmem
    obtain ⟨x, -, hx⟩ := hmem
    rwa [hown x link hx]
  · intro hget
    exact ⟨link.id, (h.2 _).2 (mem_dom_of_get hget), hget⟩

theorem nodup_filterMap_get (h : order.Nodup) (hown : OwnID rows) :
    (order.filterMap rows.get).Nodup := by
  apply h.filterMap
  intro x x' link hx hx'
  rw [← hown x link hx, hown x' link hx']

theorem eq_of_stored {a b : LinkRow} (ha : rows.get a.id = some a) (hb : rows.get b.id = some b)
    (hkey : linkSortKey a = linkSortKey b) : a = b := by
  rw [eq_of_linkSortKey_eq hkey, hb] at ha
  exact (Option.some.inj ha).symm

/-- `buildSortedLinks` gives the sorted list of the rows. -/
theorem sortedRows_buildSortedLinks (h : FMap.Enumerates rows order) (hown : OwnID rows) :
    SortedRows rows (buildSortedLinks rows order) := by
  have hperm := sortSliceBy_perm linkBefore (order.filterMap rows.get)
  constructor
  · exact hperm.nodup_iff.2 (nodup_filterMap_get h.1 hown)
  · intro link
    exact hperm.mem_iff.trans (mem_filterMap_get h hown link)
  · exact sortSliceBy_pairwise linkBefore_iff _

/-- The list that `GetLinks` returns. -/
theorem Coherent.getLinks (h : Coherent lower c) (horder : FMap.Enumerates c.linksByID order) :
    SortedRows c.linksByID (c.getLinks order).2 := by
  unfold DeviceLinkCache.getLinks
  split_ifs with hdirty
  · exact sortedRows_buildSortedLinks horder h.ownID
  · exact h.links (by simpa using hdirty)

theorem sortedRows_load {links : List LinkRow} (hids : (links.map (·.id)).Nodup)
    (htimes : links.Pairwise fun a b => a.createdAt ≤ b.createdAt)
    (hties : links.Pairwise fun a b => a.createdAt = b.createdAt → a.id.toString < b.id.toString) :
    SortedRows (ofList (links.map fun link => (link.id, link))) links := by
  have hkeys : ((links.map fun link => (link.id, link)).map Prod.fst).Nodup := by
    rw [map_map]
    exact hids
  constructor
  · exact hids.of_map
  · intro link
    rw [get_ofList_iff_mem hkeys, mem_map]
    constructor
    · intro hmem
      exact ⟨link, hmem, rfl⟩
    · rintro ⟨other, hother, heq⟩
      rwa [← (Prod.mk.inj heq).2]
  · apply (htimes.and hties).imp
    intro a b hab
    unfold linkSortKey
    rw [Prod.Lex.toLex_le_toLex]
    by_cases htime : a.createdAt = b.createdAt
    · exact .inr ⟨htime, (hab.2 htime).le⟩
    · exact .inl (lt_of_le_of_ne hab.1 htime)

theorem coherent_reload {devices : List DeviceRow} {links : List LinkRow}
    (hdevices : (devices.map (·.id)).Nodup) (hids : (links.map (·.id)).Nodup)
    (hlinks : SortedRows (ofList (links.map fun link => (link.id, link))) links) :
    Coherent lower (reload lower devices links) := by
  have hsys : Indexes (sysNameKey lower)
      (ofList (devices.map fun device => (device.id, device)))
      ((devices.map fun device => (device.id, device)).foldl
        (fun index row => putKey index row.1 (sysNameKey lower row.2)) ∅) :=
    Indexes.load _ (by rw [map_map]; exact hdevices)
  have hend : Indexes (endpointKey lower)
      (ofList (links.map fun link => (link.id, link)))
      ((links.map fun link => (link.id, link)).foldl
        (fun index row => putKey index row.1 (endpointKey lower row.2)) ∅) :=
    Indexes.load _ (by rw [map_map]; exact hids)
  rw [foldl_map] at hsys hend
  constructor
  · exact hsys
  · exact hend
  · exact .load links hids
  · intro x link hget
    obtain ⟨other, -, heq⟩ := mem_map.1 (mem_of_get_ofList hget)
    obtain ⟨rfl, rfl⟩ := Prod.mk.inj heq
    rfl
  · exact fun _ => hlinks

theorem step_coherent (h : Coherent lower c) {op : CacheOp} (hvalid : op.Valid c)
    (hkeeps : op.KeepsKeys lower c) : Coherent lower (c.step lower op) := by
  cases op with
  | reload devices links =>
    obtain ⟨hdevices, hids, htimes⟩ := hvalid
    exact coherent_reload hdevices hids (sortedRows_load hids htimes hkeeps)
  | deviceChange change =>
    cases change with
    | upsert device => exact h.upsertDevice hkeeps
    | delete id => exact h.deleteDevice hkeeps
  | linkChange change =>
    cases change with
    | upsert link => exact h.upsertLink hkeeps
    | delete id => exact h.deleteLink hkeeps
  | getDevices order =>
    simp only [step, DeviceLinkCache.getDevices]
    split
    · exact { h with }
    · exact h
  | getLinks order =>
    have hlinks := h.getLinks hvalid
    simp only [step]
    unfold DeviceLinkCache.getLinks at hlinks ⊢
    split_ifs at hlinks with hdirty
    · rw [if_pos hdirty]
      exact { h with links := fun _ => hlinks }
    · rw [if_neg hdirty]
      exact h

/-- `GetDeviceTopology` returns the links of `GetLinks` that touch the device, in their order. -/
theorem getDeviceTopology_eq (h : Coherent lower c) {device : UUID} {all : List UUID}
    (horder : order.Nodup) (hmem : ∀ x, x ∈ order ↔ x ∈ linksOf c.linksByDevice device)
    (hall : FMap.Enumerates c.linksByID all) :
    c.getDeviceTopology order = (c.getLinks all).2.filter (incident device) := by
  have hsorted := h.getLinks hall
  -- every id of the order is stored, so the lookups are those of `filterMap`
  have hstored : ∀ x ∈ order, ∃ link, c.linksByID.get x = some link ∧ incident device link = true :=
    fun x hx => (h.byDevice device x).1 ((hmem x).1 hx)
  have hlookup : (order.map fun x => (c.linksByID.get x).getD
      { id := UUID.nil, sourceDeviceID := UUID.nil, sourceIfName := "",
        targetDeviceID := UUID.nil, targetIfName := "" }) = order.filterMap c.linksByID.get := by
    rw [← filterMap_eq_map]
    apply filterMap_congr
    intro x hx
    obtain ⟨link, hget, -⟩ := hstored x hx
    simp [hget]
  have hin : ∀ link, link ∈ order.filterMap c.linksByID.get ↔
      c.linksByID.get link.id = some link ∧ incident device link = true := by
    intro link
    rw [mem_filterMap]
    constructor
    · rintro ⟨x, hx, hget⟩
      obtain ⟨other, hother, hinc⟩ := hstored x hx
      rw [hget] at hother
      cases hother
      exact ⟨by rwa [h.ownID x link hget], hinc⟩
    · rintro ⟨hget, hinc⟩
      exact ⟨link.id, (hmem _).2 ((h.byDevice _ _).2 ⟨link, hget, hinc⟩), hget⟩
  unfold DeviceLinkCache.getDeviceTopology
  rw [hlookup]
  apply sortSliceBy_eq linkBefore_iff
  · rw [perm_ext_iff_of_nodup (nodup_filterMap_get horder h.ownID) (hsorted.nodup.filter _)]
    intro link
    rw [hin, mem_filter, hsorted.mem]
  · intro a ha b hb hkey
    exact eq_of_stored ((hin a).1 ha).1 ((hin b).1 hb).1 hkey
  · exact hsorted.sorted.filter _

end Step

/-! ### Runs -/

section Runs

variable (lower : Char → Char)

/-- What the indexes and `GetDeviceTopology` promise. -/
structure Agrees (c : DeviceLinkCache) : Prop where
  /-- A name has an entry exactly when some cached device has it. -/
  sysName_iff : ∀ name, (∃ id, c.devicesBySysName.get name = some id) ↔
    ∃ id device, c.devicesByID.get id = some device ∧ sysNameKey lower device = some name
  /-- The entry of a name points at a device with the name. -/
  sysName_device : ∀ name id, c.devicesBySysName.get name = some id →
    ∃ device, c.devicesByID.get id = some device ∧ sysNameKey lower device = some name
  /-- A key has an entry exactly when some cached link has it. -/
  endpoint_iff : ∀ key, (∃ id, c.linksByEndpoint.get key = some id) ↔
    ∃ id link, c.linksByID.get id = some link ∧ makeLinkEndpointKey lower link = key
  /-- The entry of a key points at a link with the key. -/
  endpoint_link : ∀ key id, c.linksByEndpoint.get key = some id →
    ∃ link, c.linksByID.get id = some link ∧ makeLinkEndpointKey lower link = key
  /-- The links of a device are the cached links with the device as an endpoint. -/
  byDevice : ∀ device x, x ∈ linksOf c.linksByDevice device ↔
    ∃ link, c.linksByID.get x = some link ∧ incident device link = true
  /-- The topology of a device is the part of all links that touches it, in the same order. -/
  topology : ∀ device order all, order.Nodup →
    (∀ x, x ∈ order ↔ x ∈ linksOf c.linksByDevice device) → FMap.Enumerates c.linksByID all →
    c.getDeviceTopology order = (c.getLinks all).2.filter (incident device)

variable {lower} {c : DeviceLinkCache} {ops : List CacheOp}

theorem exists_entry_iff {K V : Type} [DecidableEq K] {key : V → Option K} {rows : FMap UUID V}
    {index : FMap K UUID} (h : Indexes key rows index) (k : K) :
    (∃ id, index.get k = some id) ↔ ∃ id row, rows.get id = some row ∧ key row = some k := by
  constructor
  · rintro ⟨id, hget⟩
    obtain ⟨row, hrow⟩ := h.sound k id hget
    exact ⟨id, row, hrow⟩
  · rintro ⟨id, row, hrow, hkey⟩
    exact Option.ne_none_iff_exists'.1 (h.complete id row k hrow hkey)

theorem Coherent.agrees (h : Coherent lower c) : Agrees lower c := by
  constructor
  · exact exists_entry_iff h.sysNames
  · exact h.sysNames.sound
  · intro key
    rw [exists_entry_iff h.endpoints key]
    simp [endpointKey]
  · intro key id hget
    obtain ⟨link, hlink, hkey⟩ := h.endpoints.sound key id hget
    exact ⟨link, hlink, Option.some.inj hkey⟩
  · exact h.byDevice
  · intro device order all horder hmem hall
    exact getDeviceTopology_eq h horder hmem hall

theorem run_coherent
    (h : Run (· = {}) (ActStep (step lower) fun c op => op.Valid c ∧ op.KeepsKeys lower c) c ops) :
    Coherent lower c := by
  apply h.act_invariant
  · refine ⟨.empty, .empty, ?_, nofun, nofun⟩
    intro device x
    simp [linksOf, getZero]
  · intro c op hc hok
    exact step_coherent hc hok.1 hok.2

/-- The indexes agree with the rows in every run whose steps give up no shared key. -/
theorem indexes_agree
    (h : Run (· = {}) (ActStep (step lower) fun c op => op.Valid c ∧ op.KeepsKeys lower c) c ops) :
    Agrees lower c :=
  (run_coherent h).agrees

/-- A device with a name. -/
def named (id : UUID) (sysName : String) : DeviceRow := { id, sysName }

/-- A cable between two devices, both created at the same time. -/
def cable (id : UUID) : LinkRow :=
  { id, sourceDeviceID := 1#128, sourceIfName := "", targetDeviceID := 2#128, targetIfName := "",
    createdAt := 5 }

/-- Two of them, not in the order of their identifiers. -/
def twoCables : DeviceLinkCache :=
  [CacheOp.reload [] [cable 8#128, cable 7#128]].foldl (step Char.toLower) {}

/-- A load of two devices and their cable, and a batch that renames one device, moves the cable to
another and deletes the second device. -/
def movedCable : List CacheOp :=
  [.reload [named 1#128 "Core.lan", named 2#128 "edge"] [cable 7#128],
    .deviceChange (.upsert (named 1#128 "spine")),
    .deviceChange (.delete 2#128),
    .linkChange (.upsert { cable 7#128 with targetDeviceID := 3#128 })]

theorem indexes_agree_moved :
    let c := movedCable.foldl (step Char.toLower) {}
    c.devicesBySysName.get "spine" = some 1#128 ∧ c.devicesBySysName.get "core" = none ∧
      linksOf c.linksByDevice 3#128 = {7#128} ∧ Agrees Char.toLower c := by
  refine ⟨by decide +kernel, by decide +kernel, by decide +kernel, indexes_agree (.of_ops ?_)⟩
  refine ⟨⟨by simp [CacheOp.Valid, named, cable], by simp [CacheOp.KeepsKeys]⟩, ⟨trivial, ?_⟩,
    ⟨trivial, ?_⟩, ⟨trivial, ?_⟩, trivial⟩
  · -- no other device has the name that is given up
    exact fun k hk _ => soleOwner_of_notMem (by decide +kernel) hk
  · exact fun k hk => soleOwner_of_notMem (by decide +kernel) hk
  · exact fun k hk _ => soleOwner_of_notMem (by decide +kernel) hk

/-- Two devices swap their names in one batch, and the second change removes the entry of the first.
Two links that were created at the same time are loaded in another order than
`GetDeviceTopology` sorts them. -/
theorem index_entry_lost :
    (∃ c ops, Run (· = {}) (ActStep (step Char.toLower) fun c op => op.Valid c) c ops ∧
      c.devicesByID.get 1#128 = some (named 1#128 "west") ∧
      c.devicesBySysName.get "west" = none) ∧
    ∃ c ops, Run (· = {}) (ActStep (step Char.toLower) fun c op => op.Valid c) c ops ∧
      (∀ x, x ∈ [7#128, 8#128] ↔ x ∈ linksOf c.linksByDevice 1#128) ∧
      FMap.Enumerates c.linksByID [7#128, 8#128] ∧
      c.getDeviceTopology [7#128, 8#128] ≠
        (c.getLinks [7#128, 8#128]).2.filter (incident 1#128) := by
  constructor
  · refine ⟨_, [.reload [named 1#128 "east", named 2#128 "west"] [],
      .deviceChange (.upsert (named 1#128 "west")), .deviceChange (.upsert (named 2#128 "east"))],
      .of_ops (by simp [OkAlong, CacheOp.Valid, named]), ?_, ?_⟩
    · decide +kernel
    · decide +kernel
  · refine ⟨twoCables, [.reload [] [cable 8#128, cable 7#128]],
      .of_ops (by simp [OkAlong, CacheOp.Valid, cable]), ?_, ?_, ?_⟩
    · have hlinks : linksOf twoCables.linksByDevice 1#128 = {7#128, 8#128} := by decide +kernel
      rw [hlinks]
      simp
    · have hdom : twoCables.linksByID.dom = {7#128, 8#128} := by decide +kernel
      refine ⟨by decide, ?_⟩
      intro x
      rw [hdom]
      simp
    · intro heq
      -- the topology is sorted, the loaded list is not
      have hall : (twoCables.getLinks [7#128, 8#128]).2.filter (incident 1#128) =
          [cable 8#128, cable 7#128] := by decide +kernel
      have hsorted := sortSliceBy_pairwise linkBefore_iff
        ([7#128, 8#128].map fun linkID => (twoCables.linksByID.get linkID).getD
          { id := UUID.nil, sourceDeviceID := UUID.nil, sourceIfName := "",
            targetDeviceID := UUID.nil, targetIfName := "" })
      have hlist := heq.trans hall
      unfold getDeviceTopology at hlist
      rw [hlist] at hsorted
      have hle := (pairwise_cons.1 hsorted).1 (cable 7#128) (mem_singleton_self _)
      have hlt : linkBefore (cable 7#128) (cable 8#128) = true := by decide +kernel
      exact absurd hle (not_le.2 ((linkBefore_iff _ _).1 hlt))

end Runs

end DeviceLinkCache

end Theia
