import Theia.Native.CanvasIsolation

/-!
# Isolation keeps every map

A transaction writes rows of its own map and rows under identifiers that it made, so what the
transactions on other maps commit does not change what its statements do: a commit has the effect
of the whole plan at once. That effect is a renaming of the rows of one map.

The maps that share a device are read by the first select only, without a lock. Two transactions
can therefore take a device off the last two maps that have it.
-/

namespace Theia

open List RowAction FMap

variable {m d l mapID : UUID} {db db' db'' db₀ : CanvasDB} {link : LinkClone} {txn : IsolationTxn}
  {pairs clones newLinks : List (UUID × UUID)} {a : RowAction CanvasTable.Key CanvasTable.Row}
  {ids : Finset UUID} {t : Nat} {sys : IsolationSystem}

namespace CanvasIsolation

/-! ### What a transaction does, all at once -/

/-- The statements of a transaction for its devices. -/
def clonePlan (mapID : UUID) (clones : List (UUID × UUID)) : CanvasStatement :=
  (clones.flatMap (cloneStatements mapID)).flatten

/-- The statements of a transaction for its links. -/
def linkPlan (mapID : UUID) (now : Time) (links : List LinkClone) : CanvasStatement :=
  (links.flatMap (linkStatements mapID now)).flatten

/-- The keys of a map's rows, before and after. -/
def onMap (mapID : UUID) (pairs : List (UUID × UUID)) : List ((UUID × UUID) × (UUID × UUID)) :=
  pairs.map fun pair => ((mapID, pair.1), (mapID, pair.2))

/-- The identifiers of the links, before and after. -/
def linkPairs (links : List LinkClone) : List (UUID × UUID) := links.map fun l => (l.id, l.newID)

theorem linkPairs_news (links : List LinkClone) :
    (linkPairs links).map Prod.snd = links.map LinkClone.newID := by
  simp [linkPairs]

theorem linkPairs_olds (links : List LinkClone) :
    (linkPairs links).map Prod.fst = links.map LinkClone.id := by
  simp [linkPairs]

/-- All statements of a transaction. -/
def plan (txn : IsolationTxn) : CanvasStatement :=
  clonePlan txn.mapID txn.clones ++ linkPlan txn.mapID txn.now txn.links

/-- The tables after a transaction. -/
structure Isolated (db db' : CanvasDB) (txn : IsolationTxn) : Prop where
  devices : db' .devices = (db .devices).copyAll
    (fun clone device => cloneDevice device clone.2) Prod.fst Prod.snd txn.clones
  deviceAddresses : db' .deviceAddresses =
    (db .deviceAddresses).copyAll (fun _ => id) Prod.fst Prod.snd txn.clones
  links : db' .links =
    (db .links).copyAll (clonedLink txn.now) LinkClone.id LinkClone.newID txn.links
  mapDevices : db' .mapDevices = (db .mapDevices).moveAll (onMap txn.mapID txn.clones)
  mapDeviceAreas : db' .mapDeviceAreas = (db .mapDeviceAreas).moveAll (onMap txn.mapID txn.clones)
  mapPositions : db' .mapPositions = (db .mapPositions).moveAll (onMap txn.mapID txn.clones)
  mapLinks : db' .mapLinks = (db .mapLinks).moveAll (onMap txn.mapID (linkPairs txn.links))
  mapLinkRoutes : db' .mapLinkRoutes =
    (db .mapLinkRoutes).moveAll (onMap txn.mapID (linkPairs txn.links))

theorem isolated_foldl (db : CanvasDB) (txn : IsolationTxn) :
    Isolated db ((plan txn).foldl apply db) txn := by
  obtain ⟨mapID, now, stage, clones, links, todo, writes⟩ := txn
  induction clones generalizing db with
  | nil =>
    induction links generalizing db with
    | nil => exact ⟨rfl, rfl, rfl, rfl, rfl, rfl, rfl, rfl⟩
    | cons link links ih =>
      exact { ih ((linkStatements mapID now link).flatten.foldl apply db) with }
  | cons clone clones ih =>
    exact { ih ((cloneStatements mapID clone).flatten.foldl apply db) with }

/-! ### The rows that it finds -/

/-- The foreign keys. -/
structure Referential (db : CanvasDB) : Prop where
  deviceAddresses : ∀ id ∈ (db .deviceAddresses).dom, id ∈ (db .devices).dom
  endpoints : ∀ id row, (db .links).get id = some row →
    row.sourceDeviceID ∈ (db .devices).dom ∧ row.targetDeviceID ∈ (db .devices).dom
  mapDevices : ∀ m d, (m, d) ∈ (db .mapDevices).dom → d ∈ (db .devices).dom
  mapDeviceAreas : ∀ key ∈ (db .mapDeviceAreas).dom, key ∈ (db .mapDevices).dom
  mapPositions : ∀ m d, (m, d) ∈ (db .mapPositions).dom → d ∈ (db .devices).dom
  mapLinks : ∀ m l, (m, l) ∈ (db .mapLinks).dom → l ∈ (db .links).dom
  mapLinkRoutes : ∀ m l, (m, l) ∈ (db .mapLinkRoutes).dom → l ∈ (db .links).dom

/-- The devices to be cloned are there, and the new identifiers are not. -/
structure ClonesFit (db : CanvasDB) (clones : List (UUID × UUID)) : Prop where
  keys : FreshKeys clones
  present : ∀ clone ∈ clones, clone.1 ∈ (db .devices).dom
  fresh : ∀ clone ∈ clones, clone.2 ∉ (db .devices).dom

/-- The links to be cloned are there with the endpoints that were read, and the new identifiers are
not. -/
structure LinksFit (db : CanvasDB) (clones : List (UUID × UUID)) (links : List LinkClone) : Prop where
  keys : FreshKeys (linkPairs links)
  rows : ∀ link ∈ links, ∃ row, (db .links).get link.id = some row ∧
    link.source = remap clones row.sourceDeviceID ∧ link.target = remap clones row.targetDeviceID
  fresh : ∀ link ∈ links, link.newID ∉ (db .links).dom

/-- Every link of the map that has an endpoint among the clones is to be cloned. -/
def LinksComplete (db : CanvasDB) (mapID : UUID) (clones : List (UUID × UUID))
    (links : List LinkClone) : Prop :=
  ∀ id row, (mapID, id) ∈ (db .mapLinks).dom → (db .links).get id = some row →
    row.sourceDeviceID ∈ clones.map Prod.fst ∨ row.targetDeviceID ∈ clones.map Prod.fst →
    id ∈ links.map LinkClone.id

/-- The renaming that a list of pairs stands for. -/
def renamed (pairs : List (UUID × UUID)) : Equiv.Perm UUID := (exchange pairs)⁻¹

theorem renamed_of_mem (h : FreshKeys pairs) {pair : UUID × UUID} (hp : pair ∈ pairs) :
    renamed pairs pair.1 = pair.2 := by
  rw [renamed, Equiv.Perm.inv_eq_iff_eq, exchange_snd h hp]

theorem renamed_of_not_mem {id : UUID} (hold : id ∉ pairs.map Prod.fst)
    (hnew : id ∉ pairs.map Prod.snd) : renamed pairs id = id := by
  rw [renamed, Equiv.Perm.inv_eq_iff_eq, exchange_of_not_mem hold hnew]

theorem exists_of_renamed_ne {id : UUID} (hnew : id ∉ pairs.map Prod.snd)
    (hne : renamed pairs id ≠ id) : ∃ pair ∈ pairs, pair.1 = id := by
  by_contra hold
  exact hne (renamed_of_not_mem (fun hmem => hold (mem_map.1 hmem)) hnew)

theorem exchange_renamed (pairs : List (UUID × UUID)) (id : UUID) :
    exchange pairs (renamed pairs id) = id := by
  simp [renamed]

/-- `remap` renames the identifiers that are not new. -/
theorem remap_eq_renamed (h : FreshKeys clones) {id : UUID} (hnew : id ∉ clones.map Prod.snd) :
    remap clones id = renamed clones id := by
  unfold remap
  cases hfind : clones.find? fun clone => clone.1 = id with
  | none =>
    have hold : id ∉ clones.map Prod.fst := by
      intro hmem
      obtain ⟨clone, hclone, heq⟩ := mem_map.1 hmem
      have := List.find?_eq_none.1 hfind clone hclone
      simp [heq] at this
    rw [renamed_of_not_mem hold hnew]
    rfl
  | some clone =>
    have hid : clone.1 = id := by simpa using List.find?_some hfind
    rw [← hid, renamed_of_mem h (mem_of_find?_eq_some hfind)]
    rfl

theorem not_mem_news (hfresh : ∀ pair ∈ pairs, pair.2 ∉ ids) {id : UUID}
    (hid : id ∈ ids) : id ∉ pairs.map Prod.snd := by
  intro hmem
  obtain ⟨pair, hpair, rfl⟩ := mem_map.1 hmem
  exact hfresh pair hpair hid

/-! ### The effect of a commit -/

section Moved

variable {V : Type} {table : FMap (UUID × UUID) V}

section

variable (h : FreshKeys pairs) (hfresh : ∀ pair ∈ pairs, pair.2 ∉ ids)
  (hrefs : ∀ m x, (m, x) ∈ table.dom → x ∈ ids)
include h hfresh hrefs

/-- Rows of a map under fresh identifiers: what is found under a key is what was under the
exchanged one. -/
theorem get_moved (x : UUID) :
    (table.moveAll (onMap mapID pairs)).get (mapID, x) = table.get (mapID, exchange pairs x) := by
  rw [onMap, get_moveAll (h.fiber mapID), exchange_fiber]
  intro p hp
  obtain ⟨pair, hpair, rfl⟩ := mem_map.1 hp
  exact get_eq_none_iff.2 fun hmem => hfresh pair hpair (hrefs _ _ hmem)

theorem get_moved_renamed (x : UUID) :
    (table.moveAll (onMap mapID pairs)).get (mapID, renamed pairs x) = table.get (mapID, x) := by
  rw [get_moved h hfresh hrefs, exchange_renamed]

omit h hfresh hrefs in
theorem get_moved_other (table : FMap (UUID × UUID) V) (pairs : List (UUID × UUID)) (hm : m ≠ mapID)
    (x : UUID) : (table.moveAll (onMap mapID pairs)).get (m, x) = table.get (m, x) := by
  induction pairs generalizing table with
  | nil => rfl
  | cons pair pairs ih =>
    have hkey : ∀ y, (m, x) ≠ (mapID, y) := fun y he => hm (Prod.mk.inj he).1
    show (((table.copy id (mapID, pair.1) (mapID, pair.2)).erase (mapID, pair.1)).moveAll
      (onMap mapID pairs)).get (m, x) = _
    rw [ih, get_erase, if_neg (hkey _), get_copy_ne _ _ _ (hkey _)]

theorem mem_of_moved {x : UUID} (hmem : (m, x) ∈ (table.moveAll (onMap mapID pairs)).dom) :
    x ∈ ids ∨ x ∈ pairs.map Prod.snd := by
  by_cases hm : m = mapID
  · subst hm
    rw [mem_dom_congr (get_moved h hfresh hrefs x)] at hmem
    have hx := hrefs _ _ hmem
    by_cases hold : x ∈ pairs.map Prod.fst
    · -- the exchanged identifier would be a new one
      obtain ⟨pair, hpair, rfl⟩ := mem_map.1 hold
      rw [exchange_fst h hpair] at hx
      exact absurd hx (hfresh pair hpair)
    · by_cases hnew : x ∈ pairs.map Prod.snd
      · exact .inr hnew
      · rw [exchange_of_not_mem hold hnew] at hx
        exact .inl hx
  · rw [mem_dom_congr (get_moved_other _ _ hm x)] at hmem
    exact .inl (hrefs _ _ hmem)

end

end Moved

/-- The transaction found the rows of this database. -/
structure Fits (db : CanvasDB) (txn : IsolationTxn) : Prop where
  clones : ClonesFit db txn.clones
  links : LinksFit db txn.clones txn.links
  complete : LinksComplete db txn.mapID txn.clones txn.links

namespace Isolated

theorem linkPairs_fresh (hl : LinksFit db txn.clones txn.links) :
    ∀ pair ∈ linkPairs txn.links, pair.2 ∉ (db .links).dom := by
  intro pair hpair
  obtain ⟨link, hlink, rfl⟩ := mem_map.1 hpair
  exact hl.fresh link hlink

variable (h : Isolated db db' txn) (hrefs : Referential db) (hc : ClonesFit db txn.clones)
  (hl : LinksFit db txn.clones txn.links)

include h

theorem mem_mapDevices_other (hm : m ≠ txn.mapID) (d : UUID) :
    (m, d) ∈ (db' .mapDevices).dom ↔ (m, d) ∈ (db .mapDevices).dom := by
  rw [h.mapDevices]
  exact mem_dom_congr (get_moved_other _ _ hm d)

section

include hc

theorem device_kept (hd : d ∈ (db .devices).dom) : (db' .devices).get d = (db .devices).get d := by
  rw [h.devices]
  exact get_copyAll_of_not_mem _ _ _ _ (not_mem_news hc.fresh hd)

theorem device_new {clone : UUID × UUID} (hclone : clone ∈ txn.clones) :
    (db' .devices).get clone.2 =
      ((db .devices).get clone.1).map fun device => cloneDevice device clone.2 := by
  rw [h.devices]
  refine get_copyAll_of_mem ?_ (fun c hc' => get_eq_none_iff.2 (hc.fresh c hc')) hclone
  simpa using hc.keys

theorem mem_devices :
    d ∈ (db' .devices).dom ↔ d ∈ (db .devices).dom ∨ d ∈ txn.clones.map Prod.snd := by
  rw [h.devices]
  exact mem_dom_copyAll (by simpa using hc.keys) hc.fresh hc.present

theorem remap_mem (hd : d ∈ (db .devices).dom) : remap txn.clones d ∈ (db' .devices).dom := by
  rw [remap_eq_renamed hc.keys (not_mem_news hc.fresh hd), h.mem_devices hc]
  by_cases hold : d ∈ txn.clones.map Prod.fst
  · obtain ⟨clone, hclone, rfl⟩ := mem_map.1 hold
    rw [renamed_of_mem hc.keys hclone]
    exact .inr (mem_map_of_mem hclone)
  · rw [renamed_of_not_mem hold (not_mem_news hc.fresh hd)]
    exact .inl hd

include hrefs

theorem get_mapDevices (x : UUID) : (db' .mapDevices).get (txn.mapID, x) =
    (db .mapDevices).get (txn.mapID, exchange txn.clones x) := by
  rw [h.mapDevices]
  exact get_moved hc.keys hc.fresh hrefs.mapDevices x

theorem get_mapDeviceAreas (x : UUID) : (db' .mapDeviceAreas).get (txn.mapID, x) =
    (db .mapDeviceAreas).get (txn.mapID, exchange txn.clones x) := by
  rw [h.mapDeviceAreas]
  exact get_moved hc.keys hc.fresh
    (fun m d hmem => hrefs.mapDevices m d (hrefs.mapDeviceAreas _ hmem)) x

theorem mem_mapDevices_old (hd : d ∈ (db .devices).dom) : (txn.mapID, d) ∈ (db' .mapDevices).dom ↔
      (txn.mapID, d) ∈ (db .mapDevices).dom ∧ d ∉ txn.clones.map Prod.fst := by
  rw [mem_dom_congr (h.get_mapDevices hrefs hc d)]
  by_cases hold : d ∈ txn.clones.map Prod.fst
  · obtain ⟨clone, hclone, rfl⟩ := mem_map.1 hold
    rw [exchange_fst hc.keys hclone]
    refine iff_of_false (fun hm => ?_) (fun hm => hm.2 hold)
    exact hc.fresh clone hclone (hrefs.mapDevices _ _ hm)
  · rw [exchange_of_not_mem hold (not_mem_news hc.fresh hd)]
    exact ⟨fun hm => ⟨hm, hold⟩, fun hm => hm.1⟩

end

section

include hl

theorem link_kept (hmem : l ∈ (db .links).dom) : (db' .links).get l = (db .links).get l := by
  rw [h.links]
  apply get_copyAll_of_not_mem
  rw [← linkPairs_news]
  exact not_mem_news (linkPairs_fresh hl) hmem

theorem link_new (hlink : link ∈ txn.links) :
    (db' .links).get link.newID = ((db .links).get link.id).map (clonedLink txn.now link) := by
  rw [h.links]
  exact get_copyAll_of_mem hl.keys (fun l hmem => get_eq_none_iff.2 (hl.fresh l hmem)) hlink

theorem mem_links :
    l ∈ (db' .links).dom ↔ l ∈ (db .links).dom ∨ l ∈ txn.links.map LinkClone.newID := by
  rw [h.links]
  refine mem_dom_copyAll hl.keys hl.fresh fun link hlink => ?_
  obtain ⟨row, hrow, -⟩ := hl.rows link hlink
  exact mem_dom_of_get hrow

theorem link_cases {row : LinkRow} (hrow : (db' .links).get l = some row) :
    (db .links).get l = some row ∨
      ∃ link ∈ txn.links, row.sourceDeviceID = link.source ∧ row.targetDeviceID = link.target := by
  by_cases hnew : l ∈ txn.links.map LinkClone.newID
  · obtain ⟨link, hlink, rfl⟩ := mem_map.1 hnew
    rw [h.link_new hl hlink] at hrow
    obtain ⟨row', -, rfl⟩ := Option.map_eq_some_iff.1 hrow
    exact .inr ⟨link, hlink, rfl, rfl⟩
  · rw [h.links, get_copyAll_of_not_mem _ _ _ _ hnew] at hrow
    exact .inl hrow

end

include hrefs hc hl

theorem referential : Referential db' where
  deviceAddresses := by
    intro d hd
    rw [h.mem_devices hc]
    by_cases hnew : d ∈ txn.clones.map Prod.snd
    · exact .inr hnew
    · rw [h.deviceAddresses, mem_dom_congr (get_copyAll_of_not_mem _ _ _ _ hnew)] at hd
      exact .inl (hrefs.deviceAddresses d hd)
  endpoints := by
    intro l row hrow
    rcases h.link_cases hl hrow with hold | ⟨link, hlink, hsource, htarget⟩
    · have := hrefs.endpoints l row hold
      exact ⟨(h.mem_devices hc).2 (.inl this.1), (h.mem_devices hc).2 (.inl this.2)⟩
    · obtain ⟨row', hrow', hs, ht⟩ := hl.rows link hlink
      have hends := hrefs.endpoints _ row' hrow'
      rw [hsource, htarget, hs, ht]
      exact ⟨h.remap_mem hc hends.1, h.remap_mem hc hends.2⟩
  mapDevices := by
    intro m d hmem
    rw [h.mapDevices] at hmem
    exact (h.mem_devices hc).2 (mem_of_moved hc.keys hc.fresh hrefs.mapDevices hmem)
  mapDeviceAreas := by
    rintro ⟨m, d⟩ hmem
    by_cases hm : m = txn.mapID
    · subst hm
      rw [mem_dom_congr (h.get_mapDeviceAreas hrefs hc d)] at hmem
      exact (mem_dom_congr (h.get_mapDevices hrefs hc d)).2 (hrefs.mapDeviceAreas _ hmem)
    · rw [h.mapDeviceAreas, mem_dom_congr (get_moved_other _ _ hm d)] at hmem
      exact (h.mem_mapDevices_other hm d).2 (hrefs.mapDeviceAreas _ hmem)
  mapPositions := by
    intro m d hmem
    rw [h.mapPositions] at hmem
    exact (h.mem_devices hc).2 (mem_of_moved hc.keys hc.fresh hrefs.mapPositions hmem)
  mapLinks := by
    intro m l hmem
    rw [h.mapLinks] at hmem
    rw [h.mem_links hl, ← linkPairs_news]
    exact mem_of_moved hl.keys (linkPairs_fresh hl) hrefs.mapLinks hmem
  mapLinkRoutes := by
    intro m l hmem
    rw [h.mapLinkRoutes] at hmem
    rw [h.mem_links hl, ← linkPairs_news]
    exact mem_of_moved hl.keys (linkPairs_fresh hl) hrefs.mapLinkRoutes hmem

end Isolated

/-! ### Maps up to renaming -/

/-- A link with its endpoints renamed; only the identifier and the times may differ. -/
def RenamedLink (ρ : Equiv.Perm UUID) (link link' : LinkRow) : Prop :=
  link'.sourceDeviceID = ρ link.sourceDeviceID ∧ link'.targetDeviceID = ρ link.targetDeviceID ∧
    link'.sourceIfName = link.sourceIfName ∧ link'.targetIfName = link.targetIfName ∧
    link'.discoveryProtocol = link.discoveryProtocol

/-- A map has the rows that it had, up to a renaming `ρ` of devices and `l` of links. A device that
is renamed is a copy under a fresh identifier, and so is a link. -/
structure SameMap (db db' : CanvasDB) (mapID : UUID) (ρ l : Equiv.Perm UUID) : Prop where
  mapDevices : ∀ x, (db' .mapDevices).get (mapID, ρ x) = (db .mapDevices).get (mapID, x)
  mapDeviceAreas : ∀ x, (db' .mapDeviceAreas).get (mapID, ρ x) = (db .mapDeviceAreas).get (mapID, x)
  mapPositions : ∀ x, (db' .mapPositions).get (mapID, ρ x) = (db .mapPositions).get (mapID, x)
  mapLinks : ∀ x, (db' .mapLinks).get (mapID, l x) = (db .mapLinks).get (mapID, x)
  mapLinkRoutes : ∀ x, (db' .mapLinkRoutes).get (mapID, l x) = (db .mapLinkRoutes).get (mapID, x)
  links : ∀ x link, (mapID, x) ∈ (db .mapLinks).dom → (db .links).get x = some link →
    ∃ link', (db' .links).get (l x) = some link' ∧ RenamedLink ρ link link'
  clones : ∀ x ∈ (db .devices).dom, ρ x ≠ x → ρ x ∉ (db .devices).dom ∧
    (db' .devices).get (ρ x) = ((db .devices).get x).map fun device => cloneDevice device (ρ x)
  freshLinks : ∀ x ∈ (db .links).dom, l x ≠ x → l x ∉ (db .links).dom ∧ l x ∈ (db' .links).dom

/-- Devices and links are never changed or removed. -/
structure Extends (db db' : CanvasDB) : Prop where
  devices : ∀ d ∈ (db .devices).dom, (db' .devices).get d = (db .devices).get d
  links : ∀ l ∈ (db .links).dom, (db' .links).get l = (db .links).get l

theorem Extends.mem_devices (h : Extends db db') (hd : d ∈ (db .devices).dom) :
    d ∈ (db' .devices).dom :=
  (mem_dom_congr (h.devices d hd)).2 hd

theorem Extends.mem_links (h : Extends db db') (hl : l ∈ (db .links).dom) : l ∈ (db' .links).dom :=
  (mem_dom_congr (h.links l hl)).2 hl

theorem Extends.refl (db : CanvasDB) : Extends db db := ⟨fun _ _ => rfl, fun _ _ => rfl⟩

theorem Extends.trans (h : Extends db db') (h' : Extends db' db'') : Extends db db'' where
  devices := fun d hd => (h'.devices d (h.mem_devices hd)).trans (h.devices d hd)
  links := fun l hl => (h'.links l (h.mem_links hl)).trans (h.links l hl)

theorem Isolated.extends (h : Isolated db db' txn) (hc : ClonesFit db txn.clones)
    (hl : LinksFit db txn.clones txn.links) : Extends db db' where
  devices := fun _ hd => h.device_kept hc hd
  links := fun _ hmem => h.link_kept hl hmem

theorem SameMap.refl (db : CanvasDB) (mapID : UUID) : SameMap db db mapID 1 1 where
  mapDevices := fun _ => rfl
  mapDeviceAreas := fun _ => rfl
  mapPositions := fun _ => rfl
  mapLinks := fun _ => rfl
  mapLinkRoutes := fun _ => rfl
  links := fun _ link _ hlink => ⟨link, hlink, rfl, rfl, rfl, rfl, rfl⟩
  clones := fun _ _ hne => absurd rfl hne
  freshLinks := fun _ _ hne => absurd rfl hne

theorem SameMap.trans {ρ l ρ' l' : Equiv.Perm UUID} (h : SameMap db db' mapID ρ l)
    (h' : SameMap db' db'' mapID ρ' l') (hext : Extends db db') (hext' : Extends db' db'') :
    SameMap db db'' mapID (ρ' * ρ) (l' * l) where
  mapDevices := fun x => (h'.mapDevices (ρ x)).trans (h.mapDevices x)
  mapDeviceAreas := fun x => (h'.mapDeviceAreas (ρ x)).trans (h.mapDeviceAreas x)
  mapPositions := fun x => (h'.mapPositions (ρ x)).trans (h.mapPositions x)
  mapLinks := fun x => (h'.mapLinks (l x)).trans (h.mapLinks x)
  mapLinkRoutes := fun x => (h'.mapLinkRoutes (l x)).trans (h.mapLinkRoutes x)
  links := by
    intro x link hx hlink
    obtain ⟨link', hlink', hs, ht, hsi, hti, hp⟩ := h.links x link hx hlink
    have hx' : (mapID, l x) ∈ (db' .mapLinks).dom := (mem_dom_congr (h.mapLinks x)).2 hx
    obtain ⟨link'', hlink'', hs', ht', hsi', hti', hp'⟩ := h'.links (l x) link' hx' hlink'
    refine ⟨link'', hlink'', ?_, ?_, hsi'.trans hsi, hti'.trans hti, hp'.trans hp⟩
    · rw [hs', hs]
      rfl
    · rw [ht', ht]
      rfl
  clones := by
    intro x hx hne
    rw [Equiv.Perm.mul_apply] at hne ⊢
    by_cases hρ : ρ x = x
    · -- cloned by the second only
      rw [hρ] at hne ⊢
      obtain ⟨hfresh, hrow⟩ := h'.clones x (hext.mem_devices hx) hne
      exact ⟨fun hmem => hfresh (hext.mem_devices hmem), by rw [hrow, hext.devices x hx]⟩
    · obtain ⟨hfresh, hrow⟩ := h.clones x hx hρ
      have hmem : ρ x ∈ (db' .devices).dom := by
        rw [FMap.mem_dom, hrow, Option.isSome_map, ← FMap.mem_dom]
        exact hx
      by_cases hρ' : ρ' (ρ x) = ρ x
      · rw [hρ']
        exact ⟨hfresh, by rw [hext'.devices _ hmem, hrow]⟩
      · -- the clone is cloned
        obtain ⟨hfresh', hrow'⟩ := h'.clones (ρ x) hmem hρ'
        refine ⟨fun hm => hfresh' (hext.mem_devices hm), ?_⟩
        rw [hrow', hrow, Option.map_map]
        rfl
  freshLinks := by
    intro x hx hne
    rw [Equiv.Perm.mul_apply] at hne ⊢
    by_cases hl : l x = x
    · rw [hl] at hne ⊢
      obtain ⟨hfresh, hmem⟩ := h'.freshLinks x (hext.mem_links hx) hne
      exact ⟨fun hm => hfresh (hext.mem_links hm), hmem⟩
    · obtain ⟨hfresh, hmem⟩ := h.freshLinks x hx hl
      by_cases hl' : l' (l x) = l x
      · rw [hl']
        exact ⟨hfresh, hext'.mem_links hmem⟩
      · obtain ⟨hfresh', hmem'⟩ := h'.freshLinks (l x) hmem hl'
        exact ⟨fun hm => hfresh' (hext.mem_links hm), hmem'⟩

/-- The map of a transaction is renamed by it. -/
theorem Isolated.sameMap (h : Isolated db db' txn) (hrefs : Referential db) (hfit : Fits db txn) :
    SameMap db db' txn.mapID (renamed txn.clones) (renamed (linkPairs txn.links)) := by
  obtain ⟨hc, hl, hcomplete⟩ := hfit
  have hdevice : ∀ d ∈ (db .devices).dom, d ∉ txn.clones.map Prod.snd :=
    fun d hd => not_mem_news hc.fresh hd
  refine ⟨fun x => ?_, fun x => ?_, fun x => ?_, fun x => ?_, fun x => ?_, ?_, ?_, ?_⟩
  · rw [h.get_mapDevices hrefs hc, exchange_renamed]
  · rw [h.get_mapDeviceAreas hrefs hc, exchange_renamed]
  · rw [h.mapPositions, get_moved_renamed hc.keys hc.fresh hrefs.mapPositions]
  · rw [h.mapLinks, get_moved_renamed hl.keys (linkPairs_fresh hl) hrefs.mapLinks]
  · rw [h.mapLinkRoutes, get_moved_renamed hl.keys (linkPairs_fresh hl) hrefs.mapLinkRoutes]
  · intro x link hx hlink
    obtain ⟨hsource, htarget⟩ := hrefs.endpoints x link hlink
    by_cases hmoved : x ∈ txn.links.map LinkClone.id
    · -- a link that is cloned has its endpoints remapped
      obtain ⟨clone, hclone, rfl⟩ := mem_map.1 hmoved
      have hpair : (clone.id, clone.newID) ∈ linkPairs txn.links := mem_map_of_mem hclone
      obtain ⟨row, hrow, hs, ht⟩ := hl.rows clone hclone
      obtain rfl : link = row := Option.some.inj (hlink.symm.trans hrow)
      rw [renamed_of_mem hl.keys hpair, h.link_new hl hclone, hrow]
      refine ⟨clonedLink txn.now clone link, rfl, ?_, ?_, rfl, rfl, rfl⟩
      · exact hs.trans (remap_eq_renamed hc.keys (hdevice _ hsource))
      · exact ht.trans (remap_eq_renamed hc.keys (hdevice _ htarget))
    · -- the endpoints of another link are not cloned
      have hends : ¬(link.sourceDeviceID ∈ txn.clones.map Prod.fst ∨
          link.targetDeviceID ∈ txn.clones.map Prod.fst) :=
        fun hends => hmoved (hcomplete x link hx hlink hends)
      rw [not_or] at hends
      have hmem : x ∈ (db .links).dom := FMap.mem_dom_of_get hlink
      have hold : x ∉ (linkPairs txn.links).map Prod.fst := by
        rw [linkPairs_olds]
        exact hmoved
      rw [renamed_of_not_mem hold (not_mem_news (linkPairs_fresh hl) hmem)]
      refine ⟨link, (h.link_kept hl hmem).trans hlink, ?_, ?_, rfl, rfl, rfl⟩
      · rw [renamed_of_not_mem hends.1 (hdevice _ hsource)]
      · rw [renamed_of_not_mem hends.2 (hdevice _ htarget)]
  · intro x hx hne
    obtain ⟨clone, hclone, rfl⟩ := exists_of_renamed_ne (hdevice x hx) hne
    rw [renamed_of_mem hc.keys hclone]
    exact ⟨hc.fresh clone hclone, h.device_new hc hclone⟩
  · intro x hx hne
    obtain ⟨pair, hpair, rfl⟩ := exists_of_renamed_ne (not_mem_news (linkPairs_fresh hl) hx) hne
    rw [renamed_of_mem hl.keys hpair, h.mem_links hl, ← linkPairs_news]
    exact ⟨linkPairs_fresh hl pair hpair, .inr (mem_map_of_mem hpair)⟩

theorem Isolated.sameMap_other (h : Isolated db db' txn) (hrefs : Referential db)
    (hl : LinksFit db txn.clones txn.links) (hm : m ≠ txn.mapID) : SameMap db db' m 1 1 where
  mapDevices := fun x => by rw [h.mapDevices]; exact get_moved_other _ _ hm x
  mapDeviceAreas := fun x => by rw [h.mapDeviceAreas]; exact get_moved_other _ _ hm x
  mapPositions := fun x => by rw [h.mapPositions]; exact get_moved_other _ _ hm x
  mapLinks := fun x => by rw [h.mapLinks]; exact get_moved_other _ _ hm x
  mapLinkRoutes := fun x => by rw [h.mapLinkRoutes]; exact get_moved_other _ _ hm x
  links := fun x link hx hlink =>
    ⟨link, (h.link_kept hl (hrefs.mapLinks m x hx)).trans hlink, rfl, rfl, rfl, rfl, rfl⟩
  clones := fun _ _ hne => absurd rfl hne
  freshLinks := fun _ _ hne => absurd rfl hne

/-! ### The cells of a transaction -/

/-- The cells that the statements of a transaction read or write. -/
def Touches (txn : IsolationTxn) : Cell CanvasTable.Key → Prop
  | ⟨.devices, id⟩ | ⟨.deviceAddresses, id⟩ =>
    id ∈ txn.clones.map Prod.fst ∨ id ∈ txn.clones.map Prod.snd
  | ⟨.links, id⟩ => id ∈ txn.links.map LinkClone.id ∨ id ∈ txn.links.map LinkClone.newID
  | ⟨.mapDevices, key⟩ | ⟨.mapDeviceAreas, key⟩ | ⟨.mapPositions, key⟩ | ⟨.mapLinks, key⟩
  | ⟨.mapLinkRoutes, key⟩ => key.1 = txn.mapID

/-- The cells that it writes. -/
def Owns (txn : IsolationTxn) : Cell CanvasTable.Key → Prop
  | ⟨.devices, id⟩ | ⟨.deviceAddresses, id⟩ => id ∈ txn.clones.map Prod.snd
  | ⟨.links, id⟩ => id ∈ txn.links.map LinkClone.newID
  | ⟨.mapDevices, key⟩ | ⟨.mapDeviceAreas, key⟩ | ⟨.mapPositions, key⟩ | ⟨.mapLinks, key⟩
  | ⟨.mapLinkRoutes, key⟩ => key.1 = txn.mapID

theorem mem_plan (ha : a ∈ plan txn) :
    (∃ clone ∈ txn.clones, a ∈ (cloneStatements txn.mapID clone).flatten) ∨
      ∃ link ∈ txn.links, a ∈ (linkStatements txn.mapID txn.now link).flatten := by
  simp only [plan, clonePlan, linkPlan, mem_append, mem_flatten, mem_flatMap] at ha ⊢
  rcases ha with ⟨st, ⟨clone, hclone, hst⟩, ha⟩ | ⟨st, ⟨link, hlink, hst⟩, ha⟩
  · exact .inl ⟨clone, hclone, st, hst, ha⟩
  · exact .inr ⟨link, hlink, st, hst, ha⟩

theorem cells_of_plan (ha : a ∈ plan txn) : (∀ c ∈ a.cells, Touches txn c) ∧ Owns txn a.target := by
  rcases mem_plan ha with ⟨clone, hclone, ha⟩ | ⟨link, hlink, ha⟩
  · have hold : clone.1 ∈ txn.clones.map Prod.fst := mem_map_of_mem hclone
    have hnew : clone.2 ∈ txn.clones.map Prod.snd := mem_map_of_mem hclone
    simp only [cloneStatements, moveRow, flatten_cons, flatten_nil, cons_append,
      nil_append, append_nil, mem_cons, not_mem_nil, or_false] at ha
    rcases ha with rfl | rfl | rfl | rfl | rfl | rfl | rfl | rfl <;>
      simp [cells, target, Touches, Owns, hold, hnew, -mem_map]
  · have hold : link.id ∈ txn.links.map LinkClone.id := mem_map_of_mem hlink
    have hnew : link.newID ∈ txn.links.map LinkClone.newID := mem_map_of_mem hlink
    simp only [linkStatements, moveRow, flatten_cons, flatten_nil, cons_append,
      nil_append, append_nil, mem_cons, not_mem_nil, or_false] at ha
    rcases ha with rfl | rfl | rfl | rfl | rfl <;>
      simp [cells, target, Touches, Owns, hold, hnew, -mem_map]

end CanvasIsolation

namespace IsolationSystem

open CanvasIsolation

/-! ### The invariant -/

def isVirtual (db : CanvasDB) (d : UUID) : Bool :=
  ((db .devices).get d).any fun device => decide (device.deviceType = .virtual)

/-- A device is on no other map. -/
def OnlyOn (db : CanvasDB) (mapID d : UUID) : Prop :=
  ∀ m, m ≠ mapID → (m, d) ∉ (db .mapDevices).dom

/-- The identifiers that a transaction has made. -/
def newIDs (txn : IsolationTxn) : List UUID :=
  txn.clones.map Prod.snd ++ txn.links.map LinkClone.newID

/-- A transaction has done a part of its plan, and what it found is still there. -/
structure TxnInv (db : CanvasDB) (txn : IsolationTxn) : Prop where
  tracks : ∃ done, Tracks db txn.writes done ∧ done ++ txn.todo.flatten = plan txn
  locked : txn.stage = .locked → txn.clones = [] ∧ txn.links = [] ∧ txn.todo = []
  selected : txn.stage = .selected → txn.links = []
  clones : ClonesFit db txn.clones
  links : LinksFit db txn.clones txn.links
  complete : txn.stage = .linked → LinksComplete db txn.mapID txn.clones txn.links
  sole : txn.stage ≠ .locked → ∀ d, isVirtual db d = true →
    (txn.mapID, d) ∈ (db .mapDevices).dom → d ∉ txn.clones.map Prod.fst → OnlyOn db txn.mapID d

theorem TxnInv.view_eq (h : TxnInv db txn) (htodo : txn.todo = []) :
    view db txn.writes = (plan txn).foldl apply db := by
  obtain ⟨done, htracks, hdone⟩ := h.tracks
  rw [htracks.view, ← hdone, htodo, flatten_nil, append_nil]

/-- The invariant of the isolations that started on `db₀`. -/
structure IsolationInv (db₀ : CanvasDB) (sys : IsolationSystem) : Prop where
  refs : Referential sys.db
  extends₀ : Extends db₀ sys.db
  txn : ∀ t txn, sys.txns.get t = some txn → TxnInv sys.db txn
  apart : ∀ t t' txn txn', t ≠ t' → sys.txns.get t = some txn → sys.txns.get t' = some txn' →
    txn.mapID ≠ txn'.mapID ∧ ∀ id ∈ newIDs txn, id ∉ newIDs txn'
  same : ∀ m, ∃ ρ l, SameMap db₀ sys.db m ρ l
  isolated : ∀ m ∈ sys.isolated, ∀ d, isVirtual sys.db d = true →
    (m, d) ∈ (sys.db .mapDevices).dom → OnlyOn sys.db m d

/-! ### Steps of one transaction -/

theorem IsolationInv.move (h : IsolationInv db₀ sys) (hinv : TxnInv sys.db txn)
    (hapart : ∀ t' txn', t' ≠ t → sys.txns.get t' = some txn' →
      txn.mapID ≠ txn'.mapID ∧ ∀ id ∈ newIDs txn, id ∉ newIDs txn') :
    IsolationInv db₀ { sys with txns := sys.txns.insert t txn } where
  refs := h.refs
  extends₀ := h.extends₀
  txn := forall_get_insert hinv fun t' txn' _ hget => h.txn t' txn' hget
  apart := by
    intro t₁ t₂ txn₁ txn₂ hne h₁ h₂
    rw [get_insert] at h₁ h₂
    split_ifs at h₁ with ht₁
    · cases h₁
      split_ifs at h₂ with ht₂
      · exact absurd (ht₁.trans ht₂.symm) hne
      · exact hapart t₂ txn₂ ht₂ h₂
    · split at h₂
      · cases h₂
        obtain ⟨hmap, hids⟩ := hapart t₁ txn₁ ht₁ h₁
        exact ⟨hmap.symm, fun id hid hid' => hids id hid' hid⟩
      · exact h.apart t₁ t₂ txn₁ txn₂ hne h₁ h₂
  same := h.same
  isolated := h.isolated

theorem IsolationInv.erase (h : IsolationInv db₀ sys) (t : Nat) :
    IsolationInv db₀ { sys with txns := sys.txns.erase t } :=
  { h with
    txn := fun t' txn ht => h.txn t' txn (get_erase_eq_some.1 ht).2
    apart := fun t₁ t₂ txn₁ txn₂ hne h₁ h₂ =>
      h.apart t₁ t₂ txn₁ txn₂ hne (get_erase_eq_some.1 h₁).2 (get_erase_eq_some.1 h₂).2 }

theorem freshKeys_nil {K : Type} : FreshKeys ([] : List (K × K)) :=
  ⟨nodup_nil, nodup_nil, nofun⟩

theorem linksFit_nil (db : CanvasDB) (clones : List (UUID × UUID)) : LinksFit db clones [] :=
  ⟨freshKeys_nil, nofun, nofun⟩

theorem txnInv_lock (db : CanvasDB) (mapID : UUID) (now : Time) : TxnInv db { mapID, now } where
  tracks := ⟨[], .empty db, rfl⟩
  locked := fun _ => ⟨rfl, rfl, rfl⟩
  selected := nofun
  clones := ⟨freshKeys_nil, nofun, nofun⟩
  links := linksFit_nil db []
  complete := nofun
  sole := fun h => absurd rfl h

theorem isRenaming_iff : sys.isRenaming ids pairs = true ↔ (pairs.map Prod.fst).Nodup ∧
      (pairs.map Prod.fst).toFinset = ids ∧ (pairs.map Prod.snd).Nodup ∧
      ∀ pair ∈ pairs, sys.isFresh pair.2 = true := by
  simp [isRenaming, Bool.and_eq_true, decide_eq_true_eq, all_eq_true, and_assoc]

theorem isFresh_iff {id : UUID} : sys.isFresh id = true ↔
    id ∉ (sys.db .devices).dom ∧ id ∉ (sys.db .links).dom ∧
      ∀ t txn, sys.txns.get t = some txn → id ∉ newIDs txn := by
  simp [isFresh, any_eq_false_iff, newIDs, and_assoc]

theorem mem_sharedVirtualDevices :
    d ∈ sharedVirtualDevices db mapID ↔ d ∈ (db .devices).dom ∧ isVirtual db d = true ∧
      (mapID, d) ∈ (db .mapDevices).dom ∧ ¬OnlyOn db mapID d := by
  have hany : ((db .mapDevices).any fun key _ => decide (key.2 = d ∧ key.1 ≠ mapID)) = true ↔
      ¬OnlyOn db mapID d := by
    simp only [any_eq_true_iff, OnlyOn, not_forall, not_not, decide_eq_true_eq]
    constructor
    · rintro ⟨⟨m, x⟩, row, hget, rfl, hm⟩
      exact ⟨m, hm, mem_dom_of_get hget⟩
    · rintro ⟨m, hm, hmem⟩
      obtain ⟨row, hget⟩ := mem_dom_iff_exists.1 hmem
      exact ⟨(m, d), row, hget, rfl, hm⟩
  simp only [sharedVirtualDevices, Finset.mem_filter, hany, isVirtual]

theorem TxnInv.select (h : TxnInv sys.db txn) (hrefs : Referential sys.db)
    (hlocked : txn.stage = .locked)
    (hren : sys.isRenaming (sharedVirtualDevices sys.db txn.mapID) clones = true) :
    TxnInv sys.db (IsolationSystem.select txn clones) := by
  obtain ⟨holds, hids, hnews, hfresh⟩ := isRenaming_iff.1 hren
  obtain ⟨hclones, hlinks, htodo⟩ := h.locked hlocked
  have hshared : ∀ d, d ∈ clones.map Prod.fst ↔ d ∈ sharedVirtualDevices sys.db txn.mapID := by
    intro d
    rw [← hids, mem_toFinset]
  have hpresent : ∀ clone ∈ clones, clone.1 ∈ (sys.db .devices).dom := fun clone hclone =>
    (mem_sharedVirtualDevices.1 ((hshared _).1 (mem_map_of_mem hclone))).1
  have hfit : ClonesFit sys.db clones := by
    refine ⟨⟨holds, hnews, fun p hp q hq he => ?_⟩, hpresent,
      fun clone hclone => (isFresh_iff.1 (hfresh clone hclone)).1⟩
    exact (isFresh_iff.1 (hfresh q hq)).1 (he ▸ hpresent p hp)
  obtain ⟨done, htracks, hdone⟩ := h.tracks
  have hnone : done = [] := by
    have : plan txn = [] := by simp [plan, hclones, hlinks, clonePlan, linkPlan]
    rw [this] at hdone
    exact (append_eq_nil_iff.1 hdone).1
  refine ⟨⟨[], hnone ▸ htracks, ?_⟩, fun hs => ?_, fun _ => hlinks, hfit, ?_, fun hs => ?_, ?_⟩
  · simp [IsolationSystem.select, plan, clonePlan, linkPlan, hlinks]
  · simp only [IsolationSystem.select] at hs
    split at hs <;> cases hs
  · show LinksFit sys.db clones txn.links
    rw [hlinks]
    exact linksFit_nil _ _
  · -- the select of the links is skipped only if there is nothing to clone
    have hnil : clones = [] := by
      by_contra hne
      simp [IsolationSystem.select, hne] at hs
    intro id row _ _ hends
    show id ∈ txn.links.map LinkClone.id
    simp [IsolationSystem.select, hnil] at hends
  · intro _ d hvirtual hmem hnot
    by_contra hshare
    exact hnot ((hshared d).2 (mem_sharedVirtualDevices.2
      ⟨hrefs.mapDevices _ _ hmem, hvirtual, hmem, hshare⟩))

theorem TxnInv.exec (h : TxnInv db txn) : TxnInv db (IsolationSystem.exec db txn) := by
  cases htodo : txn.todo with
  | nil =>
    simp only [IsolationSystem.exec, htodo]
    exact h
  | cons statement todo =>
    obtain ⟨done, htracks, hdone⟩ := h.tracks
    simp only [IsolationSystem.exec, htodo]
    refine ⟨⟨done ++ statement, htracks.statement statement, ?_⟩, fun hs => ?_, h.selected,
      h.clones, h.links, h.complete, h.sole⟩
    · rw [htodo, flatten_cons] at hdone
      rw [append_assoc]
      exact hdone
    · rw [(h.locked hs).2.2] at htodo
      cases htodo

theorem mem_changedLinks {id : UUID} :
    id ∈ changedLinks db mapID clones ↔ (mapID, id) ∈ (db .mapLinks).dom ∧
      ∃ row, (db .links).get id = some row ∧ (row.sourceDeviceID ∈ clones.map Prod.fst ∨
        row.targetDeviceID ∈ clones.map Prod.fst) := by
  simp only [changedLinks, Finset.mem_filter, Option.any_eq_true, decide_eq_true_eq]
  refine and_iff_right_of_imp fun h => ?_
  obtain ⟨-, row, hrow, -⟩ := h
  exact mem_dom_of_get hrow

theorem mem_linkClones : link ∈ linkClones db clones newLinks ↔ ∃ newLink ∈ newLinks, ∃ row,
      (db .links).get newLink.1 = some row ∧ ⟨newLink.1, newLink.2,
        remap clones row.sourceDeviceID, remap clones row.targetDeviceID⟩ = link := by
  simp [linkClones]

theorem linkPairs_linkClones (clones : List (UUID × UUID))
    (h : ∀ newLink ∈ newLinks, newLink.1 ∈ (db .links).dom) :
    linkPairs (linkClones db clones newLinks) = newLinks := by
  induction newLinks with
  | nil => rfl
  | cons newLink newLinks ih =>
    obtain ⟨row, hrow⟩ := mem_dom_iff_exists.1 (h newLink mem_cons_self)
    have htail := ih fun l hl => h l (mem_cons_of_mem _ hl)
    simp only [linkClones, linkPairs] at htail ⊢
    simp [hrow, htail]

theorem TxnInv.selectLinks (h : TxnInv sys.db txn) (hselected : txn.stage = .selected)
    (htodo : txn.todo = [])
    (hren : sys.isRenaming (changedLinks (view sys.db txn.writes) txn.mapID txn.clones)
      newLinks = true) : TxnInv sys.db (IsolationSystem.selectLinks sys.db txn newLinks) := by
  obtain ⟨done, htracks, hdone⟩ := h.tracks
  have hlinks := h.selected hselected
  have hcloned := isolated_foldl sys.db txn
  rw [← h.view_eq htodo] at hcloned
  have hsame : view sys.db txn.writes .links = sys.db .links := by
    rw [hcloned.links, hlinks]
    rfl
  have hsameMap : view sys.db txn.writes .mapLinks = sys.db .mapLinks := by
    rw [hcloned.mapLinks, hlinks]
    rfl
  obtain ⟨holds, hids, hnews, hfresh⟩ := isRenaming_iff.1 hren
  have hchanged : ∀ id, id ∈ newLinks.map Prod.fst ↔ id ∈ changedLinks sys.db txn.mapID txn.clones := by
    intro id
    rw [← mem_toFinset, hids, mem_changedLinks, mem_changedLinks, hsame, hsameMap]
  have hpresent : ∀ newLink ∈ newLinks, newLink.1 ∈ (sys.db .links).dom := by
    intro newLink hmem
    obtain ⟨-, row, hrow, -⟩ := mem_changedLinks.1 ((hchanged _).1 (mem_map_of_mem hmem))
    exact mem_dom_of_get hrow
  have hview : linkClones (view sys.db txn.writes) txn.clones newLinks =
      linkClones sys.db txn.clones newLinks := by
    simp [linkClones, hsame]
  have hpairs := linkPairs_linkClones txn.clones hpresent
  have hkeys : FreshKeys newLinks := by
    refine ⟨holds, hnews, fun p hp q hq he => ?_⟩
    exact (isFresh_iff.1 (hfresh q hq)).2.1 (he ▸ hpresent p hp)
  simp only [IsolationSystem.selectLinks, hview]
  refine ⟨⟨done, htracks, ?_⟩, by simp, by simp, h.clones, ⟨?_, fun link hlink => ?_,
    fun link hlink => ?_⟩, fun _ id row hmem hrow hends => ?_, fun _ => h.sole (by simp [hselected])⟩
  · rw [htodo, plan, hlinks] at hdone
    simpa [plan, linkPlan] using hdone
  · rw [hpairs]
    exact hkeys
  · obtain ⟨newLink, hnew, row, hrow, rfl⟩ := mem_linkClones.1 hlink
    exact ⟨row, hrow, rfl, rfl⟩
  · obtain ⟨newLink, hnew, row, hrow, rfl⟩ := mem_linkClones.1 hlink
    exact (isFresh_iff.1 (hfresh newLink hnew)).2.1
  · rw [← linkPairs_olds, hpairs, hchanged]
    exact mem_changedLinks.2 ⟨hmem, row, hrow, hends⟩

/-! ### A commit -/

section Commit

variable {other : IsolationTxn}

theorem isVirtual_kept (hext : Extends db db') (hd : d ∈ (db .devices).dom) :
    isVirtual db' d = isVirtual db d := by
  rw [isVirtual, isVirtual, hext.devices d hd]

theorem OnlyOn.kept (h : Isolated db db' txn) (hrefs : Referential db)
    (hc : ClonesFit db txn.clones) (hd : d ∈ (db .devices).dom) (honly : OnlyOn db m d) :
    OnlyOn db' m d := by
  intro m' hm' hmem
  by_cases hm : m' = txn.mapID
  · rw [hm] at hm' hmem
    exact honly _ hm' ((h.mem_mapDevices_old hrefs hc hd).1 hmem).1
  · exact honly m' hm' ((h.mem_mapDevices_other hm d).1 hmem)

theorem not_owns_of_touches (hother : TxnInv db other) (hfit : Fits db txn)
    (hmap : other.mapID ≠ txn.mapID) (hids : ∀ id ∈ newIDs other, id ∉ newIDs txn)
    {c : Cell CanvasTable.Key} (ht : Touches other c) : ¬Owns txn c := by
  intro ho
  have hdevice : ∀ id, id ∈ other.clones.map Prod.fst ∨ id ∈ other.clones.map Prod.snd →
      id ∉ txn.clones.map Prod.snd := by
    rintro id (hold | hnew) hmem
    · obtain ⟨clone, hclone, rfl⟩ := mem_map.1 hold
      exact not_mem_news hfit.clones.fresh (hother.clones.present clone hclone) hmem
    · exact hids id (mem_append_left _ hnew) (mem_append_left _ hmem)
  have hlink : ∀ id, id ∈ other.links.map LinkClone.id ∨ id ∈ other.links.map LinkClone.newID →
      id ∉ txn.links.map LinkClone.newID := by
    rintro id (hold | hnew) hmem
    · obtain ⟨link, hlink, rfl⟩ := mem_map.1 hold
      obtain ⟨row, hrow, -⟩ := hother.links.rows link hlink
      rw [← linkPairs_news] at hmem
      exact not_mem_news (Isolated.linkPairs_fresh hfit.links) (mem_dom_of_get hrow) hmem
    · exact hids id (mem_append_right _ hnew) (mem_append_right _ hmem)
  obtain ⟨table, key⟩ := c
  cases table with
  | devices | deviceAddresses => exact hdevice key ht ho
  | links => exact hlink key ht ho
  | mapDevices | mapDeviceAreas | mapPositions | mapLinks | mapLinkRoutes =>
    exact hmap (ht.symm.trans ho)

theorem TxnInv.transfer (hother : TxnInv db other) (hrefs : Referential db) (hfit : Fits db txn)
    (hmap : other.mapID ≠ txn.mapID) (hids : ∀ id ∈ newIDs other, id ∉ newIDs txn) :
    TxnInv ((plan txn).foldl apply db) other := by
  have hiso := isolated_foldl db txn
  have hext := hiso.extends hfit.clones hfit.links
  have hnewDevice : ∀ clone ∈ other.clones, clone.2 ∉ txn.clones.map Prod.snd :=
    fun clone hclone hmem => hids _ (mem_append_left _ (mem_map_of_mem hclone))
      (mem_append_left _ hmem)
  have hnewLink : ∀ link ∈ other.links, link.newID ∉ txn.links.map LinkClone.newID :=
    fun link hlink hmem => hids _ (mem_append_right _ (mem_map_of_mem hlink))
      (mem_append_right _ hmem)
  refine ⟨?_, hother.locked, hother.selected, ⟨hother.clones.keys, fun clone hclone => ?_,
    fun clone hclone => ?_⟩, ⟨hother.links.keys, fun link hlink => ?_, fun link hlink => ?_⟩,
    fun hs id row hmem hrow hends => ?_, fun hs d hvirtual hmem hnot => ?_⟩
  · obtain ⟨done, htracks, hdone⟩ := hother.tracks
    refine ⟨done, htracks.transfer fun a ha c hc => ?_, hdone⟩
    have hplan : a ∈ plan other := hdone ▸ mem_append_left _ ha
    refine (foldl_row_ne (fun b hb hne => ?_) db).symm
    exact not_owns_of_touches hother hfit hmap hids ((cells_of_plan hplan).1 c hc)
      (hne ▸ (cells_of_plan hb).2)
  · exact hext.mem_devices (hother.clones.present clone hclone)
  · rw [hiso.mem_devices hfit.clones, not_or]
    exact ⟨hother.clones.fresh clone hclone, hnewDevice clone hclone⟩
  · obtain ⟨row, hrow, hends⟩ := hother.links.rows link hlink
    exact ⟨row, (hext.links _ (mem_dom_of_get hrow)).trans hrow, hends⟩
  · rw [hiso.mem_links hfit.links, not_or]
    exact ⟨hother.links.fresh link hlink, hnewLink link hlink⟩
  · have hmem' : (other.mapID, id) ∈ (db .mapLinks).dom := by
      rwa [hiso.mapLinks, mem_dom_congr (get_moved_other _ _ hmap id)] at hmem
    rw [hext.links id (hrefs.mapLinks _ _ hmem')] at hrow
    exact hother.complete hs id row hmem' hrow hends
  · have hmem' := (hiso.mem_mapDevices_other hmap d).1 hmem
    have hd := hrefs.mapDevices _ _ hmem'
    rw [isVirtual_kept hext hd] at hvirtual
    exact (hother.sole hs d hvirtual hmem' hnot).kept hiso hrefs hfit.clones hd

end Commit

theorem IsolationInv.commit (h : IsolationInv db₀ sys) (ht : sys.txns.get t = some txn)
    (hstage : txn.stage = .linked) (htodo : txn.todo = []) : IsolationInv db₀
      { sys with
        db := view sys.db txn.writes
        txns := sys.txns.erase t
        isolated := insert txn.mapID sys.isolated } := by
  have hinv := h.txn t txn ht
  have hfit : Fits sys.db txn := ⟨hinv.clones, hinv.links, hinv.complete hstage⟩
  have hiso := isolated_foldl sys.db txn
  have hext := hiso.extends hfit.clones hfit.links
  rw [hinv.view_eq htodo]
  refine ⟨hiso.referential h.refs hfit.clones hfit.links, h.extends₀.trans hext, ?_,
    (h.erase t).apart, ?_, ?_⟩
  · intro t' txn' hget'
    obtain ⟨hne, hget'⟩ := get_erase_eq_some.1 hget'
    obtain ⟨hmap, hids⟩ := h.apart t' t txn' txn hne hget' ht
    exact (h.txn t' txn' hget').transfer h.refs hfit hmap hids
  · intro m
    obtain ⟨ρ, l, hsame⟩ := h.same m
    by_cases hm : m = txn.mapID
    · subst hm
      exact ⟨_, _, hsame.trans (hiso.sameMap h.refs hfit) h.extends₀ hext⟩
    · exact ⟨_, _, hsame.trans (hiso.sameMap_other h.refs hfit.links hm) h.extends₀ hext⟩
  · intro m hm d hvirtual hmem
    by_cases hmap : m = txn.mapID
    · subst hmap
      rcases (hiso.mem_devices hfit.clones).1
        ((hiso.referential h.refs hfit.clones hfit.links).mapDevices _ _ hmem) with hd | hnew
      · rw [isVirtual_kept hext hd] at hvirtual
        obtain ⟨hold, hnot⟩ := (hiso.mem_mapDevices_old h.refs hfit.clones hd).1 hmem
        exact (hinv.sole (by rw [hstage]; exact nofun) d hvirtual hold hnot).kept hiso h.refs
          hfit.clones hd
      · -- a clone is on the map it was made for
        intro m' hm' hmem'
        have hd := h.refs.mapDevices _ _ ((hiso.mem_mapDevices_other hm' d).1 hmem')
        exact not_mem_news hfit.clones.fresh hd hnew
    · have hmem' := (hiso.mem_mapDevices_other hmap d).1 hmem
      have hd := h.refs.mapDevices _ _ hmem'
      rw [isVirtual_kept hext hd] at hvirtual
      have hm' : m ∈ sys.isolated := (Finset.mem_insert.1 hm).resolve_left hmap
      exact (h.isolated m hm' d hvirtual hmem').kept hiso h.refs hfit.clones hd

theorem IsolationInv.step (h : IsolationInv db₀ sys) {op : Op} (hvalid : op.Valid sys) :
    IsolationInv db₀ (sys.step op) := by
  cases op with
  | lock t mapID now =>
    refine h.move (txnInv_lock sys.db mapID now) fun t' txn' _ hget => ⟨fun he => ?_, nofun⟩
    have hfree := any_eq_false_iff.1 hvalid.2 t' txn' hget
    exact of_decide_eq_false hfree he.symm
  | select t clones =>
    obtain ⟨txn, hget, hok⟩ := (Option.any_eq_true _ _).1 hvalid
    rw [Bool.and_eq_true, decide_eq_true_eq] at hok
    obtain ⟨hlocked, hren⟩ := hok
    have hinv := h.txn t txn hget
    simp only [IsolationSystem.step, hget]
    refine h.move (hinv.select h.refs hlocked hren) fun t' txn' hne hget' => ?_
    refine ⟨(h.apart t t' txn txn' hne.symm hget hget').1, fun id hid => ?_⟩
    have hnew : id ∈ clones.map Prod.snd := by
      simpa [newIDs, IsolationSystem.select, (hinv.locked hlocked).2.1] using hid
    obtain ⟨clone, hclone, rfl⟩ := mem_map.1 hnew
    exact (isFresh_iff.1 ((isRenaming_iff.1 hren).2.2.2 clone hclone)).2.2 t' txn' hget'
  | exec t =>
    simp only [IsolationSystem.step]
    cases hget : sys.txns.get t with
    | none => exact h
    | some txn =>
      refine h.move (h.txn t txn hget).exec fun t' txn' hne hget' => ?_
      have hsame := h.apart t t' txn txn' hne.symm hget hget'
      simp only [IsolationSystem.exec]
      split <;> exact hsame
  | selectLinks t newLinks =>
    obtain ⟨txn, hget, hok⟩ := (Option.any_eq_true _ _).1 hvalid
    rw [Bool.and_eq_true, Bool.and_eq_true, decide_eq_true_eq, List.isEmpty_iff] at hok
    obtain ⟨⟨hselected, htodo⟩, hren⟩ := hok
    simp only [IsolationSystem.step, hget]
    refine h.move ((h.txn t txn hget).selectLinks hselected htodo hren) fun t' txn' hne hget' => ?_
    have hsame := h.apart t t' txn txn' hne.symm hget hget'
    refine ⟨hsame.1, fun id hid => ?_⟩
    rcases mem_append.1 hid with hold | hnew
    · exact hsame.2 id (mem_append_left _ hold)
    · obtain ⟨link, hlink, rfl⟩ := mem_map.1 hnew
      obtain ⟨newLink, hmem, row, -, rfl⟩ := mem_linkClones.1 hlink
      exact (isFresh_iff.1 ((isRenaming_iff.1 hren).2.2.2 newLink hmem)).2.2 t' txn' hget'
  | commit t =>
    obtain ⟨txn, hget, hok⟩ := (Option.any_eq_true _ _).1 hvalid
    rw [Bool.and_eq_true, decide_eq_true_eq, List.isEmpty_iff] at hok
    simp only [IsolationSystem.step, hget]
    exact h.commit hget hok.1 hok.2
  | rollback t => exact h.erase t

theorem IsolationInv.init (hrefs : Referential db₀) : IsolationInv db₀ { db := db₀ } where
  refs := hrefs
  extends₀ := .refl db₀
  txn := nofun
  apart := nofun
  same := fun m => ⟨1, 1, .refl db₀ m⟩
  isolated := nofun

/-! ### No device is left without a map -/

/-- A device is on this map, and no transaction is about to take it off. -/
def Home (sys : IsolationSystem) (d m : UUID) : Prop :=
  (m, d) ∈ (sys.db .mapDevices).dom ∧
    ∀ t txn, sys.txns.get t = some txn → txn.mapID = m → d ∉ txn.clones.map Prod.fst

/-- The device has a home on another map. -/
def homeElsewhere (sys : IsolationSystem) (mapID d : UUID) : Bool :=
  (sys.db .mapDevices).any fun key _ => decide (key.2 = d ∧ key.1 ≠ mapID) &&
    !sys.txns.any fun _ txn => decide (txn.mapID = key.1 ∧ d ∈ txn.clones.map Prod.fst)

theorem homeElsewhere_iff : sys.homeElsewhere mapID d = true ↔ ∃ m, m ≠ mapID ∧ Home sys d m := by
  simp only [homeElsewhere, any_eq_true_iff, Bool.and_eq_true, decide_eq_true_eq,
    Bool.not_eq_true', any_eq_false_iff, decide_eq_false_iff_not, not_and]
  constructor
  · rintro ⟨⟨m, x⟩, row, hget, ⟨rfl, hm⟩, hfree⟩
    exact ⟨m, hm, mem_dom_of_get hget, hfree⟩
  · rintro ⟨m, hm, hmem, hfree⟩
    obtain ⟨row, hget⟩ := mem_dom_iff_exists.1 hmem
    exact ⟨(m, d), row, hget, ⟨rfl, hm⟩, hfree⟩

/-- When a transaction makes its first select, each device that it finds has a home on another map:
not every map that shares it is being isolated too. -/
def Orderly (sys : IsolationSystem) : Op → Prop
  | .select t clones => (sys.txns.get t).all (fun txn =>
      clones.all fun clone => sys.homeElsewhere txn.mapID clone.1) = true
  | _ => True

instance (sys : IsolationSystem) (op : Op) : Decidable (Orderly sys op) := by
  induction op using Op.casesOn <;> unfold Orderly <;> infer_instance

theorem Home.insert (h : Home sys d m) (htxn : txn.mapID = m → d ∉ txn.clones.map Prod.fst) :
    Home { sys with txns := sys.txns.insert t txn } d m :=
  ⟨h.1, forall_get_insert htxn fun t' txn' _ hget => h.2 t' txn' hget⟩

theorem Home.erase (h : Home sys d m) (t : Nat) : Home { sys with txns := sys.txns.erase t } d m :=
  ⟨h.1, fun t' txn hget => h.2 t' txn (get_erase_eq_some.1 hget).2⟩

/-- A device with a home keeps one. -/
theorem Home.step (hinv : IsolationInv db₀ sys) {op : Op} (hvalid : op.Valid sys)
    (horderly : Orderly sys op) (h : Home sys d m) : ∃ m', Home (sys.step op) d m' := by
  cases op with
  | lock t mapID now => exact ⟨m, h.insert fun _ => nofun⟩
  | select t clones =>
    obtain ⟨txn, hget, -⟩ := (Option.any_eq_true _ _).1 hvalid
    simp only [IsolationSystem.step, hget]
    by_cases hclash : txn.mapID = m ∧ d ∈ clones.map Prod.fst
    · -- the device leaves this map, and is at home on another
      obtain ⟨clone, hclone, rfl⟩ := mem_map.1 hclash.2
      simp only [Orderly, hget, Option.all_some, all_eq_true] at horderly
      obtain ⟨m', hm', hhome⟩ := homeElsewhere_iff.1 (horderly clone hclone)
      exact ⟨m', hhome.insert fun he => absurd he.symm hm'⟩
    · exact ⟨m, h.insert fun he hmem => hclash ⟨he, hmem⟩⟩
  | exec t =>
    simp only [IsolationSystem.step]
    cases hget : sys.txns.get t with
    | none => exact ⟨m, h⟩
    | some txn =>
      refine ⟨m, h.insert ?_⟩
      have hfree := h.2 t txn hget
      simp only [IsolationSystem.exec]
      split <;> exact hfree
  | selectLinks t newLinks =>
    simp only [IsolationSystem.step]
    cases hget : sys.txns.get t with
    | none => exact ⟨m, h⟩
    | some txn => exact ⟨m, h.insert (h.2 t txn hget)⟩
  | commit t =>
    obtain ⟨txn, hget, hok⟩ := (Option.any_eq_true _ _).1 hvalid
    rw [Bool.and_eq_true, decide_eq_true_eq, List.isEmpty_iff] at hok
    have htxn := hinv.txn t txn hget
    have hiso := isolated_foldl sys.db txn
    simp only [IsolationSystem.step, hget, htxn.view_eq hok.2]
    refine ⟨m, ?_, (h.erase t).2⟩
    by_cases hm : m = txn.mapID
    · subst hm
      exact (hiso.mem_mapDevices_old hinv.refs htxn.clones (hinv.refs.mapDevices _ _ h.1)).2
        ⟨h.1, h.2 t txn hget rfl⟩
    · exact (hiso.mem_mapDevices_other hm d).2 h.1
  | rollback t => exact ⟨m, h.erase t⟩

/-! ### Runs -/

/-- The steps of isolations that leave every shared device a home. -/
def Careful (sys : IsolationSystem) (op : Op) : Prop := op.Valid sys ∧ Orderly sys op

instance (sys : IsolationSystem) (op : Op) : Decidable (Careful sys op) :=
  inferInstanceAs (Decidable (_ ∧ _))

/-- In every state: a virtual device of an isolated map is on no other map; every map has its rows,
up to a renaming of cloned devices and links; and a device that was on a map is on one. -/
theorem isolation_keeps_maps {db₀ : CanvasDB} (hrefs : Referential db₀) {sys : IsolationSystem}
    {ops : List Op}
    (h : Run (· = ({ db := db₀ } : IsolationSystem)) (ActStep step Careful) sys ops) :
    (∀ m ∈ sys.isolated, ∀ d, isVirtual sys.db d = true → (m, d) ∈ (sys.db .mapDevices).dom →
      OnlyOn sys.db m d) ∧
    (∀ m, ∃ ρ l, SameMap db₀ sys.db m ρ l) ∧
    ∀ m d, (m, d) ∈ (db₀ .mapDevices).dom → ∃ m', (m', d) ∈ (sys.db .mapDevices).dom := by
  have hinv : IsolationInv db₀ sys ∧
      ∀ m d, (m, d) ∈ (db₀ .mapDevices).dom → ∃ m', Home sys d m' := by
    refine h.act_invariant (P := fun sys => IsolationInv db₀ sys ∧
      ∀ m d, (m, d) ∈ (db₀ .mapDevices).dom → ∃ m', Home sys d m') ?_ ?_
    · exact ⟨.init hrefs, fun m d hmem => ⟨m, hmem, nofun⟩⟩
    · intro sys op hP hop
      refine ⟨hP.1.step hop.1, fun m d hmem => ?_⟩
      obtain ⟨m', hhome⟩ := hP.2 m d hmem
      exact hhome.step hP.1 hop.1 hop.2
  refine ⟨hinv.1.isolated, hinv.1.same, fun m d hmem => ?_⟩
  obtain ⟨m', hhome⟩ := hinv.2 m d hmem
  exact ⟨m', hhome.1⟩

def sharedLink : LinkRow where
  id := 20
  sourceDeviceID := 10
  sourceIfName := ""
  targetDeviceID := 11
  targetIfName := "eth0"

/-- Two maps share the virtual device 10; the first has its link to a switch. -/
def sharedDB : CanvasDB
  | .devices => ofList [(10, { id := 10, deviceType := .virtual }),
      (11, { id := 11, deviceType := .switch })]
  | .deviceAddresses => ∅
  | .links => ofList [(20, sharedLink)]
  | .mapDevices => ofList [((1, 10), {}), ((1, 11), {}), ((2, 10), {})]
  | .mapDeviceAreas => ∅
  | .mapPositions => ∅
  | .mapLinks => ofList [((1, 20), 0)]
  | .mapLinkRoutes => ∅

theorem sharedDB_referential : Referential sharedDB where
  deviceAddresses := nofun
  endpoints := by
    intro id row h
    obtain ⟨rfl, rfl⟩ := Prod.mk.inj (mem_singleton.1 (mem_of_get_ofList h))
    exact ⟨by decide +kernel, by decide +kernel⟩
  mapDevices := by
    intro m d h
    obtain ⟨row, hrow⟩ := mem_dom_iff_exists.1 h
    have hmem := mem_of_get_ofList hrow
    simp only [mem_cons, Prod.mk.injEq, not_mem_nil, or_false] at hmem
    rcases hmem with ⟨⟨-, rfl⟩, -⟩ | ⟨⟨-, rfl⟩, -⟩ | ⟨⟨-, rfl⟩, -⟩ <;> decide +kernel
  mapDeviceAreas := nofun
  mapPositions := nofun
  mapLinks := by
    intro m l h
    obtain ⟨row, hrow⟩ := mem_dom_iff_exists.1 h
    obtain ⟨heq, -⟩ := Prod.mk.inj (mem_singleton.1 (mem_of_get_ofList hrow))
    obtain ⟨-, rfl⟩ := Prod.mk.inj heq
    decide +kernel
  mapLinkRoutes := nofun

/-- The statements of a transaction on one shared device without changed links. -/
def isolateOne (t : Nat) (newID : UUID) : List Op :=
  [.select t [(10, newID)]] ++ List.replicate 6 (.exec t)

/-- The isolation of the first map. -/
def isolateFirst : List Op :=
  [.lock 0 1 5] ++ isolateOne 0 100 ++ [.selectLinks 0 [(20, 200)], .exec 0, .exec 0, .exec 0, .commit 0]

theorem isolation_keeps_maps_isolateFirst :
    Referential sharedDB ∧
      Run (· = ({ db := sharedDB } : IsolationSystem)) (ActStep step Careful)
        (isolateFirst.foldl step { db := sharedDB }) isolateFirst ∧
      (∃ m, (m, 10) ∈ ((isolateFirst.foldl step { db := sharedDB }).db .mapDevices).dom) ∧
      ∃ ρ l, SameMap sharedDB (isolateFirst.foldl step { db := sharedDB }).db 1 ρ l := by
  have hrun : Run (· = ({ db := sharedDB } : IsolationSystem)) (ActStep step Careful)
      (isolateFirst.foldl step { db := sharedDB }) isolateFirst := .of_ops (by decide +kernel)
  obtain ⟨-, hsame, hhome⟩ := isolation_keeps_maps sharedDB_referential hrun
  exact ⟨sharedDB_referential, hrun, hhome 1 10 (by decide +kernel), hsame 1⟩

/-- Both maps are isolated at the same time. -/
def isolateBoth : List Op :=
  [.lock 0 1 5, .lock 1 2 5] ++ isolateOne 0 100 ++ isolateOne 1 101 ++
    [.selectLinks 0 [(20, 200)], .exec 0, .exec 0, .exec 0, .selectLinks 1 [], .commit 0, .commit 1]

/-- Two transactions on the maps that share the device both find it shared and both take it off
their map: it is on no map any more. -/
theorem shared_device_lost :
    Referential sharedDB ∧
      Run (· = ({ db := sharedDB } : IsolationSystem)) (ActStep step fun sys op => op.Valid sys)
        (isolateBoth.foldl step { db := sharedDB }) isolateBoth ∧
      (1, 10) ∈ (sharedDB .mapDevices).dom ∧
      ((isolateBoth.foldl step { db := sharedDB }).db .mapDevices).any
        (fun key _ => decide (key.2 = 10)) = false ∧
      (isolateBoth.foldl step { db := sharedDB }).txns.isEmpty = true := by
  refine ⟨sharedDB_referential, .of_ops ?_, ?_, ?_, ?_⟩ <;> decide +kernel

end IsolationSystem

end Theia
