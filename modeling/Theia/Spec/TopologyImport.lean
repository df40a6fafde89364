import Theia.Native.TopologyImport
import Theia.Spec.CandidateLinks
import Theia.Spec.DiscoveryLinks

/-!
# Resolving observations at an import

The identity of an unresolved observation goes through the same normalization as the names and the
address of a device, which keeps only the part before the first dot. For names that drops the
domain; of a dotted address it leaves the first octet, so an address can be taken for another one.
-/

namespace Theia

open List LinkStore

/-! ### Identities -/

section Identity

variable (lower : Char → Char)

/-- The device is listed under the normal form of the identity. -/
def HasIdentity (identity : String) (device : DeviceRow) : Prop :=
  normalizeRemoteIdentity lower identity ≠ "" ∧
    normalizeRemoteIdentity lower identity ∈
      [device.sysName, device.hostname, device.ip].map (normalizeRemoteIdentity lower)

/-- The identity is a name of the device, up to case, blanks and the domain. -/
def HasName (identity : String) (device : DeviceRow) : Prop :=
  normalizeRemoteIdentity lower identity ≠ "" ∧
    normalizeRemoteIdentity lower identity ∈
      [device.sysName, device.hostname].map (normalizeRemoteIdentity lower)

/-- Both texts are addresses, and they are the same one. -/
def SameAddress (a b : String) : Prop :=
  (parseAddr (trimSpace a)).isSome ∧ parseAddr (trimSpace a) = parseAddr (trimSpace b)

/-- The identity names the device: it is one of its names or its address. -/
def Names (identity : String) (device : DeviceRow) : Prop :=
  HasName lower identity device ∨ SameAddress identity device.ip

/-- The identity names the device and no other one of the scope. -/
def NamesOnly (devices : List DeviceRow) (identity : String) (deviceID : UUID) : Prop :=
  (∃ device ∈ devices, device.id = deviceID ∧ Names lower identity device) ∧
    ∀ other ∈ devices, other.id ≠ deviceID → ¬ Names lower identity other

/-- The only device of the scope with the normal form of the identity. -/
def SoleIdentity (devices : List DeviceRow) (identity : String) (device : DeviceRow) : Prop :=
  HasIdentity lower identity device ∧
    ∀ other ∈ devices, HasIdentity lower identity other → other.id = device.id

/-- The normal form does not mislead: if there is only one device with it, then that device has
the identity as a name or has the whole address, which no other device has in another spelling. -/
def NotMisleading (devices : List DeviceRow) (observation : Observation) : Prop :=
  ∀ device ∈ devices, SoleIdentity lower devices observation.remoteIdentity device →
    device.id ≠ observation.localDeviceID →
    (HasName lower observation.remoteIdentity device ∨
      SameAddress observation.remoteIdentity device.ip) ∧
    ∀ other ∈ devices, other.id ≠ device.id → ¬ SameAddress observation.remoteIdentity other.ip

instance (identity : String) (device : DeviceRow) : Decidable (HasIdentity lower identity device) :=
  inferInstanceAs (Decidable (_ ∧ _))

instance (identity : String) (device : DeviceRow) : Decidable (HasName lower identity device) :=
  inferInstanceAs (Decidable (_ ∧ _))

instance (a b : String) : Decidable (SameAddress a b) := inferInstanceAs (Decidable (_ ∧ _))

instance (identity : String) (device : DeviceRow) : Decidable (Names lower identity device) :=
  inferInstanceAs (Decidable (_ ∨ _))

instance (devices : List DeviceRow) (identity : String) (device : DeviceRow) :
    Decidable (SoleIdentity lower devices identity device) := inferInstanceAs (Decidable (_ ∧ _))

instance (devices : List DeviceRow) (observation : Observation) :
    Decidable (NotMisleading lower devices observation) := by
  unfold NotMisleading
  infer_instance

variable {lower} {devices : List DeviceRow} {identity : String} {device : DeviceRow}
  {deviceID : UUID} {o : Observation}

theorem HasName.hasIdentity (h : HasName lower identity device) :
    HasIdentity lower identity device := by
  obtain ⟨hne, hmem⟩ := h
  refine ⟨hne, ?_⟩
  simp only [map_cons, map_nil, mem_cons, not_mem_nil, or_false] at hmem ⊢
  exact hmem.elim .inl fun hhost => .inr (.inl hhost)

theorem mem_deviceClaims :
    (normalizeRemoteIdentity lower identity, deviceID) ∈ devices.flatMap (deviceClaims lower) ↔
      ∃ device ∈ devices, device.id = deviceID ∧ HasIdentity lower identity device := by
  simp only [mem_flatMap, deviceClaims, HasIdentity, mem_map, mem_filter,
    Prod.mk.injEq, decide_eq_true_eq]
  constructor
  · rintro ⟨device, hdevice, normalized, ⟨hclaim, hne⟩, rfl, hid⟩
    exact ⟨device, hdevice, hid, hne, hclaim⟩
  · rintro ⟨device, hdevice, hid, hne, hclaim⟩
    exact ⟨device, hdevice, _, ⟨hclaim, hne⟩, rfl, hid⟩

/-- An observation is resolved to the only device with its normal form. -/
theorem resolveRemote_eq_some_iff :
    resolveRemote lower devices o = some deviceID ↔
      (∃ device ∈ devices, device.id = deviceID ∧
        SoleIdentity lower devices o.remoteIdentity device) ∧ deviceID ≠ o.localDeviceID := by
  unfold resolveRemote scopeIdentities
  rw [Option.filter_eq_some_iff, SoleClaims.get_addAll]
  simp only [mem_deviceClaims, decide_eq_true_eq]
  constructor
  · rintro ⟨⟨⟨device, hdevice, hid, hhas⟩, hall⟩, hne⟩
    refine ⟨⟨device, hdevice, hid, hhas, ?_⟩, hne⟩
    intro other hother hotherHas
    exact (hall other.id ⟨other, hother, rfl, hotherHas⟩).trans hid.symm
  · rintro ⟨⟨device, hdevice, hid, hhas, hsole⟩, hne⟩
    refine ⟨⟨⟨device, hdevice, hid, hhas⟩, ?_⟩, hne⟩
    rintro otherID ⟨other, hother, rfl, hotherHas⟩
    exact (hsole other hother hotherHas).trans hid

theorem resolveRemote_namesOnly_iff (hids : (devices.map (·.id)).Nodup) :
    (∀ deviceID, resolveRemote lower devices o = some deviceID →
        NamesOnly lower devices o.remoteIdentity deviceID) ↔ NotMisleading lower devices o := by
  constructor
  · intro h device hdevice hsole hne
    have hresolve : resolveRemote lower devices o = some device.id :=
      resolveRemote_eq_some_iff.2 ⟨⟨device, hdevice, rfl, hsole⟩, hne⟩
    obtain ⟨⟨named, hnamed, hid, hnames⟩, hothers⟩ := h device.id hresolve
    have heq : named = device := inj_on_of_nodup_map hids hnamed hdevice hid
    rw [heq] at hnames
    refine ⟨hnames, ?_⟩
    intro other hother hotherID haddr
    exact hothers other hother hotherID (.inr haddr)
  · intro h deviceID hresolve
    obtain ⟨⟨device, hdevice, rfl, hsole⟩, hne⟩ := resolveRemote_eq_some_iff.1 hresolve
    obtain ⟨hnames, hothers⟩ := h device hdevice hsole hne
    refine ⟨⟨device, hdevice, rfl, hnames⟩, ?_⟩
    intro other hother hotherID hotherNames
    rcases hotherNames with hname | haddr
    · -- a second device with the name would have made the identity ambiguous
      exact hotherID (hsole.2 other hother hname.hasIdentity)
    · exact hothers other hother hotherID haddr

end Identity

/-! ### The observation table -/

section Stored

variable {table current : List Observation} {o x : Observation}

theorem mem_upsertObservation_iff :
    o ∈ upsertObservation table x ↔ o = x ∨ o ∈ table ∧ o.key ≠ x.key := by
  -- the key and the three written columns are all of an observation
  have hmerge : ∀ stored : Observation, stored.key = x.key →
      { stored with
        remoteDeviceID := x.remoteDeviceID
        selfNeighbor := x.selfNeighbor
        lastObservedAt := x.lastObservedAt } = x := by
    intro stored hkey
    simp only [Observation.key, Prod.mk.injEq] at hkey
    simp_all
  unfold upsertObservation
  split_ifs with hstored
  · rw [mem_map]
    constructor
    · rintro ⟨stored, hmem, rfl⟩
      split_ifs with hkey
      · exact .inl (hmerge stored hkey)
      · exact .inr ⟨hmem, hkey⟩
    · rintro (rfl | ⟨hmem, hkey⟩)
      · obtain ⟨stored, hmem, hkey⟩ := mem_map.1 hstored
        exact ⟨stored, hmem, by rw [if_pos hkey, hmerge stored hkey]⟩
      · exact ⟨o, hmem, if_neg hkey⟩
  · rw [mem_append, mem_singleton]
    constructor
    · rintro (hmem | rfl)
      · exact .inr ⟨hmem, fun hkey => hstored (mem_map.2 ⟨o, hmem, hkey⟩)⟩
      · exact .inl rfl
    · rintro (rfl | ⟨hmem, -⟩)
      · exact .inr rfl
      · exact .inl hmem

theorem mem_upsertObservations_iff (hkeys : (current.map (·.key)).Nodup) :
    o ∈ current.foldl upsertObservation table ↔
      o ∈ current ∨ o ∈ table ∧ o.key ∉ current.map (·.key) := by
  induction current generalizing table with
  | nil => simp
  | cons x rest ih =>
    rw [map_cons, nodup_cons] at hkeys
    rw [foldl_cons, ih hkeys.2, mem_upsertObservation_iff]
    simp only [mem_cons, map_cons, not_or]
    constructor
    · rintro (hrest | ⟨rfl | ⟨hmem, hkey⟩, hnot⟩)
      · exact .inl (.inr hrest)
      · exact .inl (.inl rfl)
      · exact .inr ⟨hmem, hkey, hnot⟩
    · rintro ((rfl | hrest) | ⟨hmem, hkey, hnot⟩)
      · exact .inr ⟨.inl rfl, hkeys.1⟩
      · exact .inl hrest
      · exact .inr ⟨.inr ⟨hmem, hkey⟩, hnot⟩

end Stored

section Resolved

variable {lower fold : Char → Char} {maps : CanvasMaps} {deviceTable devices : List DeviceRow}
  {tables : TopologyTables} {input : ImportInput} {now : Time} {stamps : Nat → Stamp}
  {imported : List UUID} {observations : List Observation} {o o' : Observation}

theorem resolveObservation_key (h : resolveObservation lower devices now o = some o') :
    o'.key = o.key := by
  unfold resolveObservation at h
  split at h
  · obtain ⟨remoteID, -, rfl⟩ := Option.map_eq_some_iff.1 h
    rfl
  · cases h
    rfl

theorem mem_resolvedObservations :
    o' ∈ resolvedObservations lower devices imported observations now ↔
      ∃ o ∈ observations, o.localDeviceID ∈ imported ∧ o.remoteDeviceID = UUID.nil ∧
        resolveObservation lower devices now o = some o' := by
  simp [resolvedObservations, mem_filterMap, mem_filter, decide_eq_true_eq, and_assoc]

theorem resolvedObservations_keys (hkeys : (observations.map (·.key)).Nodup) :
    ((resolvedObservations lower devices imported observations now).map (·.key)).Nodup := by
  rw [List.Nodup, pairwise_map] at hkeys ⊢
  refine pairwise_filterMap.2 ((hkeys.filter _).imp ?_)
  intro a b hne a' ha b' hb heq
  apply hne
  rw [← resolveObservation_key ha, ← resolveObservation_key hb, heq]

theorem mem_importedIDs {id : UUID} :
    id ∈ importedIDs devices input ↔ id ∈ input.importedDeviceIDs ∧ id ∈ devices.map (·.id) := by
  unfold importedIDs
  rw [(sortSliceBy_perm _ _).mem_iff]
  simp

/-- The devices of the destination map. -/
abbrev ImportInput.scope (input : ImportInput) (deviceTable : List DeviceRow) : List DeviceRow :=
  topologyDevicesByIDs deviceTable input.scopeDeviceIDs

variable (lower fold maps deviceTable tables input now stamps)

/-- A reconciliation resolves the unresolved observation to the device. -/
def ResolvedTo (o : Observation) (deviceID : UUID) : Prop :=
  o ∈ tables.observations ∧ o.remoteDeviceID = UUID.nil ∧ deviceID ≠ UUID.nil ∧
    ∃ stored ∈ (reconcileStoredTopologyForImport lower fold maps deviceTable tables input now
      stamps).1.observations, stored.key = o.key ∧ stored.remoteDeviceID = deviceID

theorem reconcile_observations :
    (reconcileStoredTopologyForImport lower fold maps deviceTable tables input now
        stamps).1.observations =
      (resolvedObservations lower (input.scope deviceTable)
        (importedIDs (input.scope deviceTable) input)
        (listObservationsForDevices tables.observations input.importedDeviceIDs) now).foldl
          upsertObservation tables.observations := by
  unfold reconcileStoredTopologyForImport
  dsimp only
  split_ifs with hempty
  · rw [hempty]
    simp [resolvedObservations]
  · split
    · rfl
    · split <;> rfl

variable {lower fold maps deviceTable tables input now stamps}

/-- The stored observations that are resolved, and to what. -/
theorem resolvedTo_iff (hkeys : (tables.observations.map (·.key)).Nodup)
    (hids : ∀ device ∈ deviceTable, device.id ≠ UUID.nil) {deviceID : UUID} :
    ResolvedTo lower fold maps deviceTable tables input now stamps o deviceID ↔
      o ∈ tables.observations ∧ o.remoteDeviceID = UUID.nil ∧
        o.localDeviceID ∈ importedIDs (input.scope deviceTable) input ∧
        resolveRemote lower (input.scope deviceTable) o = some deviceID := by
  have hlisted : ((listObservationsForDevices tables.observations
      input.importedDeviceIDs).map (·.key)).Nodup := hkeys.sublist (filter_sublist.map _)
  unfold ResolvedTo
  rw [reconcile_observations]
  simp only [mem_upsertObservations_iff (resolvedObservations_keys hlisted),
    mem_resolvedObservations]
  constructor
  · rintro ⟨ho, hnil, hne, stored, hstored, hkey, hremote⟩
    refine ⟨ho, hnil, ?_⟩
    rcases hstored with ⟨p, hp, himported, hpnil, hresolve⟩ | ⟨hstored, -⟩
    · have hpo : p = o := inj_on_of_nodup_map hkeys (mem_filter.1 hp).1 ho
        ((resolveObservation_key hresolve).symm.trans hkey)
      rw [hpo] at himported hresolve
      refine ⟨himported, ?_⟩
      rw [resolveObservation, if_pos hnil] at hresolve
      obtain ⟨remoteID, hremoteID, rfl⟩ := Option.map_eq_some_iff.1 hresolve
      rw [hremoteID, ← hremote]
    · -- the stored observation is the unresolved one
      have heq : stored = o := inj_on_of_nodup_map hkeys hstored ho hkey
      rw [heq, hnil] at hremote
      exact absurd hremote.symm hne
  · rintro ⟨ho, hnil, himported, hresolve⟩
    obtain ⟨⟨device, hdevice, hid, -⟩, -⟩ := resolveRemote_eq_some_iff.1 hresolve
    refine ⟨ho, hnil, ?_, ?_⟩
    · rw [← hid]
      exact hids device (mem_filter.1 hdevice).1
    refine ⟨{ o with
      remoteDeviceID := deviceID
      selfNeighbor := false
      lastObservedAt := now }, .inl ⟨o, ?_, himported, hnil, ?_⟩, rfl, rfl⟩
    · refine mem_filter.2 ⟨ho, decide_eq_true (.inl (mem_importedIDs.1 himported).1)⟩
    · rw [resolveObservation, if_pos hnil, hresolve]
      rfl

end Resolved

/-! ### The links -/

/-- The link is between the two devices, in either direction. -/
def LinkRow.Joins (row : LinkRow) (a b : UUID) : Prop :=
  row.sourceDeviceID = a ∧ row.targetDeviceID = b ∨ row.sourceDeviceID = b ∧ row.targetDeviceID = a

section Links

variable {lower fold : Char → Char} {maps : CanvasMaps} {store : LinkStore} {row link : LinkRow}

theorem AlongCalls.of_mem {ok : LinkRow → Prop} (store : LinkStore)
    {calls : List (LinkRow × Stamp)} (h : ∀ call ∈ calls, ok call.1) :
    AlongCalls lower maps (fun _ link => ok link) store calls := by
  induction calls generalizing store with
  | nil => exact True.intro
  | cons call rest ih =>
    refine ⟨h call mem_cons_self, ?_⟩
    intro upserted _
    exact ih upserted.store fun call hcall => h call (mem_cons_of_mem _ hcall)

theorem KeepsPorts.joins {old new : LinkRow} {a b : UUID} (h : LinkStore.KeepsPorts lower old new)
    (hjoins : old.Joins a b) : new.Joins a b := by
  unfold LinkRow.Joins at hjoins ⊢
  rcases h with ⟨hsource, htarget, -⟩ | ⟨hsource, htarget, -⟩
  · rw [hsource, htarget]
    exact hjoins
  · rw [hsource, htarget]
    exact hjoins.elim (fun h => .inr h.symm) fun h => .inl h.symm

theorem placement_joins (h : store.WellKeyed) {p : LinkStore.Placement}
    (hp : placement lower store link = some p) :
    p.replaced.Joins link.sourceDeviceID link.targetDeviceID := by
  apply KeepsPorts.joins (placement_keepsPorts h hp)
  rcases placement_eq_some hp with ⟨hsame, -⟩ | ⟨-, hrev, -⟩
  · obtain ⟨_, -, hsource, htarget, -⟩ := (sameDirection_eq_some_iff h).1 hsame
    exact .inl ⟨hsource, htarget⟩
  · obtain ⟨_, -, hsource, htarget, -⟩ := (reverse_eq_some_iff h).1 hrev
    exact .inr ⟨hsource, htarget⟩

theorem upserted_joins (h : store.WellKeyed) {newID : UUID} {now : Time} {upserted : Upserted}
    (hok : store.upsertDetailed lower maps link newID now = .ok upserted)
    (hrow : row ∈ upserted.store.links) :
    row ∈ store.links ∨ row.Joins link.sourceDeviceID link.targetDeviceID := by
  rcases upsertDetailed_ok h hok with ⟨p, kind, hp, rfl⟩ | ⟨-, -, rfl⟩
  · rcases mem_putRow hrow with rfl | ⟨hold, -⟩
    · have hjoins := placement_joins h hp
      exact .inr hjoins
    · exact .inl hold
  · rcases mem_append.1 hrow with hold | hnew
    · exact .inl hold
    · rw [mem_singleton.1 hnew]
      exact .inr (.inl ⟨rfl, rfl⟩)

/-- The rows after `ApplyObservations`, also when it fails. -/
theorem applyObservations_joins (h : store.WellKeyed) {observations : List Observation}
    {stamps : Nat → Stamp}
    (hrow : row ∈ (applyObservations lower maps store observations stamps).1.links) :
    row ∈ store.links ∨ ∃ o ∈ observations, row.Joins o.localDeviceID o.remoteDeviceID := by
  have hcalls : AlongCalls lower maps
      (fun _ link => ∃ o ∈ observations, link = o.link) store
      (candidateCalls observations stamps) := by
    apply AlongCalls.of_mem store
    intro call hcall
    obtain ⟨o, ho, hcandidate⟩ := mem_candidateLinks (mem_candidateCalls hcall)
    unfold Observation.candidate? at hcandidate
    split at hcandidate
    · cases hcandidate
    · exact ⟨o, ho, (Option.some.inj hcandidate).symm⟩
  have hinv := applyLinks_invariant (P := fun current => current.WellKeyed ∧
      ∀ row ∈ current.links, row ∈ store.links ∨
        ∃ o ∈ observations, row.Joins o.localDeviceID o.remoteDeviceID)
    {} ⟨h, fun row hrow => .inl hrow⟩ hcalls ?_
  · exact hinv.2 row hrow
  intro current link stamp upserted hcurrent hlink hok
  refine ⟨hcurrent.1.upserted hok, ?_⟩
  intro row hrow
  rcases upserted_joins hcurrent.1 hok hrow with hold | hjoins
  · exact hcurrent.2 row hold
  · obtain ⟨o, ho, rfl⟩ := hlink
    exact .inr ⟨o, ho, hjoins⟩

theorem importCleanup_sublist (lower fold : Char → Char) (devices : List DeviceRow) (observations : List Observation)
    (events : List ApplyEvent) (links : LinkStore) (changed : Bool) (imported : List UUID) :
    (importCleanup lower fold devices observations events links changed imported).1.links.Sublist
      links.links := by
  induction imported generalizing links changed with
  | nil => exact List.Sublist.refl _
  | cons deviceID rest ih =>
    have hdeleted := deleteLinks_sublist links 0 ((links.getByDeviceID deviceID).filter
      (isStaleLink lower fold deviceID (pruneSafeNeighborDiscoveryProtocols [.lldp, .cdp]
        (cleanupObservations lower devices observations deviceID)) events
        (cleanupObservations lower devices observations deviceID)))
    unfold importCleanup
    dsimp only
    split
    · rename_i heq
      unfold deleteStaleAutoDiscoveredLinks at heq
      rw [heq] at hdeleted
      exact hdeleted
    · rename_i heq
      unfold deleteStaleAutoDiscoveredLinks at heq
      rw [heq] at hdeleted
      exact (ih _ _).trans hdeleted

variable {deviceTable : List DeviceRow} {tables : TopologyTables} {input : ImportInput}
  {now : Time} {stamps : Nat → Stamp}

/-- An observation whose link is written is stored, its local device is imported and its remote
device is in the scope. -/
theorem mem_importObservations {devices : List DeviceRow} {imported : List UUID}
    {observations : List Observation} {o : Observation}
    (h : o ∈ importObservations lower devices imported observations now) :
    (∃ stored ∈ observations, stored.key = o.key) ∧ o.localDeviceID ∈ imported ∧
      o.remoteDeviceID ∈ devices.map (·.id) := by
  obtain ⟨hresolved, hremote⟩ := mem_filter.1 h
  obtain ⟨stored, hstored, hresolve⟩ := mem_filterMap.1 hresolved
  obtain ⟨hlisted, himported⟩ := mem_filter.1 hstored
  have hkey := resolveObservation_key hresolve
  have hlocal : o.localDeviceID = stored.localDeviceID := congrArg Prod.fst hkey
  refine ⟨⟨stored, hlisted, hkey.symm⟩, ?_, of_decide_eq_true hremote⟩
  rw [hlocal]
  exact of_decide_eq_true himported

/-- A link of a reconciliation that is not as it was before: between an imported device, which has
observed it, and a device of the scope. -/
theorem reconcile_joins (hkeyed : tables.links.WellKeyed)
    (hrow : row ∈ (reconcileStoredTopologyForImport lower fold maps deviceTable tables input now
      stamps).1.links.links) :
    row ∈ tables.links.links ∨ ∃ o ∈ tables.observations,
      o.localDeviceID ∈ importedIDs (input.scope deviceTable) input ∧
      ∃ remoteID ∈ (input.scope deviceTable).map (·.id), row.Joins o.localDeviceID remoteID := by
  -- every outcome keeps only rows of `importLinks`
  have hwritten : row ∈ tables.links.links ∨
      row ∈ (importLinks lower maps (input.scope deviceTable)
        (importedIDs (input.scope deviceTable) input) tables
        (listObservationsForDevices tables.observations input.importedDeviceIDs) now
        stamps).1.links := by
    unfold reconcileStoredTopologyForImport at hrow
    dsimp only at hrow
    split at hrow
    · exact .inl hrow
    right
    split at hrow
    · rename_i heq
      rw [heq]
      exact hrow
    · rename_i links applied heq
      rw [heq]
      have hsub := importCleanup_sublist lower fold (input.scope deviceTable)
        (listObservationsForDevices tables.observations input.importedDeviceIDs) applied.events
        links applied.topologyChanged (importedIDs (input.scope deviceTable) input)
      split at hrow
      · rename_i hcleanup
        rw [hcleanup] at hsub
        exact hsub.subset hrow
      · rename_i hcleanup
        rw [hcleanup] at hsub
        exact hsub.subset hrow
  rcases hwritten with hold | hwritten
  · exact .inl hold
  rcases applyObservations_joins hkeyed hwritten with hold | ⟨o, ho, hjoins⟩
  · exact .inl hold
  right
  obtain ⟨⟨stored, hstored, hkey⟩, himported, hremote⟩ :=
    mem_importObservations (mem_filter.1 ho).1
  have hlocal : stored.localDeviceID = o.localDeviceID := congrArg Prod.fst hkey
  rw [← hlocal] at himported hjoins
  exact ⟨stored, (mem_filter.1 hstored).1, himported, o.remoteDeviceID, hremote, hjoins⟩

end Links

/-! ### Imports -/

/-- What the database keeps about the tables of an import: primary keys, and the unique keys of
links and observations. -/
structure ImportTables (deviceTable : List DeviceRow) (tables : TopologyTables) : Prop where
  deviceIDs : (deviceTable.map (·.id)).Nodup
  deviceIDs_ne_nil : ∀ device ∈ deviceTable, device.id ≠ UUID.nil
  observations : (tables.observations.map (·.key)).Nodup
  links : tables.links.WellKeyed

/-- Two devices of a map. -/
def importDevices : List DeviceRow :=
  [{ id := 1, hostname := "edge", ip := "192.0.2.1" },
    { id := 2, hostname := "core", ip := "10.0.0.1" }]

/-- The edge has observed a neighbour that is not resolved. -/
def observedAs (identity : String) : Observation where
  localDeviceID := 1
  remoteIdentity := identity
  localPort := "ge1"

def observedTables (identity : String) : TopologyTables where
  links := { devices := { 1, 2 } }
  observations := [observedAs identity]

def edgeImport : ImportInput := ⟨[1, 2], [1]⟩

theorem importTables_observed (identity : String) :
    ImportTables importDevices (observedTables identity) := by
  refine ⟨by decide, by decide, ?_, ?_, ?_⟩
  · exact nodup_singleton _
  · exact nodup_nil
  · exact nodup_nil

theorem resolvedTo_observedAs {identity : String} {deviceID : UUID}
    (h : resolveRemote Char.toLower importDevices (observedAs identity) = some deviceID) :
    ResolvedTo Char.toLower id {} importDevices (observedTables identity) edgeImport 5
      reportStamps (observedAs identity) deviceID := by
  have htables := importTables_observed identity
  refine (resolvedTo_iff htables.observations htables.deviceIDs_ne_nil).2 ⟨?_, rfl, ?_, h⟩
  · exact mem_singleton_self _
  · have himported : (1 : UUID) ∈ edgeImport.importedDeviceIDs ∧
        1 ∈ (edgeImport.scope importDevices).map (·.id) := by decide
    exact mem_importedIDs.2 himported

end Theia
