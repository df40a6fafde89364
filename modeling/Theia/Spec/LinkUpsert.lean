import Theia.ForStd.Run
import Theia.Native.LinkRepo

/-!
# Upserts respect the link table

An upsert either replaces one row or adds one. Which row it replaces, and by what, is `placement`;
the checks of the database then never fail on the keys of the link table.
-/

namespace Theia

open List

variable {existing incoming : String} {a b : LinkRow} {p : Placement} {newID : UUID} {now : Time}
  {maps : CanvasMaps} {n : Nat} {name newSrcIf newTgtIf : String} {kind : LinkUpsertKind}

/-! ### Scores -/

namespace LinkStore

@[simp]
theorem sameDirectionInterfaceScore_self (name : String) :
    sameDirectionInterfaceScore name name = some (if name = "" then 1 else 3) := by
  unfold sameDirectionInterfaceScore
  rw [if_pos rfl]
  split <;> rfl

theorem sameDirectionInterfaceScore_of_ne (hne : existing ≠ incoming)
    (h : sameDirectionInterfaceScore existing incoming = some n) : n = 0 := by
  simp only [sameDirectionInterfaceScore, if_neg hne] at h
  split at h
  · exact (Option.some.inj h).symm
  · cases h

theorem fillName_cases (existing incoming : String) :
    fillName existing incoming = existing ∨
      existing = "" ∧ incoming ≠ "" ∧ fillName existing incoming = incoming := by
  unfold fillName
  split_ifs with h
  · exact .inr ⟨h.1, h.2, rfl⟩
  · exact .inl rfl

theorem sameDirectionInterfaceScore_fillName
    (h : sameDirectionInterfaceScore existing incoming = some n) :
    ∃ m, sameDirectionInterfaceScore (fillName existing incoming) incoming = some m ∧ n ≤ m := by
  rcases fillName_cases existing incoming with heq | ⟨hblank, hnamed, heq⟩
  · exact ⟨n, by rw [heq, h], le_rfl⟩
  · have hne : existing ≠ incoming := by
      rw [hblank]
      exact hnamed.symm
    rw [heq, sameDirectionInterfaceScore_self]
    exact ⟨_, rfl, by simp [sameDirectionInterfaceScore_of_ne hne h]⟩

variable {lower : Char → Char}

@[simp]
theorem compatibleInterfaceScore_self (hne : name ≠ "") :
    compatibleInterfaceScore lower name name = some 3 := by
  simp [compatibleInterfaceScore, hne]

@[simp]
theorem compatibleInterfaceScore_blank (incoming : String) :
    compatibleInterfaceScore lower "" incoming = some 0 := by
  simp [compatibleInterfaceScore]

theorem compatibleInterfaceScore_fillName
    (h : compatibleInterfaceScore lower existing incoming = some n) :
    ∃ m, compatibleInterfaceScore lower (fillName existing incoming) incoming = some m ∧ n ≤ m := by
  rcases fillName_cases existing incoming with heq | ⟨hblank, hnamed, heq⟩
  · exact ⟨n, by rw [heq, h], le_rfl⟩
  · rw [hblank, compatibleInterfaceScore_blank] at h
    rw [heq, compatibleInterfaceScore_self hnamed]
    exact ⟨3, rfl, by simp [← Option.some.inj h]⟩

theorem bind_score_eq_some {a b : Option Nat} : (a.bind fun s => b.map (s + ·)) = some n ↔
      ∃ s t, a = some s ∧ b = some t ∧ s + t = n := by
  simp only [Option.bind_eq_some_iff, Option.map_eq_some_iff]
  constructor
  · rintro ⟨s, hs, t, ht, hn⟩
    exact ⟨s, t, hs, ht, hn⟩
  · rintro ⟨s, t, hs, ht, hn⟩
    exact ⟨s, hs, t, ht, hn⟩

/-- If filling a name in does not lower its score, it does not lower the score of both names. -/
theorem score_filled {score : String → String → Option Nat} {a b c d : String}
    (hfill : ∀ {existing incoming n}, score existing incoming = some n →
      ∃ m, score (fillName existing incoming) incoming = some m ∧ n ≤ m)
    (h : ((score a b).bind fun s => (score c d).map (s + ·)) = some n) :
    ∃ m, ((score (fillName a b) b).bind fun s => (score (fillName c d) d).map (s + ·)) = some m ∧
      n ≤ m := by
  obtain ⟨s, t, hs, ht, rfl⟩ := bind_score_eq_some.1 h
  obtain ⟨s', hs', hles⟩ := hfill hs
  obtain ⟨t', ht', hlet⟩ := hfill ht
  exact ⟨s' + t', bind_score_eq_some.2 ⟨s', t', hs', ht', rfl⟩, by omega⟩

section

variable {link row matched : LinkRow}

theorem sameDirectionScore_filled (h : sameDirectionScore link matched = some n)
    (hsrc : row.sourceIfName = fillName matched.sourceIfName link.sourceIfName)
    (htgt : row.targetIfName = fillName matched.targetIfName link.targetIfName) :
    ∃ m, sameDirectionScore link row = some m ∧ n ≤ m := by
  unfold sameDirectionScore
  rw [hsrc, htgt]
  exact score_filled sameDirectionInterfaceScore_fillName h

theorem reverseScore_filled (h : reverseScore lower link matched = some n)
    (hsrc : row.sourceIfName = fillName matched.sourceIfName link.targetIfName)
    (htgt : row.targetIfName = fillName matched.targetIfName link.sourceIfName) :
    ∃ m, reverseScore lower link row = some m ∧ n ≤ m := by
  unfold reverseScore
  rw [hsrc, htgt]
  exact score_filled compatibleInterfaceScore_fillName h

end

theorem sameDirectionInterfaceScore_le
    (h : sameDirectionInterfaceScore existing incoming = some n) :
    n ≤ if incoming = "" then 1 else 3 := by
  by_cases heq : existing = incoming
  · subst heq
    rw [sameDirectionInterfaceScore_self] at h
    exact (Option.some.inj h).ge
  · rw [sameDirectionInterfaceScore_of_ne heq h]
    exact Nat.zero_le _

theorem sameDirectionScore_exact {link exact other : LinkRow}
    (hsrc : exact.sourceIfName = link.sourceIfName)
    (htgt : exact.targetIfName = link.targetIfName)
    (hother : other.sourceIfName ≠ link.sourceIfName ∨ other.targetIfName ≠ link.targetIfName) :
    ∃ n, sameDirectionScore link exact = some n ∧
      ∀ m, sameDirectionScore link other = some m → m < n := by
  unfold sameDirectionScore
  rw [hsrc, htgt, sameDirectionInterfaceScore_self, sameDirectionInterfaceScore_self]
  refine ⟨_, rfl, ?_⟩
  intro m hm
  obtain ⟨s, t, hs, ht, rfl⟩ := bind_score_eq_some.1 hm
  have hpos : ∀ name : String, 0 < (if name = "" then 1 else 3) := by
    intro name
    split <;> decide
  have hsPos := hpos link.sourceIfName
  have htPos := hpos link.targetIfName
  have hsLe := sameDirectionInterfaceScore_le hs
  have htLe := sameDirectionInterfaceScore_le ht
  dsimp only
  rcases hother with hne | hne
  · have := sameDirectionInterfaceScore_of_ne hne hs
    omega
  · have := sameDirectionInterfaceScore_of_ne hne ht
    omega

/-! ### Searching a table -/

/-- The keys of the link table: `PRIMARY KEY` and `UNIQUE`. -/
structure WellKeyed (store : LinkStore) : Prop where
  ids : (store.links.map (·.id)).Nodup
  endpoints : (store.links.map (·.endpoints)).Nodup

variable {store : LinkStore} {link row matched : LinkRow}

namespace WellKeyed

theorem links_nodup (h : store.WellKeyed) : store.links.Nodup := h.ids.of_map _

section

variable (h : store.WellKeyed) (ha : a ∈ store.links) (hb : b ∈ store.links)
include h ha hb

theorem eq_of_id (heq : a.id = b.id) : a = b :=
  inj_on_of_nodup_map h.ids ha hb heq

theorem eq_of_endpoints (heq : a.endpoints = b.endpoints) : a = b :=
  inj_on_of_nodup_map h.endpoints ha hb heq

end

end WellKeyed

theorem sameDirection_eq_some_iff (h : store.WellKeyed) :
    store.findBestSameDirectionLinkMatch link = some matched ↔
      ∃ n, matched ∈ store.links ∧ matched.sourceDeviceID = link.sourceDeviceID ∧
        matched.targetDeviceID = link.targetDeviceID ∧
        sameDirectionScore link matched = some n ∧
        ∀ row ∈ store.links, row.sourceDeviceID = link.sourceDeviceID →
          row.targetDeviceID = link.targetDeviceID → row ≠ matched →
          ∀ m, sameDirectionScore link row = some m → m < n := by
  unfold findBestSameDirectionLinkMatch
  rw [bestMatch_eq_some_iff (h.links_nodup.filter _)]
  simp [mem_filter, decide_eq_true_eq, and_imp, and_assoc]

theorem reverse_eq_some_iff (h : store.WellKeyed) :
    store.findBestReverseLinkMatch lower link = some matched ↔
      ∃ n, matched ∈ store.links ∧ matched.sourceDeviceID = link.targetDeviceID ∧
        matched.targetDeviceID = link.sourceDeviceID ∧
        reverseScore lower link matched = some n ∧
        ∀ row ∈ store.links, row.sourceDeviceID = link.targetDeviceID →
          row.targetDeviceID = link.sourceDeviceID → row ≠ matched →
          ∀ m, reverseScore lower link row = some m → m < n := by
  unfold findBestReverseLinkMatch
  rw [bestMatch_eq_some_iff (h.links_nodup.filter _)]
  simp [mem_filter, decide_eq_true_eq, and_imp, and_assoc]

theorem endpoints_eq_iff : a.endpoints = b.endpoints ↔ a.sourceDeviceID = b.sourceDeviceID ∧
      a.sourceIfName = b.sourceIfName ∧ a.targetDeviceID = b.targetDeviceID ∧
      a.targetIfName = b.targetIfName := by
  simp [LinkRow.endpoints]

theorem sameDirection_of_exact (link : LinkRow) (h : store.WellKeyed) (hrow : row ∈ store.links)
    (heq : row.endpoints = link.endpoints) :
    store.findBestSameDirectionLinkMatch link = some row := by
  obtain ⟨hsrcDev, hsrc, htgtDev, htgt⟩ := endpoints_eq_iff.1 heq
  rw [sameDirection_eq_some_iff h]
  have hscore : sameDirectionScore link row = some
      ((if link.sourceIfName = "" then 1 else 3) + if link.targetIfName = "" then 1 else 3) := by
    simp [sameDirectionScore, hsrc, htgt]
  refine ⟨_, hrow, hsrcDev, htgtDev, hscore, ?_⟩
  intro other hother hotherSrc hotherTgt hne m hm
  have hnames : other.sourceIfName ≠ link.sourceIfName ∨
      other.targetIfName ≠ link.targetIfName := by
    by_contra hsame
    push Not at hsame
    apply hne
    apply h.eq_of_endpoints hother hrow
    rw [heq, endpoints_eq_iff]
    exact ⟨hotherSrc, hsame.1, hotherTgt, hsame.2⟩
  obtain ⟨n, hn, hlt⟩ := sameDirectionScore_exact hsrc htgt hnames
  rw [hscore] at hn
  exact Option.some.inj hn ▸ hlt m hm

/-! ### Where a link goes -/

/-- A row with two names and the protocol of a link; the row itself if it has them. -/
def enrichedRow (matched link : LinkRow) (newSrcIf newTgtIf : String) : LinkRow :=
  if newSrcIf = matched.sourceIfName ∧ newTgtIf = matched.targetIfName ∧
      matched.discoveryProtocol = link.discoveryProtocol then matched
  else
    { matched with
      sourceIfName := newSrcIf
      targetIfName := newTgtIf
      discoveryProtocol := link.discoveryProtocol
      updatedAt := link.updatedAt }

/-- What a same-direction match becomes. -/
def sameDirectionRow (matched link : LinkRow) : LinkRow :=
  enrichedRow matched link (fillName matched.sourceIfName link.sourceIfName)
    (fillName matched.targetIfName link.targetIfName)

/-- What a reverse match becomes. -/
def reverseRow (matched link : LinkRow) : LinkRow :=
  if shouldReorientReverseLink matched link then
    { matched with
      sourceDeviceID := link.sourceDeviceID
      sourceIfName := link.sourceIfName
      targetDeviceID := link.targetDeviceID
      targetIfName := link.targetIfName
      discoveryProtocol := link.discoveryProtocol
      updatedAt := link.updatedAt }
  else enrichedRow matched link (fillName matched.sourceIfName link.targetIfName)
    (fillName matched.targetIfName link.sourceIfName)

/-- A matching row, the row that it becomes, and the link as the call leaves it. -/
structure Placement where
  matched : LinkRow
  replaced : LinkRow
  link : LinkRow

/-- The row that a link is merged into; `none` if it becomes a row of its own. -/
def placement (lower : Char → Char) (store : LinkStore) (link : LinkRow) : Option Placement :=
  match store.findBestSameDirectionLinkMatch link with
  | some matched => some
    { matched
      replaced := sameDirectionRow matched link
      link :=
        { link with
          id := matched.id
          sourceIfName := fillName matched.sourceIfName link.sourceIfName
          targetIfName := fillName matched.targetIfName link.targetIfName } }
  | none => (store.findBestReverseLinkMatch lower link).map fun matched =>
    { matched
      replaced := reverseRow matched link
      link := { link with id := matched.id } }

section

variable (matched link : LinkRow) (newSrcIf newTgtIf : String)

@[simp]
theorem enrichedRow_id : (enrichedRow matched link newSrcIf newTgtIf).id = matched.id := by
  unfold enrichedRow
  split <;> rfl

@[simp]
theorem enrichedRow_endpoints : (enrichedRow matched link newSrcIf newTgtIf).endpoints =
      (matched.sourceDeviceID, newSrcIf, matched.targetDeviceID, newTgtIf) := by
  unfold enrichedRow
  split_ifs with h
  · simp [LinkRow.endpoints, h.1, h.2.1]
  · rfl

theorem enrichedRow_eq_self_iff : enrichedRow matched link newSrcIf newTgtIf = matched ↔
    newSrcIf = matched.sourceIfName ∧ newTgtIf = matched.targetIfName ∧
      matched.discoveryProtocol = link.discoveryProtocol := by
  refine ⟨fun heq => ?_, fun h => if_pos h⟩
  by_contra hne
  rw [enrichedRow, if_neg hne] at heq
  exact hne ⟨congrArg (·.sourceIfName) heq, congrArg (·.targetIfName) heq,
    (congrArg (·.discoveryProtocol) heq).symm⟩

@[simp]
theorem reverseRow_id : (reverseRow matched link).id = matched.id := by
  unfold reverseRow
  split
  · rfl
  · exact enrichedRow_id ..

end

/-- The names of a row with the endpoints of an enriched one. -/
theorem fields_of_enrichedRow
    (h : row.endpoints = (enrichedRow matched link newSrcIf newTgtIf).endpoints) :
    row.sourceDeviceID = matched.sourceDeviceID ∧ row.sourceIfName = newSrcIf ∧
      row.targetDeviceID = matched.targetDeviceID ∧ row.targetIfName = newTgtIf := by
  simpa [LinkRow.endpoints] using h.trans (enrichedRow_endpoints ..)

/-- Turning a row gives it a name where it had none. -/
theorem reverseRow_ne_self (h : shouldReorientReverseLink matched link = true) :
    reverseRow matched link ≠ matched := by
  intro heq
  rw [reverseRow, if_pos h] at heq
  have hsrc : link.sourceIfName = matched.sourceIfName := congrArg (·.sourceIfName) heq
  simp only [shouldReorientReverseLink, Bool.and_eq_true, decide_eq_true_eq] at h
  exact h.1.2 (hsrc.trans h.1.1)

theorem placement_eq_none (h : placement lower store link = none) :
    store.findBestSameDirectionLinkMatch link = none ∧
      store.findBestReverseLinkMatch lower link = none := by
  unfold placement at h
  split at h
  · cases h
  · rename_i hsame
    exact ⟨hsame, Option.map_eq_none_iff.1 h⟩

theorem placement_eq_some (h : placement lower store link = some p) :
    (store.findBestSameDirectionLinkMatch link = some p.matched ∧
      p.replaced = sameDirectionRow p.matched link) ∨
    (store.findBestSameDirectionLinkMatch link = none ∧
      store.findBestReverseLinkMatch lower link = some p.matched ∧
      p.replaced = reverseRow p.matched link) := by
  unfold placement at h
  split at h
  · rename_i matched hsame
    cases h
    exact .inl ⟨hsame, rfl⟩
  · rename_i hsame
    obtain ⟨matched, hrev, rfl⟩ := Option.map_eq_some_iff.1 h
    exact .inr ⟨hsame, hrev, rfl⟩

theorem placement_link (h : placement lower store link = some p) :
    p.link.id = p.matched.id ∧ p.link.sourceDeviceID = link.sourceDeviceID ∧
      p.link.targetDeviceID = link.targetDeviceID := by
  unfold placement at h
  split at h
  · cases h
    exact ⟨rfl, rfl, rfl⟩
  · obtain ⟨matched, -, rfl⟩ := Option.map_eq_some_iff.1 h
    exact ⟨rfl, rfl, rfl⟩

section Placement

variable {p : Placement} (h : store.WellKeyed) (hp : placement lower store link = some p)
include h hp

theorem placement_mem : p.matched ∈ store.links := by
  rcases placement_eq_some hp with ⟨hsame, -⟩ | ⟨-, hrev, -⟩
  · obtain ⟨_, hmem, -⟩ := (sameDirection_eq_some_iff h).1 hsame
    exact hmem
  · obtain ⟨_, hmem, -⟩ := (reverse_eq_some_iff h).1 hrev
    exact hmem

omit h in
theorem placement_id : p.replaced.id = p.matched.id := by
  rcases placement_eq_some hp with ⟨-, hreplaced⟩ | ⟨-, -, hreplaced⟩
  · rw [hreplaced]
    exact enrichedRow_id ..
  · rw [hreplaced]
    exact reverseRow_id ..

/-- The replaced row does not collide with another one. -/
theorem placement_free (hrow : row ∈ store.links) (hne : row ≠ p.matched) :
    row.endpoints ≠ p.replaced.endpoints := by
  intro heq
  rcases placement_eq_some hp with ⟨hsame, hreplaced⟩ | ⟨hnone, hrev, hreplaced⟩
  · -- the row would score at least as much as the match
    obtain ⟨n, hmem, hsrcDev, htgtDev, hscore, hbest⟩ := (sameDirection_eq_some_iff h).1 hsame
    rw [hreplaced] at heq
    obtain ⟨hrowSrcDev, hrowSrc, hrowTgtDev, hrowTgt⟩ := fields_of_enrichedRow heq
    obtain ⟨m, hm, hle⟩ := sameDirectionScore_filled hscore hrowSrc hrowTgt
    exact (hbest row hrow (hrowSrcDev.trans hsrcDev) (hrowTgtDev.trans htgtDev) hne m hm).not_ge hle
  · obtain ⟨n, hmem, hsrcDev, htgtDev, hscore, hbest⟩ := (reverse_eq_some_iff h).1 hrev
    rw [hreplaced, reverseRow] at heq
    split at heq
    · -- a reoriented row has the endpoints of the link, which would have matched directly
      have hexact := sameDirection_of_exact link h hrow heq
      rw [hnone] at hexact
      cases hexact
    · obtain ⟨hrowSrcDev, hrowSrc, hrowTgtDev, hrowTgt⟩ := fields_of_enrichedRow heq
      obtain ⟨m, hm, hle⟩ := reverseScore_filled hscore hrowSrc hrowTgt
      exact (hbest row hrow (hrowSrcDev.trans hsrcDev) (hrowTgtDev.trans htgtDev) hne m
        hm).not_ge hle

end Placement

theorem endpoints_free_of_no_placement (h : store.WellKeyed)
    (hp : placement lower store link = none) : link.endpoints ∉ store.links.map (·.endpoints) := by
  intro hmem
  obtain ⟨row, hrow, heq⟩ := mem_map.1 hmem
  rw [placement, sameDirection_of_exact link h hrow heq] at hp
  cases hp

/-! ### What a call writes -/

/-- The table with one row replaced. -/
def putRow (links : List LinkRow) (row : LinkRow) : List LinkRow :=
  links.map fun stored => if stored.id = row.id then row else stored

theorem putRow_ids (links : List LinkRow) (row : LinkRow) :
    (putRow links row).map (·.id) = links.map (·.id) := by
  rw [putRow, map_map]
  apply map_congr_left
  intro stored _
  dsimp
  split_ifs with heq
  · exact heq.symm
  · rfl

theorem mem_putRow {links : List LinkRow} {stored : LinkRow} (h : stored ∈ putRow links row) :
    stored = row ∨ stored ∈ links ∧ stored.id ≠ row.id := by
  obtain ⟨old, hold, rfl⟩ := mem_map.1 h
  split_ifs with hid
  · exact .inl rfl
  · exact .inr ⟨hold, hid⟩

theorem WellKeyed.putRow_self (h : store.WellKeyed) (hrow : row ∈ store.links) :
    putRow store.links row = store.links := by
  nth_rewrite 2 [← map_id store.links]
  apply map_congr_left
  intro stored hstored
  split_ifs with heq
  · exact (h.eq_of_id hstored hrow heq).symm
  · rfl

theorem WellKeyed.putRow (h : store.WellKeyed) (hmatched : matched ∈ store.links)
    (hid : row.id = matched.id)
    (hfree : ∀ stored ∈ store.links, stored ≠ matched → stored.endpoints ≠ row.endpoints) :
    { store with links := putRow store.links row }.WellKeyed := by
  have hother : ∀ stored ∈ store.links, stored.id ≠ row.id → stored.endpoints ≠ row.endpoints := by
    intro stored hstored hne
    apply hfree stored hstored
    rintro rfl
    exact hne hid.symm
  constructor
  · exact (putRow_ids store.links row).symm ▸ h.ids
  show ((LinkStore.putRow store.links row).map (·.endpoints)).Nodup
  rw [LinkStore.putRow, map_map, nodup_map_iff_inj_on h.links_nodup]
  intro a ha b hb hab
  dsimp only [Function.comp_apply] at hab
  split at hab
  · rename_i haid
    split at hab
    · rename_i hbid
      exact h.eq_of_id ha hb (haid.trans hbid.symm)
    · rename_i hbid
      exact absurd hab.symm (hother b hb hbid)
  · rename_i haid
    split at hab
    · exact absurd hab (hother a ha haid)
    · exact h.eq_of_endpoints ha hb hab

theorem updateLink_eq (h : store.WellKeyed) (hmatched : matched ∈ store.links)
    {change : LinkRow → LinkRow} (hid : (change matched).id = matched.id)
    (hfree : ∀ stored ∈ store.links, stored ≠ matched →
      stored.endpoints ≠ (change matched).endpoints) :
    store.updateLink matched.id change =
      .ok { store with links := putRow store.links (change matched) } := by
  have hlinks : (store.links.map fun stored => if stored.id = matched.id then change stored
      else stored) = putRow store.links (change matched) := by
    apply map_congr_left
    intro stored hstored
    rw [hid]
    split_ifs with heq
    · rw [h.eq_of_id hstored hmatched heq]
    · rfl
  unfold updateLink
  rw [hlinks, if_pos (h.putRow hmatched hid hfree).endpoints]

/-- The memberships that a call adds for a link. -/
def memberships (maps : CanvasMaps) (link : LinkRow) : Finset (UUID × UUID) :=
  (endpointMaps maps link.sourceDeviceID link.targetDeviceID).image fun mapID => (mapID, link.id)

theorem enrichMatch_eq (maps : CanvasMaps) (link : LinkRow) (h : store.WellKeyed)
    (hmatched : matched ∈ store.links)
    (hfree : ∀ stored ∈ store.links, stored ≠ matched →
      stored.endpoints ≠ (enrichedRow matched link newSrcIf newTgtIf).endpoints) :
    ∃ kind, store.enrichMatch maps matched link newSrcIf newTgtIf = .ok
      { store :=
          { store with
            links := putRow store.links (enrichedRow matched link newSrcIf newTgtIf)
            mapLinks := store.mapLinks ∪ memberships maps link }
        link
        result :=
          { changed := decide (enrichedRow matched link newSrcIf newTgtIf ≠ matched) ||
              !decide (memberships maps link ⊆ store.mapLinks)
            kind } } := by
  by_cases hsame : newSrcIf = matched.sourceIfName ∧ newTgtIf = matched.targetIfName ∧
      matched.discoveryProtocol = link.discoveryProtocol
  · have hrow : enrichedRow matched link newSrcIf newTgtIf = matched := if_pos hsame
    refine ⟨.noop, ?_⟩
    rw [hrow, h.putRow_self hmatched]
    simp only [enrichMatch, hsame, addLinkToMaterializedBaseEndpointMaps, memberships]
    simp
    rfl
  · have hrow : enrichedRow matched link newSrcIf newTgtIf =
        { matched with
          sourceIfName := newSrcIf
          targetIfName := newTgtIf
          discoveryProtocol := link.discoveryProtocol
          updatedAt := link.updatedAt } := if_neg hsame
    have hne := mt (enrichedRow_eq_self_iff matched link newSrcIf newTgtIf).1 hsame
    have hchanged : ¬((!(decide (newSrcIf ≠ matched.sourceIfName) ||
        decide (newTgtIf ≠ matched.targetIfName)) &&
        !decide (matched.discoveryProtocol ≠ link.discoveryProtocol)) = true) := by
      simpa using hsame
    unfold enrichMatch
    rw [if_neg hchanged, updateLink_eq h hmatched rfl (hrow ▸ hfree), ← hrow]
    exact ⟨_, by simp [hne, addLinkToMaterializedBaseEndpointMaps, memberships]; rfl⟩

/-- What a call that merges a link leaves behind. -/
def placedOutcome (maps : CanvasMaps) (store : LinkStore) (p : Placement) (kind : LinkUpsertKind) :
    Upserted where
  store :=
    { store with
      links := putRow store.links p.replaced
      mapLinks := store.mapLinks ∪ memberships maps p.link }
  link := p.link
  result :=
    { changed := decide (p.replaced ≠ p.matched) ||
        !decide (memberships maps p.link ⊆ store.mapLinks)
      kind }

/-- What a call that adds a link leaves behind. -/
def insertedOutcome (maps : CanvasMaps) (store : LinkStore) (link : LinkRow) : Upserted where
  store :=
    { store with
      links := store.links ++ [link]
      mapLinks := store.mapLinks ∪ memberships maps link }
  link
  result := { created := true, changed := true, kind := .created }

/-- A link that is placed replaces the row it is placed at, and no constraint fails. -/
theorem upsertDetailed_placed (maps : CanvasMaps) (h : store.WellKeyed)
    (hp : placement lower store (stampLink link newID now) = some p) :
    ∃ kind, upsertDetailed lower maps store link newID now =
      .ok (placedOutcome maps store p kind) := by
  have hmem := placement_mem h hp
  have hfree : ∀ stored ∈ store.links, stored ≠ p.matched →
      stored.endpoints ≠ p.replaced.endpoints := fun stored => placement_free h hp
  unfold placement at hp
  unfold upsertDetailed
  dsimp only
  cases hsame : store.findBestSameDirectionLinkMatch (stampLink link newID now) with
  | some matched =>
    rw [hsame] at hp
    cases hp
    exact enrichMatch_eq maps _ h hmem hfree
  | none =>
    rw [hsame] at hp
    obtain ⟨matched, hrev, rfl⟩ := Option.map_eq_some_iff.1 hp
    rw [hrev]
    unfold upsertReverse
    dsimp only
    unfold reverseRow at hfree
    simp only [placedOutcome]
    split
    · have hre : shouldReorientReverseLink matched (stampLink link newID now) = true := ‹_›
      rw [if_pos hre] at hfree
      rw [updateLink_eq h hmem rfl hfree, decide_eq_true (reverseRow_ne_self hre), reverseRow,
        if_pos hre]
      exact ⟨.reoriented, rfl⟩
    · have hre : ¬shouldReorientReverseLink matched (stampLink link newID now) = true := ‹_›
      simp only [reverseRow, if_neg hre] at hfree ⊢
      exact enrichMatch_eq maps { stampLink link newID now with id := matched.id } h hmem hfree

/-- A link that is not placed is added, unless its ID is taken or one of its devices is unknown. -/
theorem upsertDetailed_unplaced (h : store.WellKeyed)
    (hp : placement lower store (stampLink link newID now) = none) :
    upsertDetailed lower maps store link newID now =
      if (stampLink link newID now).id ∈ store.links.map (·.id) then .error .primaryKey
      else if link.sourceDeviceID ∉ store.devices ∨ link.targetDeviceID ∉ store.devices then
        .error .foreignKey
      else .ok (insertedOutcome maps store { stampLink link newID now with createdAt := now }) := by
  have hfree := endpoints_free_of_no_placement h hp
  have hsearch := placement_eq_none hp
  unfold upsertDetailed
  dsimp only
  rw [hsearch.1, hsearch.2]
  dsimp only
  have hfree' : { stampLink link newID now with createdAt := now }.endpoints ∉
    store.links.map (·.endpoints) := hfree
  rw [upsertInsert, insertLink, if_neg hfree']
  dsimp [stampLink]
  split_ifs <;> rfl

theorem upsertDetailed_ok {upserted : Upserted} (h : store.WellKeyed)
    (hok : upsertDetailed lower maps store link newID now = .ok upserted) :
    (∃ p kind, placement lower store (stampLink link newID now) = some p ∧
      upserted = placedOutcome maps store p kind) ∨
    (placement lower store (stampLink link newID now) = none ∧
      (stampLink link newID now).id ∉ store.links.map (·.id) ∧
      upserted = insertedOutcome maps store { stampLink link newID now with createdAt := now }) := by
  cases hp : placement lower store (stampLink link newID now) with
  | some p =>
    obtain ⟨kind, heq⟩ := upsertDetailed_placed maps h hp
    rw [heq] at hok
    exact .inl ⟨p, kind, rfl, (Except.ok.inj hok).symm⟩
  | none =>
    rw [upsertDetailed_unplaced h hp] at hok
    split at hok
    · cases hok
    · rename_i hid
      split at hok
      · cases hok
      · exact .inr ⟨rfl, hid, (Except.ok.inj hok).symm⟩

/-! ### Runs of upserts -/

/-- A call of `UpsertDetailed`. -/
structure UpsertCall where
  link : LinkRow
  newID : UUID
  now : Time

variable {call : UpsertCall}

/-- One call, as a step of the tables. -/
def step (lower : Char → Char) (maps : CanvasMaps) (store : LinkStore) (call : UpsertCall) :
    LinkStore :=
  store.afterUpsert (upsertDetailed lower maps store call.link call.newID call.now)

/-- No stored row has the ID of the link. -/
def FreshID (store : LinkStore) (call : UpsertCall) : Prop :=
  (stampLink call.link call.newID call.now).id ∉ store.links.map (·.id)

/-- Two names of one port: equal once normalized, or with the same physical anchor. -/
def SamePort (lower : Char → Char) (old new : String) : Prop :=
  Topology.normalizeInterfaceName lower old = Topology.normalizeInterfaceName lower new ∨
    physicalInterfaceAnchor lower old ≠ "" ∧
      physicalInterfaceAnchor lower old = physicalInterfaceAnchor lower new

/-- A name is kept, up to another name of the same port, unless it was blank. -/
def KeepsName (lower : Char → Char) (old new : String) : Prop :=
  old ≠ "" → SamePort lower old new

/-- The new row names the ports of the old one at the same two devices, in either orientation. -/
def KeepsPorts (lower : Char → Char) (old new : LinkRow) : Prop :=
  (new.sourceDeviceID = old.sourceDeviceID ∧ new.targetDeviceID = old.targetDeviceID ∧
    KeepsName lower old.sourceIfName new.sourceIfName ∧
    KeepsName lower old.targetIfName new.targetIfName) ∨
  (new.sourceDeviceID = old.targetDeviceID ∧ new.targetDeviceID = old.sourceDeviceID ∧
    KeepsName lower old.targetIfName new.sourceIfName ∧
    KeepsName lower old.sourceIfName new.targetIfName)

/-- What a successful call does to the rows: none is removed, one is added exactly if `Created`,
and stored port names stay names of their ports. -/
structure KeepsRows (lower : Char → Char) (store : LinkStore) (upserted : Upserted) : Prop where
  ids : upserted.store.links.map (·.id) =
    store.links.map (·.id) ++ if upserted.result.created then [upserted.link.id] else []
  ports : ∀ old ∈ store.links, ∃ new ∈ upserted.store.links,
    new.id = old.id ∧ KeepsPorts lower old new

/-- The outcome of a call respects the table: only an unknown device makes it fail. -/
def RespectsTable (lower : Char → Char) (store : LinkStore) : Except ConstraintError Upserted → Prop
  | .ok upserted => KeepsRows lower store upserted
  | .error e => e = .foreignKey

theorem KeepsName.refl (name : String) : KeepsName lower name name := fun _ => .inl rfl

theorem KeepsName.fillName (existing incoming : String) :
    KeepsName lower existing (fillName existing incoming) := by
  rcases fillName_cases existing incoming with heq | ⟨hblank, -, -⟩
  · rw [heq]
    exact KeepsName.refl existing
  · exact fun hne => absurd hblank hne

theorem KeepsName.of_score (hnamed : incoming ≠ "")
    (h : compatibleInterfaceScore lower existing incoming = some n) :
    KeepsName lower existing incoming := by
  intro hne
  unfold compatibleInterfaceScore at h
  rw [if_neg (by simp [hne, hnamed])] at h
  split at h
  · rename_i heq
    exact .inl heq
  · split at h
    · rename_i hanchor
      exact .inr hanchor
    · cases h

theorem KeepsPorts.refl (row : LinkRow) : KeepsPorts lower row row :=
  .inl ⟨rfl, rfl, .refl _, .refl _⟩

theorem KeepsPorts.enrichedRow (hsrc : KeepsName lower matched.sourceIfName newSrcIf)
    (htgt : KeepsName lower matched.targetIfName newTgtIf) :
    KeepsPorts lower matched (enrichedRow matched link newSrcIf newTgtIf) := by
  obtain ⟨hsrcDev, hsrcIf, htgtDev, htgtIf⟩ := @fields_of_enrichedRow _ _ link _ _ rfl
  exact .inl ⟨hsrcDev, htgtDev, hsrcIf.symm ▸ hsrc, htgtIf.symm ▸ htgt⟩

section

variable (h : store.WellKeyed) (hp : placement lower store link = some p)
include h hp

theorem placement_keepsPorts : KeepsPorts lower p.matched p.replaced := by
  rcases placement_eq_some hp with ⟨-, hreplaced⟩ | ⟨-, hrev, hreplaced⟩
  · rw [hreplaced]
    exact .enrichedRow (.fillName _ _) (.fillName _ _)
  obtain ⟨n, -, hsrcDev, htgtDev, hscore, -⟩ := (reverse_eq_some_iff h).1 hrev
  rw [hreplaced, reverseRow]
  split_ifs with hre
  · simp only [shouldReorientReverseLink, Bool.and_eq_true, decide_eq_true_eq] at hre
    obtain ⟨s, t, -, ht, -⟩ := bind_score_eq_some.1 hscore
    refine .inr ⟨htgtDev.symm, hsrcDev.symm, .of_score hre.1.2 ht, ?_⟩
    -- the source name of a reoriented row was blank
    intro hne
    exact absurd hre.1.1 hne
  · exact .enrichedRow (.fillName _ _) (.fillName _ _)

theorem keepsRows_placed : KeepsRows lower store (placedOutcome maps store p kind) := by
  constructor
  · show (putRow store.links p.replaced).map (·.id) = _ ++ []
    rw [append_nil, putRow_ids]
  intro old hold
  by_cases heq : old = p.matched
  · refine ⟨p.replaced, ?_, ?_, heq ▸ placement_keepsPorts h hp⟩
    · exact mem_map.2 ⟨old, hold, if_pos (by rw [heq, placement_id hp])⟩
    · rw [heq, placement_id hp]
  · refine ⟨old, ?_, rfl, .refl old⟩
    refine mem_map.2 ⟨old, hold, if_neg ?_⟩
    intro hid
    exact heq (h.eq_of_id hold (placement_mem h hp) (hid.trans (placement_id hp)))

omit h hp in
theorem keepsRows_inserted (link : LinkRow) :
    KeepsRows lower store (insertedOutcome maps store link) := by
  constructor
  · show (store.links ++ [link]).map (·.id) = _ ++ [link.id]
    rw [map_append]
    rfl
  · intro old hold
    exact ⟨old, mem_append_left _ hold, rfl, .refl old⟩

theorem WellKeyed.placed : (placedOutcome maps store p kind).store.WellKeyed := by
  have hput := h.putRow (placement_mem h hp) (placement_id hp) fun row => placement_free h hp
  exact ⟨hput.ids, hput.endpoints⟩

omit hp in
theorem WellKeyed.inserted (hid : link.id ∉ store.links.map (·.id))
    (hfree : link.endpoints ∉ store.links.map (·.endpoints)) :
    (insertedOutcome maps store link).store.WellKeyed := by
  constructor
  · show ((store.links ++ [link]).map (·.id)).Nodup
    rw [map_append]
    exact nodup_append.2 ⟨h.ids, by simp, by simpa using hid⟩
  · show ((store.links ++ [link]).map (·.endpoints)).Nodup
    rw [map_append]
    exact nodup_append.2 ⟨h.endpoints, by simp, by simpa using hfree⟩

omit hp in
/-- A successful call keeps the keys of the table. -/
theorem WellKeyed.upserted {upserted : Upserted}
    (hok : upsertDetailed lower maps store link newID now = .ok upserted) :
    upserted.store.WellKeyed := by
  rcases upsertDetailed_ok h hok with ⟨p, kind, hp, rfl⟩ | ⟨hp, hid, rfl⟩
  · exact h.placed hp
  · have hfree := endpoints_free_of_no_placement h hp
    exact h.inserted hid hfree

omit hp in
theorem upsertDetailed_respectsTable (hfresh : store.FreshID call) : RespectsTable lower store
      (upsertDetailed lower maps store call.link call.newID call.now) := by
  cases hp : placement lower store (stampLink call.link call.newID call.now) with
  | some p =>
    obtain ⟨kind, heq⟩ := upsertDetailed_placed maps h hp
    rw [heq]
    exact keepsRows_placed h hp
  | none =>
    rw [upsertDetailed_unplaced h hp, if_neg hfresh]
    split
    · rfl
    · exact keepsRows_inserted _

omit hp in
theorem WellKeyed.step : (store.step lower maps call).WellKeyed := by
  unfold LinkStore.step afterUpsert
  split
  · rename_i hok
    exact h.upserted hok
  · exact h

end

/-- Starting from a table with its keys, in every run of upserts with fresh IDs, the next upsert
breaks neither key; if it succeeds no row is removed, a row is added exactly if `Created`, and a
port name that is not blank is only replaced by a name of the same port of the same device. -/
theorem upserts_respect_table {maps : CanvasMaps} {initial : LinkStore} {calls : List UpsertCall}
    (h : initial.WellKeyed)
    (run : Run (· = initial) (ActStep (step lower maps) FreshID) store calls)
    {call : UpsertCall} (hfresh : store.FreshID call) :
    store.WellKeyed ∧ RespectsTable lower store
      (upsertDetailed lower maps store call.link call.newID call.now) := by
  have hkeyed : store.WellKeyed := run.act_invariant h fun s op hs _ => hs.step
  exact ⟨hkeyed, upsertDetailed_respectsTable hkeyed hfresh⟩

/-- Two known devices and no link. -/
def pairStore : LinkStore where
  devices := {1, 2}

/-- Device 1 reports its port "ether1" towards device 2. -/
def halfCall : UpsertCall where
  link := { id := 0, sourceDeviceID := 1, sourceIfName := "ether1", targetDeviceID := 2
            targetIfName := "", discoveryProtocol := .lldp }
  newID := 7
  now := 10

/-- Device 2 reports the same link, with its own port. -/
def otherCall : UpsertCall where
  link := { id := 0, sourceDeviceID := 2, sourceIfName := "sfp1", targetDeviceID := 1
            targetIfName := "Ether1 ", discoveryProtocol := .lldp }
  newID := 8
  now := 20

theorem upserts_respect_table_enriched :
    (pairStore.step Char.toLower {} halfCall).WellKeyed ∧
      RespectsTable Char.toLower (pairStore.step Char.toLower {} halfCall)
        (upsertDetailed Char.toLower {} (pairStore.step Char.toLower {} halfCall)
          otherCall.link otherCall.newID otherCall.now) := by
  have hkeyed : pairStore.WellKeyed := ⟨by decide, by decide⟩
  have hfirst : pairStore.FreshID halfCall := by
    unfold FreshID
    decide +kernel
  have hsecond : (pairStore.step Char.toLower {} halfCall).FreshID otherCall := by
    unfold FreshID
    decide +kernel
  have hrun := Run.of_ops (show OkAlong (step Char.toLower {}) FreshID pairStore [halfCall] from
    ⟨hfirst, trivial⟩)
  exact upserts_respect_table hkeyed hrun hsecond

/-! ### One row per cable -/

/-- The rows join the same two ports, in either orientation; names are compared ignoring case and
surrounding blanks. -/
def SameCable (lower : Char → Char) (a b : LinkRow) : Prop :=
  let name := Topology.normalizeInterfaceName lower
  (a.sourceDeviceID = b.sourceDeviceID ∧ name a.sourceIfName = name b.sourceIfName ∧
    a.targetDeviceID = b.targetDeviceID ∧ name a.targetIfName = name b.targetIfName) ∨
  (a.sourceDeviceID = b.targetDeviceID ∧ name a.sourceIfName = name b.targetIfName ∧
    a.targetDeviceID = b.sourceDeviceID ∧ name a.targetIfName = name b.sourceIfName)

/-- Names of ports that are not blank and spelled in one way. -/
structure Spelling (lower : Char → Char) (names : Set String) : Prop where
  named : "" ∉ names
  one : ∀ a ∈ names, ∀ b ∈ names, Topology.normalizeInterfaceName lower a =
    Topology.normalizeInterfaceName lower b → a = b

def Spelled (names : Set String) (row : LinkRow) : Prop :=
  row.sourceIfName ∈ names ∧ row.targetIfName ∈ names

/-- Endpoints seen from the other end. -/
def mirror (ends : UUID × String × UUID × String) : UUID × String × UUID × String :=
  (ends.2.2.1, ends.2.2.2, ends.1, ends.2.1)

/-- A table whose rows spell their ports in one way and are all of different cables. -/
structure OneRowPerCable (names : Set String) (store : LinkStore) : Prop where
  keyed : store.WellKeyed
  spelled : ∀ ends ∈ store.links.map (·.endpoints), ends.2.1 ∈ names ∧ ends.2.2.2 ∈ names
  mirror : ∀ ends ∈ store.links.map (·.endpoints),
    mirror ends ∈ store.links.map (·.endpoints) → mirror ends = ends

section Cables

variable {names : Set String}

theorem OneRowPerCable.spelled_row (h : OneRowPerCable names store) (hrow : row ∈ store.links) :
    Spelled names row :=
  h.spelled _ (mem_map_of_mem hrow)

variable (hnames : Spelling lower names)
include hnames

theorem Spelling.ne_blank (h : name ∈ names) : name ≠ "" :=
  fun heq => hnames.named (heq ▸ h)

theorem Spelling.score_le {a b : String} (ha : a ∈ names) (hb : b ∈ names)
    (h : compatibleInterfaceScore lower a b = some n) : n ≤ 3 ∧ (a ≠ b → n ≤ 2) := by
  unfold compatibleInterfaceScore at h
  split at h
  · cases h
    omega
  split at h
  · rename_i hnorm
    cases h
    exact ⟨le_rfl, fun hne => absurd (hnames.one a ha b hb hnorm) hne⟩
  · split at h <;> cases h
    omega

section

variable (h : OneRowPerCable names store)
include h

theorem OneRowPerCable.reverse_eq (link : LinkRow)
    (hlink : Spelled names link) (hrow : row ∈ store.links) (heq : row.endpoints = LinkStore.mirror link.endpoints) :
    store.findBestReverseLinkMatch lower link = some row := by
  simp only [LinkRow.endpoints, LinkStore.mirror, Prod.mk.injEq] at heq
  obtain ⟨hsrcDev, hsrc, htgtDev, htgt⟩ := heq
  rw [reverse_eq_some_iff h.keyed]
  refine ⟨6, hrow, hsrcDev, htgtDev, ?_, ?_⟩
  · rw [reverseScore, hsrc, htgt, compatibleInterfaceScore_self (hnames.ne_blank hlink.2),
      compatibleInterfaceScore_self (hnames.ne_blank hlink.1)]
    rfl
  · -- another row has another name, which scores less
    intro other hother hotherSrc hotherTgt hne m hm
    obtain ⟨s, t, hs, ht, rfl⟩ := bind_score_eq_some.1 hm
    obtain ⟨hs3, hs2⟩ := hnames.score_le (h.spelled_row hother).1 hlink.2 hs
    obtain ⟨ht3, ht2⟩ := hnames.score_le (h.spelled_row hother).2 hlink.1 ht
    by_cases hsame : other.sourceIfName = link.targetIfName ∧ other.targetIfName = link.sourceIfName
    · refine absurd (h.keyed.eq_of_endpoints hother hrow (endpoints_eq_iff.2 ?_)) hne
      exact ⟨hotherSrc.trans hsrcDev.symm, hsame.1.trans hsrc.symm, hotherTgt.trans htgtDev.symm,
        hsame.2.trans htgt.symm⟩
    · grind

theorem OneRowPerCable.placed_endpoints (hp : placement lower store link = some p) :
    (putRow store.links p.replaced).map (·.endpoints) = store.links.map (·.endpoints) := by
  have hmem := placement_mem h.keyed hp
  have hsrc := hnames.ne_blank (h.spelled_row hmem).1
  have htgt := hnames.ne_blank (h.spelled_row hmem).2
  have hfill : ∀ {name : String}, name ≠ "" → ∀ incoming, fillName name incoming = name :=
    fun hname incoming => if_neg fun hfill => hname hfill.1
  have hends : p.replaced.endpoints = p.matched.endpoints := by
    rcases placement_eq_some hp with ⟨-, hreplaced⟩ | ⟨-, -, hreplaced⟩
    · rw [hreplaced, sameDirectionRow, enrichedRow_endpoints, hfill hsrc, hfill htgt]
      rfl
    · have hkeep : ¬shouldReorientReverseLink p.matched link = true := by
        simp [shouldReorientReverseLink, hsrc]
      rw [hreplaced, reverseRow, if_neg hkeep, enrichedRow_endpoints, hfill hsrc, hfill htgt]
      rfl
  rw [putRow, map_map]
  apply map_congr_left
  intro row hrow
  dsimp
  split_ifs with hid
  · rw [hends, h.keyed.eq_of_id hrow hmem (hid.trans (placement_id hp))]
  · rfl

theorem OneRowPerCable.step
    (hcall : Spelled names call.link) : OneRowPerCable names (store.step lower maps call) := by
  unfold LinkStore.step afterUpsert
  split
  · rename_i upserted hok
    have hkeyed := h.keyed.upserted hok
    rcases upsertDetailed_ok h.keyed hok with ⟨p, kind, hp, rfl⟩ | ⟨hp, hid, rfl⟩
    · have hends := h.placed_endpoints hnames hp
      exact ⟨hkeyed, hends.symm ▸ h.spelled, hends.symm ▸ h.mirror⟩
    -- the mirror of a link that is inserted would have been found
    have hfree : LinkStore.mirror call.link.endpoints ∉ store.links.map (·.endpoints) := by
      intro hmem
      obtain ⟨row, hrow, heq⟩ := mem_map.1 hmem
      have hnone := (placement_eq_none hp).2
      rw [h.reverse_eq hnames (stampLink call.link call.newID call.now) hcall hrow heq] at hnone
      cases hnone
    refine ⟨hkeyed, ?_, ?_⟩
    · simp only [insertedOutcome, map_append, map_cons, map_nil,
        forall_mem_append, forall_mem_singleton]
      exact ⟨h.spelled, hcall⟩
    · simp only [insertedOutcome, map_append, map_cons, map_nil, mem_append, mem_singleton]
      rintro ends (hold | rfl) (hmem | heq)
      · exact h.mirror ends hold hmem
      · have hback : ends = LinkStore.mirror call.link.endpoints := congrArg LinkStore.mirror heq
        exact absurd (hback ▸ hold) hfree
      · exact absurd hmem hfree
      · exact heq
  · exact h

end

/-- If the calls name every port and spell it in one way, the table has one row for a cable, in
whatever order and orientation the cable is reported. -/
theorem one_row_per_cable {devices : Finset UUID} {calls : List UpsertCall}
    (run : Run (· = ({ devices } : LinkStore))
      (ActStep (step lower maps) fun _ call => Spelled names call.link) store calls) :
    ∀ a ∈ store.links, ∀ b ∈ store.links, SameCable lower a b → a = b := by
  have hinit : OneRowPerCable names { devices } := ⟨⟨nodup_nil, nodup_nil⟩, nofun, nofun⟩
  have h : OneRowPerCable names store :=
    run.act_invariant hinit fun s op hs hop => hs.step hnames hop
  intro a ha b hb hsame
  obtain ⟨haSrc, haTgt⟩ := h.spelled_row ha
  obtain ⟨hbSrc, hbTgt⟩ := h.spelled_row hb
  apply h.keyed.eq_of_endpoints ha hb
  rcases hsame with ⟨hsrcDev, hsrc, htgtDev, htgt⟩ | ⟨hsrcDev, hsrc, htgtDev, htgt⟩
  · rw [endpoints_eq_iff]
    exact ⟨hsrcDev, hnames.one _ haSrc _ hbSrc hsrc, htgtDev, hnames.one _ haTgt _ hbTgt htgt⟩
  have heq : a.endpoints = LinkStore.mirror b.endpoints := by
    rw [LinkRow.endpoints, hsrcDev, htgtDev, hnames.one _ haSrc _ hbTgt hsrc,
      hnames.one _ haTgt _ hbSrc htgt]
    rfl
  rw [heq]
  exact h.mirror _ (mem_map_of_mem hb) (heq ▸ mem_map_of_mem ha)

end Cables

def cableCall (source : UUID) (sourcePort : String) (target : UUID) (targetPort : String)
    (newID : UUID) : UpsertCall where
  link := { id := 0, sourceDeviceID := source, sourceIfName := sourcePort, targetDeviceID := target
            targetIfName := targetPort, discoveryProtocol := .lldp }
  newID := newID
  now := 10

/-- A link and its mirror image. -/
theorem one_row_per_cable_mirror :
    let store := [cableCall 1 "ether1" 2 "sfp1" 7, cableCall 2 "sfp1" 1 "ether1" 8].foldl
      (step Char.toLower {}) pairStore
    store.links.length = 1 ∧
      ∀ a ∈ store.links, ∀ b ∈ store.links, SameCable Char.toLower a b → a = b := by
  have hnames : Spelling Char.toLower {"ether1", "sfp1"} := by
    refine ⟨by simp, ?_⟩
    rintro a (rfl | rfl) b (rfl | rfl) h
    · rfl
    · exact absurd h (by decide)
    · exact absurd h (by decide)
    · rfl
  have hrun := Run.of_ops (show OkAlong (step Char.toLower {})
    (fun _ call => Spelled {"ether1", "sfp1"} call.link) pairStore
      [cableCall 1 "ether1" 2 "sfp1" 7, cableCall 2 "sfp1" 1 "ether1" 8] from
    ⟨⟨.inl rfl, .inr rfl⟩, ⟨.inr rfl, .inl rfl⟩, trivial⟩)
  exact ⟨by decide +kernel, one_row_per_cable hnames hrun⟩

/-- The search in the direction of the link compares names exactly, so a port that is spelled in two
ways gets two rows. -/
theorem two_rows_of_cable :
    let store := [cableCall 1 "ether1" 2 "sfp1" 7, cableCall 1 "Ether1" 2 "sfp1" 8].foldl
      (step Char.toLower {}) pairStore
    ∃ a ∈ store.links, ∃ b ∈ store.links, a.id ≠ b.id ∧ SameCable Char.toLower a b := by
  unfold SameCable
  decide +kernel

end LinkStore

end Theia
