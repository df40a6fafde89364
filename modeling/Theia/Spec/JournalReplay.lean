import Theia.Native.OverviewJournal

/-!
# Journal replay is exact and overlap-safe

The entries of the journal are a contiguous range of versions within both limits, each holding
the delta last appended for its version. A replay is the merge of such a range, and merging is
associative and idempotent, so a replay may be applied from any version inside its range.
-/

namespace Theia

open List OverviewJournal FMap

/-! ### Merging deltas -/

@[simp] theorem RuntimeRecords.merge_empty (p : RuntimeDeltaPayload) :
    p.merge emptyRuntimeDeltaPayload = p := by
  simp [merge, mergeOverviewJournalPatches, emptyRuntimeDeltaPayload]

theorem RuntimeRecords.merge_assoc (p q r : RuntimeDeltaPayload) :
    (p.merge q).merge r = p.merge (q.merge r) := by
  simp [merge, mergeOverviewJournalPatches, mergeWith_assoc overlay_assoc]

theorem RuntimeRecords.merge_self (p : RuntimeDeltaPayload) : p.merge p = p := by
  simp [merge, mergeOverviewJournalPatches, mergeWith_self overlay_self]

/-- Overwrite the records of a state field by field, skipping entities that it does not have. -/
def RuntimeRecords.patchKnown (state delta : RuntimeDeltaPayload) : RuntimeDeltaPayload where
  devices := state.devices.patchWith overlay delta.devices
  links := state.links.patchWith overlay delta.links

theorem RuntimeRecords.patchKnown_patchKnown (s p q : RuntimeDeltaPayload) :
    (s.patchKnown p).patchKnown q = s.patchKnown (p.merge q) := by
  simp [patchKnown, merge, mergeOverviewJournalPatches, patchWith_patchWith overlay_assoc]

@[simp] theorem RuntimeRecords.patchKnown_empty (s : RuntimeDeltaPayload) :
    s.patchKnown emptyRuntimeDeltaPayload = s := by
  simp [patchKnown, emptyRuntimeDeltaPayload]

namespace OverviewJournal

open RuntimeRecords

/-! ### Applying a range of patches -/

/-- The state after the patches `f + 1, …, f + n`, each applied by `apply`. -/
def applyRange (apply : RuntimeDeltaPayload → RuntimeDeltaPayload → RuntimeDeltaPayload)
    (patch : Nat → RuntimeDeltaPayload) (state : RuntimeDeltaPayload) (f : Nat) :
    Nat → RuntimeDeltaPayload
  | 0 => state
  | n + 1 => apply (applyRange apply patch state f n) (patch (f + n + 1))

/-- The patches `f + 1, …, f + n` compacted into one. -/
abbrev compact (patch : Nat → RuntimeDeltaPayload) (f n : Nat) : RuntimeDeltaPayload :=
  applyRange .merge patch emptyRuntimeDeltaPayload f n

section Compact

variable {apply : RuntimeDeltaPayload → RuntimeDeltaPayload → RuntimeDeltaPayload}
  (happly : ∀ s p q, apply (apply s p) q = apply s (p.merge q))
  (hempty : ∀ s, apply s emptyRuntimeDeltaPayload = s)
  (patch : Nat → RuntimeDeltaPayload) (state : RuntimeDeltaPayload) (f : Nat)

include happly hempty in
theorem apply_compact (n : Nat) :
    apply state (compact patch f n) = applyRange apply patch state f n := by
  induction n with
  | zero => exact hempty state
  | succ n ih =>
    show apply state ((compact patch f n).merge (patch (f + n + 1))) = _
    rw [← happly, ih]
    rfl

theorem compact_split (m n : Nat) :
    compact patch f (m + n) = (compact patch f m).merge (compact patch (f + m) n) := by
  rw [apply_compact merge_assoc merge_empty]
  induction n with
  | zero => rfl
  | succ n ih =>
    show (compact patch f (m + n)).merge (patch (f + (m + n) + 1)) = _
    rw [ih]
    show _ = (applyRange _ _ _ _ n).merge (patch (f + m + n + 1))
    rw [Nat.add_assoc f m n]

include happly hempty in
theorem apply_compact_overlap (m n : Nat) :
    apply (applyRange apply patch state f m) (compact patch f (m + n)) =
      applyRange apply patch state f (m + n) := by
  rw [← apply_compact happly hempty, ← apply_compact happly hempty, happly, compact_split,
    ← merge_assoc, merge_self]

end Compact

/-! ### What the journal retains -/

/-- The delta of the last `Append` for a version. -/
def lastAppend (version : Nat) (ops : List Op) : Option RuntimeDeltaPayload :=
  ops.reverse.findSome? fun
    | .append base v delta =>
      if v = version ∧ v = base + 1 then some (delta.getD emptyRuntimeDeltaPayload) else none
    | .reset => none

/-- The entries are contiguous, within the limits and hold the deltas last appended. -/
structure Kept (capacity maxBytes : Int) (ops : List Op) (j : OverviewJournal) : Prop where
  capacity_eq : j.capacity = capacity
  maxBytes_eq : j.maxBytes = maxBytes
  version : ∀ e ∈ j.entries, e.version = e.baseVersion + 1
  chain : j.entries.IsChain fun a b => b.baseVersion = a.version
  size : j.sizeBytes = (j.entries.map fun e => (e.sizeBytes : Int)).sum
  length_le : (j.entries.length : Int) ≤ max capacity 0
  size_le : j.sizeBytes ≤ max maxBytes 0
  delta : ∀ e ∈ j.entries, lastAppend e.version ops = some e.delta

theorem kept_reset (j : OverviewJournal) (ops : List Op) :
    Kept j.capacity j.maxBytes ops j.reset := by
  constructor <;> simp [reset]

theorem evict_spec {capacity maxBytes : Int} (hc : 0 < capacity) (last : OverviewJournalEntry)
    (hlast : (last.sizeBytes : Int) ≤ maxBytes) (entries : List OverviewJournalEntry) (size : Int)
    (hsize : size = ((entries ++ [last]).map fun e => (e.sizeBytes : Int)).sum) :
    ∃ kept, kept <:+ entries ∧
      evict capacity maxBytes size (entries ++ [last]) =
        (((kept ++ [last]).map fun e => (e.sizeBytes : Int)).sum, kept ++ [last]) ∧
      ((kept ++ [last]).length : Int) ≤ capacity ∧
      ((kept ++ [last]).map fun e => (e.sizeBytes : Int)).sum ≤ maxBytes := by
  induction entries generalizing size with
  | nil =>
    simp only [nil_append, map_cons, map_nil, sum_singleton] at hsize
    refine ⟨[], suffix_refl [], ?_, ?_, ?_⟩
    · rw [nil_append, evict, if_neg]
      · simp [hsize]
      · simp only [length_singleton, hsize]
        omega
    · simp only [nil_append, length_singleton]
      omega
    · simpa using hlast
  | cons e entries ih =>
    rw [cons_append, evict]
    split_ifs with hfit
    · obtain ⟨kept, hsuf, heq, hlen, hsum⟩ := ih (size - e.sizeBytes) (by
        rw [hsize, cons_append, map_cons, sum_cons]
        omega)
      exact ⟨kept, hsuf.trans (suffix_cons e entries), heq, hlen, hsum⟩
    · refine ⟨e :: entries, suffix_refl _, by rw [hsize]; rfl, ?_, ?_⟩
      · simp only [cons_append] at hfit ⊢
        omega
      · omega

theorem version_le_last {entries : List OverviewJournalEntry} {last : OverviewJournalEntry}
    (hver : ∀ e ∈ entries, e.version = e.baseVersion + 1)
    (hchain : entries.IsChain fun a b => b.baseVersion = a.version)
    (hlast : entries.getLast? = some last) : ∀ e ∈ entries, e.version ≤ last.version := by
  induction entries with
  | nil => simp
  | cons a entries ih =>
    cases entries with
    | nil =>
      simp only [List.getLast?_singleton, Option.some.injEq] at hlast
      simp [hlast]
    | cons b entries =>
      rw [isChain_cons_cons] at hchain
      have ih := ih (fun e he => hver e (mem_cons_of_mem a he)) hchain.2 hlast
      intro e he
      rcases mem_cons.1 he with rfl | he
      · have hb := ih b mem_cons_self
        have hv := hver b (mem_cons_of_mem e mem_cons_self)
        omega
      · exact ih e he

theorem lastAppend_append_ne {version base v : Nat} {delta : Option RuntimeDeltaPayload}
    (ops : List Op) (h : v ≠ version) :
    lastAppend version (ops ++ [.append base v delta]) = lastAppend version ops := by
  simp [lastAppend, h]

theorem lastAppend_append_self (base : Nat) (delta : Option RuntimeDeltaPayload) (ops : List Op) :
    lastAppend (base + 1) (ops ++ [.append base (base + 1) delta]) =
      some (delta.getD emptyRuntimeDeltaPayload) := by
  simp [lastAppend]

section Marshal

variable (marshal : RuntimeDeltaPayload → Option Nat) {capacity maxBytes : Int} {ops : List Op}
  {j : OverviewJournal}

section

variable (h : Kept capacity maxBytes ops j)
include h

theorem Kept.push {base size : Nat} {delta : Option RuntimeDeltaPayload}
    (hbase : ∀ last, j.entries.getLast? = some last → last.version = base)
    (hsize : (size : Int) ≤ j.maxBytes) (hcap : 0 < j.capacity) :
    Kept capacity maxBytes (ops ++ [.append base (base + 1) delta])
      { j with
        sizeBytes := (evict j.capacity j.maxBytes (j.sizeBytes + size) (j.entries ++
          [⟨base, base + 1, delta.getD emptyRuntimeDeltaPayload, size⟩])).1
        entries := (evict j.capacity j.maxBytes (j.sizeBytes + size) (j.entries ++
          [⟨base, base + 1, delta.getD emptyRuntimeDeltaPayload, size⟩])).2 } := by
  generalize hlast : (⟨base, base + 1, delta.getD emptyRuntimeDeltaPayload, size⟩ :
    OverviewJournalEntry) = last
  have hfit : (last.sizeBytes : Int) ≤ j.maxBytes := by
    rw [← hlast]
    exact hsize
  obtain ⟨kept, hsuf, heq, hlen, hsum⟩ := evict_spec hcap last hfit j.entries
    (j.sizeBytes + size) (by rw [h.size, ← hlast]; simp)
  have hmem : ∀ e ∈ kept, e ∈ j.entries := fun e he => hsuf.subset he
  have hold : ∀ e ∈ j.entries, e.version ≤ base := by
    intro e he
    cases hl : j.entries.getLast? with
    | none =>
      rw [List.getLast?_eq_none_iff.1 hl] at he
      cases he
    | some l =>
      rw [← hbase l hl]
      exact version_le_last h.version h.chain hl e he
  rw [heq]
  constructor
  · exact h.capacity_eq
  · exact h.maxBytes_eq
  · intro e he
    rcases mem_append.1 he with he | he
    · exact h.version e (hmem e he)
    · rw [mem_singleton.1 he, ← hlast]
  · -- the new entry starts where the last retained one ends
    refine isChain_append.2 ⟨h.chain.suffix hsuf, isChain_singleton last, ?_⟩
    intro a ha b hb
    rw [List.head?_cons, Option.mem_some_iff] at hb
    rw [← hb, ← hlast]
    have hne : kept ≠ [] := by
      rintro rfl
      cases ha
    have hla : j.entries.getLast? = some a := by
      obtain ⟨front, hfront⟩ := hsuf
      rw [← hfront, List.getLast?_append_of_ne_nil front hne]
      exact ha
    exact (hbase a hla).symm
  · rfl
  · rw [h.capacity_eq] at hlen
    exact hlen.trans (le_max_left _ _)
  · rw [h.maxBytes_eq] at hsum
    exact hsum.trans (le_max_left _ _)
  intro e he
  rcases mem_append.1 he with he | he
  · have hle := hold e (hmem e he)
    rw [lastAppend_append_ne ops (by omega)]
    exact h.delta e (hmem e he)
  · rw [mem_singleton.1 he, ← hlast]
    exact lastAppend_append_self base delta ops

theorem Kept.resetOnGap (base : Nat) : Kept capacity maxBytes ops (j.resetOnGap base) ∧
      ∀ last, (j.resetOnGap base).entries.getLast? = some last → last.version = base := by
  obtain ⟨rfl, rfl⟩ := And.intro h.capacity_eq h.maxBytes_eq
  unfold OverviewJournal.resetOnGap
  split
  · rename_i last hlast
    split_ifs with hver
    · exact ⟨kept_reset j ops, by simp [reset]⟩
    · refine ⟨h, fun l hl => ?_⟩
      rw [hlast, Option.some.injEq] at hl
      rw [← hl]
      exact not_not.1 hver
  · rename_i hnone
    exact ⟨h, fun l hl => by rw [hnone] at hl; cases hl⟩

/-- `Append` keeps the entries contiguous, within the limits and up to date. -/
theorem Kept.append (base version : Nat) (delta : Option RuntimeDeltaPayload) :
    Kept capacity maxBytes (ops ++ [.append base version delta])
      (j.append marshal base version delta) := by
  obtain ⟨rfl, rfl⟩ := And.intro h.capacity_eq h.maxBytes_eq
  unfold OverviewJournal.append
  split
  · exact kept_reset j _
  obtain rfl : version = base + 1 := by omega
  obtain ⟨hk, hbase⟩ := h.resetOnGap base
  generalize j.resetOnGap base = j' at hk hbase ⊢
  have hreset : ∀ ops', Kept j.capacity j.maxBytes ops' j'.reset := by
    intro ops'
    rw [← hk.capacity_eq, ← hk.maxBytes_eq]
    exact kept_reset j' ops'
  cases hclone : cloneOverviewJournalDelta marshal delta with
  | none => exact hreset _
  | some cloned =>
    obtain ⟨cloned, size⟩ := cloned
    have hcl : cloned = delta.getD emptyRuntimeDeltaPayload := by
      simp only [cloneOverviewJournalDelta, Option.map_eq_some_iff, Prod.mk.injEq] at hclone
      obtain ⟨-, -, hcl, -⟩ := hclone
      exact hcl.symm
    dsimp only
    split
    · exact hreset _
    · rw [hcl]
      exact hk.push hbase (by omega) (by omega)

theorem Kept.step (op : Op) : Kept capacity maxBytes (ops ++ [op]) (j.step marshal op) := by
  cases op with
  | append base version delta => exact h.append marshal base version delta
  | reset =>
    obtain ⟨rfl, rfl⟩ := And.intro h.capacity_eq h.maxBytes_eq
    exact kept_reset j _

omit h in
/-- What the journal retains after any calls. -/
theorem run_kept (capacity maxBytes : Int) (ops : List Op) :
    Kept capacity maxBytes ops (run marshal capacity maxBytes ops) := by
  induction ops using List.reverseRecOn with
  | nil => constructor <;> simp [run, newOverviewJournal]
  | append_singleton ops op ih =>
    rw [run, foldl_append]
    exact ih.step marshal op

/-! ### What a replay contains -/

omit h in
/-- The loop of `Replay` from a version `f + n` that it has compacted up to: a result is the
whole range up to the target, and every version still to come is retained. -/
theorem replayLoop_spec {patch : Nat → RuntimeDeltaPayload} (f t : Nat)
    (entries : List OverviewJournalEntry) (hver : ∀ e ∈ entries, e.version = e.baseVersion + 1)
    (hpatch : ∀ e ∈ entries, patch e.version = e.delta) (n : Nat) (hn : f + n < t)
    {d : RuntimeDeltaPayload}
    (h : replayLoop marshal f t (compact patch f n) (f + n) entries = some d) :
    d = compact patch f (t - f) ∧ ∀ v, f + n < v → v ≤ t → ∃ e ∈ entries, e.version = v := by
  induction entries generalizing n with
  | nil => cases h
  | cons e entries ih =>
    have hver' : ∀ e' ∈ entries, e'.version = e'.baseVersion + 1 :=
      fun e' he' => hver e' (mem_cons_of_mem e he')
    have hpatch' : ∀ e' ∈ entries, patch e'.version = e'.delta :=
      fun e' he' => hpatch e' (mem_cons_of_mem e he')
    have hmem : ∀ v, (∃ e' ∈ entries, e'.version = v) → ∃ e' ∈ e :: entries, e'.version = v :=
      fun v ⟨e', he', hv⟩ => ⟨e', mem_cons_of_mem e he', hv⟩
    rw [replayLoop] at h
    split at h
    · -- an entry before the range
      obtain ⟨hd, hall⟩ := ih hver' hpatch' n hn h
      exact ⟨hd, fun v hv hvt => hmem v (hall v hv hvt)⟩
    · split at h
      · cases h
      have hev := hver e mem_cons_self
      have hed := hpatch e mem_cons_self
      have hv : e.version = f + (n + 1) := by omega
      have hmerge : (compact patch f n).merge e.delta = compact patch f (n + 1) := by
        rw [← hed, hv]
        rfl
      rw [hmerge] at h
      split at h
      · -- the target is reached
        rename_i htarget
        have hd : compact patch f (n + 1) = d := by
          simp only [cloneOverviewJournalDelta, Option.map_map, Option.map_eq_some_iff,
            Function.comp_apply] at h
          obtain ⟨-, -, hd⟩ := h
          exact hd
        refine ⟨?_, fun v hlo hhi => ⟨e, mem_cons_self, by omega⟩⟩
        rw [← hd, show t - f = n + 1 by omega]
      · rw [hv] at h
        obtain ⟨hd, hall⟩ := ih hver' hpatch' (n + 1) (by omega) h
        refine ⟨hd, fun v hlo hhi => ?_⟩
        by_cases hve : v = e.version
        · exact ⟨e, mem_cons_self, hve.symm⟩
        · exact hmem v (hall v (by omega) hhi)

/-- The patch last appended for a version. -/
def patchAt (ops : List Op) (version : Nat) : RuntimeDeltaPayload :=
  (lastAppend version ops).getD emptyRuntimeDeltaPayload

/-- A successful replay is the compacted range, all of which is retained. -/
theorem replay_spec {f t : Nat} {d : RuntimeDeltaPayload} (hd : j.replay marshal f t = some d) :
    f < t ∧ d = compact (patchAt ops) f (t - f) ∧
      ∀ v, f < v → v ≤ t → ∃ e ∈ j.entries, e.version = v := by
  unfold replay at hd
  split at hd
  · cases hd
  have hpatch : ∀ e ∈ j.entries, patchAt ops e.version = e.delta := by
    intro e he
    rw [patchAt, h.delta e he]
    rfl
  have hspec := replayLoop_spec marshal f t j.entries h.version hpatch 0 (by omega) hd
  exact ⟨by omega, hspec⟩

end

/-- Whatever was appended and reset: the retained entries are contiguous and within both limits;
a replay of `f` to `t`, applied to any state that is already at a version `c` between them, gives
the state at `t`, whether unknown entities are created or skipped; and there is no replay over a
version that is not retained. -/
theorem journal_replay_exact (capacity maxBytes : Int) (ops : List Op) :
    let j := run marshal capacity maxBytes ops
    let reached := fun apply state f n => applyRange apply (patchAt ops) state f n
    ((∀ e ∈ j.entries, e.version = e.baseVersion + 1) ∧
      j.entries.IsChain (fun a b => b.baseVersion = a.version) ∧
      (j.entries.length : Int) ≤ max capacity 0 ∧
      j.sizeBytes = (j.entries.map fun e => (e.sizeBytes : Int)).sum ∧
      j.sizeBytes ≤ max maxBytes 0) ∧
    (∀ f t d, j.replay marshal f t = some d → ∀ state c, f ≤ c → c ≤ t →
      (reached .merge state f (c - f)).merge d = reached .merge state f (t - f) ∧
      (reached .patchKnown state f (c - f)).patchKnown d = reached .patchKnown state f (t - f)) ∧
    (∀ f t v, f < v → v ≤ t → (∀ e ∈ j.entries, e.version ≠ v) → j.replay marshal f t = none) := by
  intro j reached
  have hk : Kept capacity maxBytes ops j := run_kept marshal capacity maxBytes ops
  refine ⟨⟨hk.version, hk.chain, hk.length_le, hk.size, hk.size_le⟩, ?_, ?_⟩
  · intro f t d hd state c hfc hct
    obtain ⟨-, rfl, -⟩ := replay_spec marshal hk hd
    rw [show t - f = (c - f) + (t - c) by omega]
    constructor
    · exact apply_compact_overlap merge_assoc
        merge_empty _ state f (c - f) (t - c)
    · exact apply_compact_overlap patchKnown_patchKnown
        patchKnown_empty _ state f (c - f) (t - c)
  · intro f t v hfv hvt hmissing
    by_contra hsome
    obtain ⟨d, hd⟩ := Option.ne_none_iff_exists'.1 hsome
    obtain ⟨-, -, hall⟩ := replay_spec marshal hk hd
    obtain ⟨e, he, hev⟩ := hall v hfv hvt
    exact hmissing e he hev

end Marshal

end OverviewJournal

end Theia
