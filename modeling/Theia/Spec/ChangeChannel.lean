import Theia.ForStd.Run
import Theia.Native.ChangeChannel

/-!
# No change notification is lost

Emitters drain and merge each other's batches without a lock. An id that was passed to
`emitChanges` stays in the channel, in the hands of an emitter or behind the overflow flag until
the consumer has received it or has consumed the flag.
-/

namespace Theia

open List Function

/-! ### Coalescing -/

namespace Coalesced

/-- An id is merged, or something was dropped. -/
def Keeps (c : Coalesced) (id : UUID) : Prop := id ∈ c.merged ∨ 0 < c.dropped

variable {c : Coalesced} {id : UUID}

theorem Keeps.addID (h : c.Keeps id) (other : UUID) : (c.addID other).Keeps id := by
  unfold Coalesced.addID
  split
  · exact h
  · split
    · exact .inr (Nat.succ_pos _)
    · obtain hmem | hdropped := h
      · exact .inl (mem_append_left _ hmem)
      · exact .inr hdropped

theorem addID_keeps (c : Coalesced) (id : UUID) : (c.addID id).Keeps id := by
  unfold Coalesced.addID
  split
  · rename_i hmem
    exact .inl hmem
  · split
    · exact .inr (Nat.succ_pos _)
    · exact .inl (by simp)

theorem Keeps.add (h : c.Keeps id) (batch : List UUID) : (c.add batch).Keeps id := by
  induction batch generalizing c with
  | nil => exact h
  | cons other batch ih => exact ih (h.addID other)

theorem add_keeps {batch : List UUID} (h : id ∈ batch) : (c.add batch).Keeps id := by
  induction batch generalizing c with
  | nil => cases h
  | cons other batch ih =>
    obtain rfl | hmem := mem_cons.1 h
    · exact (addID_keeps c id).add batch
    · exact ih hmem

end Coalesced

/-! ### One step -/

namespace Emitter

/-- What an emitter holds: what it was passed and what it has taken from the channel. -/
def held : Emitter → List UUID
  | .idle => []
  | .sending ids => ids
  | .draining _ _ _ taken => taken
  | .resending _ taken => taken
  | .marking taken => taken

/-- What an emitter has taken is not forgotten by its local variables. -/
def Consistent : Emitter → Prop
  | .draining ids coalesced _ taken => ∀ id ∈ taken, id ∈ ids ∨ coalesced.Keeps id
  | .resending coalesced taken => ∀ id ∈ taken, coalesced.Keeps id
  | .idle | .sending _ | .marking _ => True

theorem finish_consistent (dropped : Nat) (taken : List UUID) :
    (finish dropped taken).Consistent := by
  unfold finish
  split <;> trivial

theorem held_finish {dropped : Nat} (h : 0 < dropped) (taken : List UUID) :
    (finish dropped taken).held = taken := by
  rw [finish, if_pos h]
  rfl

end Emitter

/-- The channel carries an id, in a batch or by the overflow flag. -/
def ChangeChannel.Carries (c : ChangeChannel) (id : UUID) : Prop :=
  (∃ batch ∈ c.queue, id ∈ batch) ∨ c.overflowed = true

namespace ChangeChannel

variable {c : ChangeChannel} {id : UUID} {batch : List UUID}

theorem send_carries {sent : ChangeChannel} (h : c.send batch = some sent)
    (hid : id ∈ batch ∨ c.Carries id) : sent.Carries id := by
  unfold send at h
  split at h
  · cases h
    obtain hid | ⟨queued, hqueued, hid⟩ | hoverflowed := hid
    · exact .inl ⟨batch, by simp, hid⟩
    · exact .inl ⟨queued, by simp [hqueued], hid⟩
    · exact .inr hoverflowed
  · cases h

end ChangeChannel

namespace Emitter

open ChangeChannel

variable {c : ChangeChannel} {e : Emitter}

theorem step_spec (h : e.Consistent) :
    (step c e).2.Consistent ∧ ∀ id, id ∈ e.held ∨ c.Carries id →
      id ∈ (step c e).2.held ∨ (step c e).1.Carries id := by
  cases e with
  | idle => exact ⟨trivial, fun id hid => hid⟩
  | sending ids =>
    unfold step
    dsimp only
    cases hsend : c.send ids with
    | some sent => exact ⟨trivial, fun id hid => .inr (send_carries hsend hid)⟩
    | none => exact ⟨fun id hid => .inl hid, fun id hid => hid⟩
  | draining ids coalesced drainedBatches taken =>
    have hadd : ∀ id ∈ taken, (coalesced.add ids).Keeps id := by
      intro id hid
      obtain hmem | hkeeps := h id hid
      · exact Coalesced.add_keeps hmem
      · exact hkeeps.add ids
    unfold step
    dsimp only
    split
    · cases hqueue : c.queue with
      | nil => exact ⟨hadd, fun id hid => hid⟩
      | cons queued rest =>
        constructor
        · intro id hid
          obtain htaken | hqueued := mem_append.1 hid
          · exact (h id htaken).imp_right fun hkeeps => hkeeps.add queued
          · exact .inr (Coalesced.add_keeps hqueued)
        · rintro id (hheld | ⟨batch, hbatch, hid⟩ | hoverflowed)
          · exact .inl (mem_append_left _ hheld)
          · rw [hqueue] at hbatch
            obtain rfl | hrest := mem_cons.1 hbatch
            · exact .inl (mem_append_right _ hid)
            · exact .inr (.inl ⟨batch, hrest, hid⟩)
          · exact .inr (.inr hoverflowed)
    · exact ⟨hadd, fun id hid => hid⟩
  | resending coalesced taken =>
    unfold step
    dsimp only
    split_ifs with hnil
    · refine ⟨finish_consistent _ _, fun id hid => hid.imp_left fun hheld => ?_⟩
      -- nothing was merged, so the id was dropped
      rw [held_finish ((h id hheld).resolve_left (by simp [hnil]))]
      exact hheld
    · cases hsend : c.send coalesced.merged with
      | some sent =>
        refine ⟨finish_consistent _ _, ?_⟩
        rintro id (hheld | hcarries)
        · obtain hmerged | hdropped := h id hheld
          · exact .inr (send_carries hsend (.inl hmerged))
          · rw [held_finish hdropped]
            exact .inl hheld
        · exact .inr (send_carries hsend (.inr hcarries))
      | none =>
        have hpos := length_pos_iff.2 hnil
        refine ⟨finish_consistent _ _, fun id hid => ?_⟩
        rw [held_finish (by omega)]
        exact hid
  | marking taken => exact ⟨trivial, fun id _ => .inr (.inr rfl)⟩

end Emitter

/-! ### Runs -/

namespace ChangeSystem

variable {ι : Type} [DecidableEq ι] {s s' : ChangeSystem ι} {id : UUID}
  {events before after : List ChangeEvent} {ids : List UUID}

/-- An id is in the channel or with an emitter. -/
def Covered (s : ChangeSystem ι) (id : UUID) : Prop :=
  s.channel.Carries id ∨ ∃ i, id ∈ (s.emitters i).held

/-- All emitters are consistent. -/
def Consistent (s : ChangeSystem ι) : Prop := ∀ i, (s.emitters i).Consistent

/-- The consumer has received an id, or has consumed the overflow flag. -/
def Delivered (events : List ChangeEvent) (id : UUID) : Prop :=
  (∃ batch, .received batch ∈ events ∧ id ∈ batch) ∨ .consumed true ∈ events

theorem Step.consistent (h : Step s events s') (hs : s.Consistent) : s'.Consistent := by
  intro j
  cases h with
  | call i ids hidle =>
    dsimp only
    by_cases hj : j = i
    · rw [hj, update_self, Emitter.call]
      split <;> trivial
    · rw [update_of_ne hj]
      exact hs j
  | emit i =>
    dsimp only
    by_cases hj : j = i
    · rw [hj, update_self]
      exact (Emitter.step_spec (hs i)).1
    · rw [update_of_ne hj]
      exact hs j
  | receive | consume => exact hs j

theorem Step.covered_call (h : Step s [.called ids] s') (hid : id ∈ ids) : s'.Covered id := by
  cases h with
  | call i ids hidle =>
    right
    refine ⟨i, ?_⟩
    dsimp only
    rw [update_self, Emitter.call, if_neg (ne_nil_of_mem hid)]
    exact hid

/-- A covered id stays covered until it is delivered. -/
theorem step_covered (h : Step s events s') (hs : s.Consistent) (hid : s.Covered id) :
    s'.Covered id ∨ Delivered events id := by
  cases h with
  | call i ids hidle =>
    left
    obtain hcarries | ⟨j, hj⟩ := hid
    · exact .inl hcarries
    -- the emitter that begins a call was idle and held nothing
    have hne : j ≠ i := by
      rintro rfl
      rw [hidle] at hj
      cases hj
    refine .inr ⟨j, ?_⟩
    dsimp only
    rw [update_of_ne hne]
    exact hj
  | emit i =>
    left
    have hown : id ∈ (s.emitters i).held ∨ s.channel.Carries id →
        Covered { channel := (Emitter.step s.channel (s.emitters i)).1
                  emitters := update s.emitters i
                    (Emitter.step s.channel (s.emitters i)).2 } id := by
      intro hid
      obtain hheld | hcarries := (Emitter.step_spec (hs i)).2 id hid
      · refine .inr ⟨i, ?_⟩
        dsimp only
        rw [update_self]
        exact hheld
      · exact .inl hcarries
    obtain hcarries | ⟨j, hj⟩ := hid
    · exact hown (.inr hcarries)
    by_cases hji : j = i
    · subst hji
      exact hown (.inl hj)
    · refine .inr ⟨j, ?_⟩
      dsimp only
      rw [update_of_ne hji]
      exact hj
  | receive hqueue =>
    rename_i batch rest
    obtain (⟨queued, hqueued, hmem⟩ | hoverflowed) | hheld := hid
    · rw [hqueue] at hqueued
      obtain rfl | hrest := mem_cons.1 hqueued
      · exact .inr (.inl ⟨queued, mem_singleton_self _, hmem⟩)
      · exact .inl (.inl (.inl ⟨queued, hrest, hmem⟩))
    · exact .inl (.inl (.inr hoverflowed))
    · exact .inl (.inr hheld)
  | consume =>
    obtain (hqueued | hoverflowed) | hheld := hid
    · exact .inl (.inl (.inl hqueued))
    · right
      right
      simp [ChangeChannel.consumeOverflowed, hoverflowed]
    · exact .inl (.inr hheld)

/-- The system before any call. -/
def Initial (s : ChangeSystem ι) : Prop := s = {}

theorem run_consistent (h : Run Initial Step s events) : s.Consistent := by
  refine h.invariant (P := fun s _ => s.Consistent) ?_ ?_
  · intro s hs i
    rw [hs]
    trivial
  · intro s _ es s' _ hs hstep
    exact hstep.consistent hs

theorem Step.eq_call (h : Step s events s')
    (hevents : events = before ++ .called ids :: after) : before = [] ∧ after = [] := by
  have hlength : events.length ≤ 1 := by
    cases h <;> simp
  rw [hevents, length_append, length_cons] at hlength
  constructor
  · exact eq_nil_of_length_eq_zero (by omega)
  · exact eq_nil_of_length_eq_zero (by omega)

theorem run_covered (h : Run Initial Step s events)
    (hevents : events = before ++ .called ids :: after) (hid : id ∈ ids) :
    s.Covered id ∨ Delivered after id := by
  refine h.invariant (P := fun s events => ∀ before after,
    events = before ++ .called ids :: after → s.Covered id ∨ Delivered after id) ?_ ?_
    before after hevents
  · intro s _ before after hevents
    simp at hevents
  intro s events es s' hrun ih hstep before after hevents
  obtain ⟨rest, hrest, hsplit⟩ | ⟨rest, -, hsplit⟩ := append_eq_append_iff.1 hevents.symm
  · cases rest with
    | nil =>
      -- the call is this step
      have hcall : es = [] ++ .called ids :: after := hsplit.symm
      obtain ⟨-, rfl⟩ := hstep.eq_call hcall
      subst hcall
      exact .inl (hstep.covered_call hid)
    | cons event rest =>
      -- the call is an earlier one
      obtain ⟨rfl, rfl⟩ := List.cons.inj hsplit
      obtain hcovered | hdelivered := ih before rest hrest
      · obtain hnext | ⟨batch, hbatch, hmem⟩ | hconsumed :=
          step_covered hstep (run_consistent hrun) hcovered
        · exact .inl hnext
        · exact .inr (.inl ⟨batch, mem_append_right _ hbatch, hmem⟩)
        · exact .inr (.inr (mem_append_right _ hconsumed))
      · obtain ⟨batch, hbatch, hmem⟩ | hconsumed := hdelivered
        · exact .inr (.inl ⟨batch, mem_append_left _ hbatch, hmem⟩)
        · exact .inr (.inr (mem_append_left _ hconsumed))
  · obtain ⟨rfl, rfl⟩ := hstep.eq_call hsplit
    subst hsplit
    exact .inl (hstep.covered_call hid)

/-- Every id of a call is in the channel, with an emitter or behind the overflow flag, or was
delivered after the call began. -/
theorem changes_not_lost {before after : List ChangeEvent} {ids : List UUID}
    (h : Run Initial Step s (before ++ .called ids :: after)) (hid : id ∈ ids) :
    (∃ batch, .received batch ∈ after ∧ id ∈ batch) ∨ .consumed true ∈ after ∨
      (∃ batch ∈ s.channel.queue, id ∈ batch) ∨ (∃ i, id ∈ (s.emitters i).held) ∨
      s.channel.overflowed = true := by
  obtain ((hqueued | hoverflowed) | hheld) | (hreceived | hconsumed) := run_covered h rfl hid
  · exact .inr (.inr (.inl hqueued))
  · exact .inr (.inr (.inr (.inr hoverflowed)))
  · exact .inr (.inr (.inr (.inl hheld)))
  · exact .inl hreceived
  · exact .inr (.inl hconsumed)

/-- One of two goroutines has put `n` batches in the channel. -/
theorem run_filled (n : Nat) (hn : n ≤ changesCapacity) :
    Run Initial Step ({ channel := { queue := replicate n [7#128] } } : ChangeSystem Bool)
      (replicate n (.called [7#128])) := by
  induction n with
  | zero => exact .init rfl
  | succ n ih =>
    have hroom : (replicate n [7#128]).length < changesCapacity := by
      rw [length_replicate]
      omega
    have hsent := ((ih (by omega)).step (.call false [7#128] rfl)).step (.emit false)
    simp only [Emitter.call, reduceCtorEq, if_false, update_self, Emitter.step,
      ChangeChannel.send, if_pos hroom, update_idem, append_nil] at hsent
    rw [replicate_succ', replicate_succ']
    rwa [update_eq_self_iff.2 rfl] at hsent

/-- The channel is full when the other goroutine passes device 8 to `emitChanges`. It takes a batch
out, and the first one sends device 9 meanwhile. -/
theorem changes_not_lost_full :
    ∃ s : ChangeSystem Bool, Run Initial Step s
        (replicate changesCapacity (.called [7#128]) ++ .called [8#128] :: [.called [9#128]]) ∧
      ((∃ batch, .received batch ∈ [ChangeEvent.called [9#128]] ∧ 8#128 ∈ batch) ∨
        .consumed true ∈ [ChangeEvent.called [9#128]] ∨
        (∃ batch ∈ s.channel.queue, 8#128 ∈ batch) ∨ (∃ i, 8#128 ∈ (s.emitters i).held) ∨
        s.channel.overflowed = true) := by
  have hfull := ((run_filled changesCapacity le_rfl).step (.call true [8#128] rfl)).step (.emit true)
  have hsent := ((hfull.step (.emit true)).step (.call false [9#128] rfl)).step (.emit false)
  simp only [append_nil, append_assoc, singleton_append] at hsent
  exact ⟨_, hsent, changes_not_lost hsent (mem_singleton_self _)⟩

end ChangeSystem

/-! ### An emitter that runs alone -/

namespace Emitter

/-- The atomic steps of one emitter on a channel that no one else uses. -/
def steps (n : Nat) (c : ChangeChannel) (e : Emitter) : ChangeChannel × Emitter :=
  (fun p => step p.1 p.2)^[n] (c, e)

theorem steps_succ (n : Nat) (c : ChangeChannel) (e : Emitter) :
    steps (n + 1) c e = steps n (step c e).1 (step c e).2 := rfl

theorem steps_add (m n : Nat) (c : ChangeChannel) (e : Emitter) :
    steps (m + n) c e = steps m (steps n c e).1 (steps n c e).2 := by
  rw [steps, iterate_add_apply]
  rfl

/-- The loop of `coalesceQueuedChanges` on a bounded channel takes every queued batch. -/
theorem steps_draining (ids : List UUID) :
    ∀ (queue : List (List UUID)) (overflowed : Bool) (coalesced : Coalesced) (drained : Nat)
      (taken : List UUID), drained + queue.length ≤ changesCapacity →
      ∃ n taken', steps n { queue, overflowed } (.draining ids coalesced drained taken) =
        ({ overflowed }, .resending ((queue.foldl Coalesced.add coalesced).add ids) taken') := by
  intro queue overflowed
  induction queue with
  | nil =>
    intro coalesced drained taken _
    refine ⟨1, taken, ?_⟩
    rw [steps_succ, step]
    split <;> rfl
  | cons queued rest ih =>
    intro coalesced drained taken hbound
    rw [length_cons] at hbound
    obtain ⟨n, taken', hn⟩ := ih (coalesced.add queued) (drained + 1) (taken ++ queued) (by omega)
    refine ⟨n + 1, taken', ?_⟩
    rw [steps_succ, step, if_pos (by omega)]
    exact hn

/-- The end of `emitChanges`. -/
theorem steps_finish (c : ChangeChannel) (dropped : Nat) (taken : List UUID) :
    ∃ n, steps n c (finish dropped taken) =
      (if 0 < dropped then c.markChangesOverflowed else c, .idle) := by
  unfold finish
  split
  · exact ⟨1, rfl⟩
  · exact ⟨0, rfl⟩

end Emitter

/-- An emitter that is not interrupted computes `emitChanges`. -/
theorem emitChanges_eq_steps (c : ChangeChannel) (ids : List UUID)
    (hbound : c.queue.length ≤ changesCapacity) :
    ∃ n, Emitter.steps n c (.call ids) = (c.emitChanges ids, .idle) := by
  unfold Emitter.call ChangeChannel.emitChanges
  split
  · exact ⟨0, rfl⟩
  cases hsend : c.send ids with
  | some sent =>
    refine ⟨1, ?_⟩
    rw [Emitter.steps_succ, Emitter.step, hsend]
    rfl
  | none =>
    obtain ⟨n, taken, hn⟩ := Emitter.steps_draining ids c.queue c.overflowed {} 0 ids (by simpa)
    have htake : c.queue.take changesCapacity = c.queue := take_of_length_le hbound
    have hdrop : c.queue.drop changesCapacity = [] := drop_of_length_le hbound
    rw [ChangeChannel.coalesceQueuedChanges, htake, hdrop]
    -- one step for the failed send, the loop, the second send and the end
    generalize (c.queue.foldl Coalesced.add {}).add ids = coalesced at hn ⊢
    have hdrain : Emitter.steps (n + 1) c (.sending ids) =
        ({ overflowed := c.overflowed }, .resending coalesced taken) := by
      rw [Emitter.steps_succ, Emitter.step, hsend]
      exact hn
    suffices hend : ∃ m, Emitter.steps (m + 1) { overflowed := c.overflowed }
        (.resending coalesced taken) = _ by
      obtain ⟨m, hm⟩ := hend
      refine ⟨m + 1 + (n + 1), ?_⟩
      rw [Emitter.steps_add, hdrain]
      exact hm
    simp only [Emitter.steps_succ, Emitter.step]
    split
    · exact Emitter.steps_finish _ _ _
    · cases ChangeChannel.send { overflowed := c.overflowed } coalesced.merged with
      | some | none => exact Emitter.steps_finish _ _ _

theorem ChangeChannel.emitChanges_carries {c : ChangeChannel} {ids : List UUID} {id : UUID}
    (h : id ∈ ids) : (c.emitChanges ids).Carries id := by
  unfold ChangeChannel.emitChanges
  rw [if_neg (ne_nil_of_mem h)]
  cases hsend : c.send ids with
  | some sent => exact send_carries hsend (.inl h)
  | none =>
    unfold coalesceQueuedChanges
    dsimp only
    have hkeeps : (((c.queue.take changesCapacity).foldl Coalesced.add {}).add ids).Keeps id :=
      Coalesced.add_keeps h
    generalize ((c.queue.take changesCapacity).foldl Coalesced.add {}).add ids = coalesced at *
    -- what is not sent again counts as dropped, and then the flag is set
    split
    · rename_i hempty
      have hdropped : 0 < coalesced.dropped := by
        rcases hkeeps with hmem | hdropped
        · rw [hempty] at hmem
          cases hmem
        · exact hdropped
      rw [if_pos hdropped]
      exact .inr rfl
    · rename_i hne
      split
      · rename_i sent hresend
        split_ifs with hdropped
        · exact .inr rfl
        · exact send_carries hresend (.inl (hkeeps.resolve_right hdropped))
      · have hlength := length_pos_iff.2 hne
        rw [if_pos (by omega)]
        exact .inr rfl

end Theia
