import Theia.Spec.SchedulerOnePlace

/-!
# Due tasks become ready

`moveDueTasksToReady` looks at the root of the heap only, and stops at the first one that is not
due. The heap is ordered by due time, so nothing behind it is due either.
-/

namespace Theia.Scheduler

open List HeapInterface

variable {s : Scheduler} {r : ItemRef}

/-- No entry of the heap is due before its root. -/
theorem HeapOK.root_due (h : HeapOK s) (hroot : s.heap.head? = some r) {q : ItemRef}
    (hq : q ∈ s.heap) : (s.store r).dueAt ≤ (s.store q).dueAt := by
  obtain ⟨i, hi, rfl⟩ := getElem_of_mem hq
  have hle := Prod.Lex.monotone_fst _ _ (h.ordered.root_le hi)
  rw [head?_eq_getElem?] at hroot
  simpa [heapKey, heapItemAt, HeapItem.sortKey, getD, hroot, hi] using hle

/-- The loop ends with a heap in which nothing is due. -/
theorem moveLoop_notDue (now : Time) (fuel : Nat) (h : HeapOK s) (hfuel : s.heap.length ≤ fuel) :
    ∀ q ∈ (moveLoop now fuel s).heap, now < ((moveLoop now fuel s).store q).dueAt := by
  induction fuel generalizing s with
  | zero =>
    intro q hq
    rw [moveLoop, length_eq_zero_iff.1 (Nat.le_zero.1 hfuel)] at hq
    cases hq
  | succ fuel ih =>
    simp only [moveLoop]
    split
    · rename_i hempty
      intro q hq
      rw [head?_eq_none_iff.1 hempty] at hq
      cases hq
    rename_i r hroot
    split
    · rename_i hdue
      intro q hq
      exact hdue.trans_le (h.root_due hroot hq)
    -- the root leaves the heap, so what happens to it does not matter for the rest
    obtain ⟨hstep, hok, -⟩ := heapPop_spec h hroot
    have hmem : r ∈ s.heap := mem_of_mem_head? hroot
    have hgone : ∀ q ∈ s.heapPop.heap, q ≠ r := by
      intro q hq he
      rw [he, hstep.perm.mem_iff] at hq
      exact h.nodup.not_mem_erase hq
    have hnext : ∀ s' : Scheduler, s'.heap = s.heapPop.heap →
        (∀ q, q ≠ r → s'.store q = s.heapPop.store q) →
        ∀ q ∈ (moveLoop now fuel s').heap, now < ((moveLoop now fuel s').store q).dueAt := by
      intro s' hheap hstore
      refine ih (hok.congr hheap fun q hq => ?_) ?_
      · rw [hstore q (hgone q hq)]
        exact ⟨rfl, rfl⟩
      · rw [hheap, hstep.perm.length_eq, length_erase_of_mem hmem]
        omega
    split_ifs
    · exact hnext _ rfl fun _ _ => rfl
    · apply hnext <;> unfold markSkippedWindow <;> split <;> simp +contextual [modify_store]
    · apply hnext <;> unfold markSkippedWindow <;> split <;> simp +contextual [modify_store]
    · apply hnext <;> unfold enqueueReady enqueueWith <;> split <;>
        simp +contextual [modify_store]

theorem markElapsedInFlightWindows_heap (now : Time) (order : List TaskKey) :
    (s.markElapsedInFlightWindows now order).heap = s.heap := by
  have hmark : ∀ (s : Scheduler) (key : TaskKey), (markElapsed now s key).heap = s.heap := by
    intro s key
    unfold markElapsed markSkippedWindow
    split
    · rfl
    · dsimp only
      split_ifs <;> rfl
  unfold markElapsedInFlightWindows
  split
  · rfl
  · exact foldlRecOn (motive := fun t => t.heap = s.heap) order _ rfl fun t ht key _ =>
      (hmark t key).trans ht

/-- In every reachable state: after `moveDueTasksToReady` each scheduled task whose time has come is
in a ready queue, unless it is in flight. -/
theorem due_tasks_ready {tr : List Event} (h : Reached s tr) (now : Time) (order : List TaskKey)
    {k : TaskKey} (hitem : (s.moveDueTasksToReady now order).items.get k = some r)
    (hidle : ((s.moveDueTasksToReady now order).store r).inFlight = false)
    (hdue : ((s.moveDueTasksToReady now order).store r).dueAt ≤ now) :
    r ∈ (s.moveDueTasksToReady now order).readyEntries := by
  have helapsed := markElapsedInFlightWindows_quiet (R := fun _ => True) h.placed now order
  have hrest := moveLoop_notDue now s.heap.length helapsed.placed.heapOK
    (markElapsedInFlightWindows_heap (s := s) now order ▸ le_rfl)
  have hplaced := (moveDueTasksToReady_quiet (R := fun _ => True) h.placed now order).placed
  obtain ⟨place, hat, hheld⟩ := hplaced.place k r hitem
  cases place with
  | heap => exact absurd (hrest r hat.1) hdue.not_gt
  | ready => exact hat.2.1
  | flight => exact absurd (hat.2.2.2.1.symm.trans hidle) (by simp)
  | held => exact absurd (hheld.1 rfl) (by simp)

theorem due_tasks_ready_probe :
    0 ∈ (probeScheduled.moveDueTasksToReady (100 * second) [probeKey]).readyEntries :=
  due_tasks_ready (k := probeKey) probeScheduled_reached _ _ (by decide +kernel)
    (by decide +kernel) (by decide +kernel)

end Theia.Scheduler
