import Theia.Native.Scheduler

/-!
# The scheduler's due heap

The heap operations of `heap.go` keep every stored index equal to the position of its item,
keep the heap ordered, and touch nothing else of the scheduler.
-/

namespace Theia.Scheduler

open List HeapInterface

variable {s t : Scheduler} {r : ItemRef} {es : List ItemRef}

/-! ### Field lemmas -/

section Fields

variable (s) (f : HeapItem → HeapItem)

theorem modify_store_ne {q : ItemRef} (h : q ≠ r) : (s.modify r f).store q = s.store q := by
  simp [modify, h]

variable (r)

@[simp] theorem modify_items : (s.modify r f).items = s.items := rfl

@[simp] theorem modify_heap : (s.modify r f).heap = s.heap := rfl

@[simp] theorem modify_ready : (s.modify r f).ready = s.ready := rfl

@[simp] theorem modify_nextRef : (s.modify r f).nextRef = s.nextRef := rfl

@[simp] theorem modify_store_self : (s.modify r f).store r = f (s.store r) := by
  simp [modify]

theorem modify_store (q : ItemRef) :
    (s.modify r f).store q = if q = r then f (s.store r) else s.store q := by
  simp [modify, Function.update_apply]

@[simp] theorem enqueueReady_items : (s.enqueueReady r).items = s.items := by
  unfold enqueueReady enqueueWith
  split <;> rfl

@[simp] theorem pushReadyFront_items : (s.pushReadyFront r).items = s.items := by
  unfold pushReadyFront enqueueWith
  split <;> rfl

@[simp] theorem removeReadyItem_items : (s.removeReadyItem r).items = s.items := by
  unfold removeReadyItem
  split <;> rfl

end Fields

/-! ### The order of the heap -/

/-- What `taskHeap.Less` compares: due time, then priority, then the device's identifier. -/
def HeapItem.sortKey (item : HeapItem) : Int ×ₗ (Int ×ₗ String) :=
  toLex (item.dueAt, toLex (heapPriority item.task, item.task.key.deviceID.toString))

/-- The key at a heap position. -/
def heapKey (s : Scheduler) (i : Nat) : Int ×ₗ (Int ×ₗ String) := HeapItem.sortKey (s.heapItemAt i)

theorem sortKey_eq_of_index {a b : HeapItem} (h : b = { a with index := b.index }) :
    HeapItem.sortKey b = HeapItem.sortKey a := by
  rw [h]; rfl

/-- `heapSwap` in range, with the two entries named. -/
theorem heapSwap_eq {i j : Nat} {a b : ItemRef} (hi : s.heap[i]? = some a)
    (hj : s.heap[j]? = some b) : s.heapSwap i j =
      (({ s with heap := (s.heap.set i b).set j a }.modify b
        fun item => { item with index := i }).modify a fun item => { item with index := j }) := by
  simp [heapSwap, hi, hj]

section Swap

variable (s) (i j : Nat)

theorem heapLess_iff : s.heapLess i j = true ↔ s.heapKey i < s.heapKey j := by
  simp only [heapLess, heapKey, HeapItem.sortKey, Prod.Lex.toLex_lt_toLex]
  split
  · rename_i h
    simp [h]
  rename_i h
  simp only [ne_eq, not_not] at h
  split_ifs with hp
  · simp [h, hp]
  · simp only [ne_eq, not_not] at hp
    simp [h, hp]

theorem heapSwap_length : (s.heapSwap i j).heap.length = s.heap.length := by
  unfold heapSwap
  split <;> simp

theorem heapSwap_getElem? (k : Nat) (hi : i < s.heap.length) (hj : j < s.heap.length) :
    (s.heapSwap i j).heap[k]? = s.heap[Equiv.swap i j k]? := by
  obtain ⟨a, ha⟩ : ∃ a, s.heap[i]? = some a := ⟨_, List.getElem?_eq_getElem hi⟩
  obtain ⟨b, hb⟩ : ∃ b, s.heap[j]? = some b := ⟨_, List.getElem?_eq_getElem hj⟩
  rw [heapSwap_eq ha hb]
  by_cases hkj : j = k
  · subst hkj
    simp [ha, hj]
  · by_cases hki : i = k
    · subst hki
      simp [hkj, hi, hb]
    · rw [Equiv.swap_apply_of_ne_of_ne (Ne.symm hki) (Ne.symm hkj)]
      simp [hkj, hki]

theorem heapSwap_store (q : ItemRef) :
    (s.heapSwap i j).store q = { s.store q with index := ((s.heapSwap i j).store q).index } := by
  unfold heapSwap
  split
  · simp only [modify_store]
    split <;> split <;> simp_all
  · rfl

theorem heapSwap_store_off {q : ItemRef} (hq : q ∉ s.heap) :
    (s.heapSwap i j).store q = s.store q := by
  unfold heapSwap
  split
  · rename_i a b ha hb
    have hqa : q ≠ a := fun h => hq (h ▸ mem_of_getElem? ha)
    have hqb : q ≠ b := fun h => hq (h ▸ mem_of_getElem? hb)
    rw [modify_store_ne _ _ hqa, modify_store_ne _ _ hqb]
  · rfl

theorem heapSwap_perm : (s.heapSwap i j).heap.Perm s.heap := by
  unfold heapSwap
  split
  · rename_i a b ha hb
    obtain ⟨hi, rfl⟩ := List.getElem?_eq_some_iff.1 ha
    obtain ⟨hj, rfl⟩ := List.getElem?_eq_some_iff.1 hb
    exact set_set_perm hi hj
  · exact List.Perm.refl _

theorem heapSwap_frame :
    s.heapSwap i j = { s with heap := (s.heapSwap i j).heap, store := (s.heapSwap i j).store } := by
  unfold heapSwap
  split <;> rfl

end Swap

/-! The heap operations do not touch the item map. -/

/-- `s'` differs from `s` in the heap and in the positions that items remember. -/
structure IndexOnly (s s' : Scheduler) : Prop where
  item : ∀ q, s'.store q = { s.store q with index := (s'.store q).index }
  frame : s' = { s with heap := s'.heap, store := s'.store }

theorem IndexOnly.refl (s : Scheduler) : IndexOnly s s := ⟨fun _ => rfl, rfl⟩

theorem IndexOnly.trans {u : Scheduler} (h : IndexOnly s t) (h' : IndexOnly t u) :
    IndexOnly s u where
  item q := by rw [h'.item q, h.item q]
  frame := by rw [h'.frame, h.frame]

theorem IndexOnly.items_eq {s' : Scheduler} (h : IndexOnly s s') : s'.items = s.items := by
  rw [h.frame]

theorem heapSwap_indexOnly (t : Scheduler) (i j : Nat) (h : IndexOnly s t) :
    IndexOnly s (heapOps.swap t i j) :=
  h.trans ⟨heapSwap_store t i j, heapSwap_frame t i j⟩

section

variable (s) (r) (i : Nat)

theorem heapAppend_indexOnly : IndexOnly s (s.heapAppend r) where
  item q := by
    by_cases hq : q = r
    · subst hq
      simp [heapAppend]
    · simp [heapAppend, modify_store, hq]
  frame := rfl

theorem heapDropLast_indexOnly : IndexOnly s s.heapDropLast := by
  unfold heapDropLast
  split
  · rename_i r _
    refine ⟨fun q => ?_, rfl⟩
    by_cases hq : q = r
    · subst hq
      simp
    · simp [modify_store, hq]
  · exact .refl s

theorem heapPush_indexOnly : IndexOnly s (s.heapPush r) :=
  up_induct (P := fun t => IndexOnly s t) heapOps (fun t i j _ _ => heapSwap_indexOnly t i j)
    _ _ (Nat.lt_succ_self _) (heapAppend_indexOnly s r)

theorem heapFix_indexOnly : IndexOnly s (s.heapFix i) :=
  sift_preserves (P := fun t => IndexOnly s t) heapOps heapSwap_indexOnly s i _ (.refl s)

theorem heapPop_indexOnly : IndexOnly s s.heapPop := by
  have hsift : IndexOnly s (heapOps.popSift s) :=
    down_induct (P := fun t => IndexOnly s t) heapOps (fun t i j _ _ => heapSwap_indexOnly t i j)
      _ 0 (heapSwap_indexOnly s _ _ (.refl s))
  exact hsift.trans (heapDropLast_indexOnly _)

theorem heapRemove_indexOnly : IndexOnly s (s.heapRemove i) := by
  have hsift : IndexOnly s (heapOps.removeSift s i) := by
    unfold removeSift
    split
    · exact sift_preserves (P := fun t => IndexOnly s t) heapOps heapSwap_indexOnly _ i _
        (heapSwap_indexOnly s _ _ (.refl s))
    · exact .refl s
  exact hsift.trans (heapDropLast_indexOnly _)

@[simp] theorem heapPush_items : (s.heapPush r).items = s.items :=
  (heapPush_indexOnly s r).items_eq

@[simp] theorem heapFix_items : (s.heapFix i).items = s.items :=
  (heapFix_indexOnly s i).items_eq

@[simp] theorem heapPop_items : s.heapPop.items = s.items :=
  (heapPop_indexOnly s).items_eq

@[simp] theorem heapRemove_items : (s.heapRemove i).items = s.items :=
  (heapRemove_indexOnly s i).items_eq

end

theorem heapOps_lawful : Lawful heapOps heapKey where
  less_iff := heapLess_iff
  len_swap := heapSwap_length
  key_swap s i j k hi hj := by
    have hk : (s.heapSwap i j).heap.getD k 0 = s.heap.getD (Equiv.swap i j k) 0 := by
      rw [getD_eq_getElem?_getD, getD_eq_getElem?_getD, heapSwap_getElem? s i j k hi hj]
    show HeapItem.sortKey ((s.heapSwap i j).store ((s.heapSwap i j).heap.getD k 0)) = _
    rw [hk, sortKey_eq_of_index (heapSwap_store s i j _)]
    rfl

/-! ### What one heap operation does -/

/-- Every stored index is the position of its item, no item is in the heap twice. -/
structure Indexed (s : Scheduler) : Prop where
  nodup : s.heap.Nodup
  index_eq : ∀ (i : Nat) (r : ItemRef), s.heap[i]? = some r → (s.store r).index = i

/-- The heap is indexed and ordered. -/
structure HeapOK (s : Scheduler) : Prop extends Indexed s where
  ordered : IsHeap heapKey s s.heap.length

/-- The heap of `s` is in order in `s'` when its entries keep their index and their sort key. -/
theorem HeapOK.congr {s' : Scheduler} (h : HeapOK s) (hheap : s'.heap = s.heap)
    (hitem : ∀ q ∈ s.heap, (s'.store q).index = (s.store q).index ∧
      HeapItem.sortKey (s'.store q) = HeapItem.sortKey (s.store q)) : HeapOK s' := by
  have hkey : ∀ i, i < s.heap.length → s'.heapKey i = s.heapKey i := by
    intro i hil
    have hmem : s.heap.getD i 0 ∈ s.heap := by
      rw [getD_eq_getElem _ _ hil]; exact getElem_mem hil
    simp only [heapKey, heapItemAt, hheap]
    exact (hitem _ hmem).2
  refine ⟨⟨hheap ▸ h.nodup, fun i q hiq => ?_⟩, fun c hc hcn => ?_⟩
  · rw [hheap] at hiq
    rw [(hitem q (mem_of_getElem? hiq)).1]
    exact h.index_eq i q hiq
  · rw [hheap] at hcn
    have hpc := parent_lt hc
    rw [hkey c hcn, hkey (parent c) (by omega)]
    exact h.ordered c hc hcn

/-- From `s` to `s'` only the heap's arrangement and the stored indexes changed, and the heap
now has the entries `entries`. -/
structure HeapStep (s s' : Scheduler) (entries : List ItemRef) : Prop where
  perm : s'.heap.Perm entries
  item : ∀ q, s'.store q = { s.store q with index := (s'.store q).index }
  off : ∀ q, q ∉ s.heap → q ∉ entries → s'.store q = s.store q
  frame : s' = { s with heap := s'.heap, store := s'.store }

theorem HeapStep.refl (s : Scheduler) : HeapStep s s s.heap :=
  ⟨List.Perm.refl _, fun _ => rfl, fun _ _ _ => rfl, rfl⟩

theorem heapSwap_step (i j : Nat) (hi : i < t.heap.length) (hj : j < t.heap.length)
    (h : HeapStep s t es ∧ Indexed t) :
    HeapStep s (t.heapSwap i j) es ∧ Indexed (t.heapSwap i j) := by
  obtain ⟨hs, hix⟩ := h
  have hperm := heapSwap_perm t i j
  refine ⟨⟨hperm.trans hs.perm, ?_, ?_, ?_⟩, hperm.nodup_iff.2 hix.nodup, ?_⟩
  · intro q
    rw [heapSwap_store t i j q, hs.item q]
  · intro q hq he
    rw [heapSwap_store_off t i j (fun hm => he (hs.perm.mem_iff.1 hm)), hs.off q hq he]
  · rw [heapSwap_frame t i j, hs.frame]
  intro k r hk
  rw [heapSwap_getElem? t i j k hi hj] at hk
  obtain ⟨a, ha⟩ : ∃ a, t.heap[i]? = some a := ⟨_, List.getElem?_eq_getElem hi⟩
  obtain ⟨b, hb⟩ : ∃ b, t.heap[j]? = some b := ⟨_, List.getElem?_eq_getElem hj⟩
  -- positions of a duplicate-free heap are determined by their entries
  have huniq : ∀ {m n : Nat} {q : ItemRef}, t.heap[m]? = some q → t.heap[n]? = some q → m = n := by
    intro m n q hm hn
    have h1 := hix.index_eq m q hm
    have h2 := hix.index_eq n q hn
    omega
  rw [heapSwap_eq ha hb]
  by_cases hkj : k = j
  · subst hkj
    rw [Equiv.swap_apply_right, ha] at hk
    obtain rfl := Option.some.inj hk
    simp
  · by_cases hki : k = i
    · subst hki
      rw [Equiv.swap_apply_left, hb] at hk
      obtain rfl := Option.some.inj hk
      have hab : b ≠ a := fun h => hkj (huniq ha (h ▸ hb))
      rw [modify_store_ne _ _ hab]
      simp
    · rw [Equiv.swap_apply_of_ne_of_ne hki hkj] at hk
      have hra : r ≠ a := fun h => hki (huniq hk (h ▸ ha))
      have hrb : r ≠ b := fun h => hkj (huniq hk (h ▸ hb))
      rw [modify_store_ne _ _ hra, modify_store_ne _ _ hrb]
      exact hix.index_eq k r hk

/-- `heapSwap_step` in the form of the sifting rules: swaps below the number of entries. -/
theorem heapSwap_step_below {n : Nat} (hn : n ≤ es.length) (t : Scheduler) (i j : Nat) (hi : i < n)
    (hj : j < n) (h : HeapStep s t es ∧ Indexed t) :
    HeapStep s (t.heapSwap i j) es ∧ Indexed (t.heapSwap i j) := by
  have hlen := h.1.perm.length_eq
  exact heapSwap_step i j (by omega) (by omega) h

theorem heapAppend_step (hix : Indexed s) (hr : r ∉ s.heap) :
    HeapStep s (s.heapAppend r) (s.heap ++ [r]) ∧ Indexed (s.heapAppend r) := by
  refine ⟨⟨List.Perm.refl _, ?_, ?_, rfl⟩, ?_, ?_⟩
  · intro q
    simp only [heapAppend, modify_store]
    split <;> simp_all
  · intro q _ hq
    have hqr : q ≠ r := fun h => hq (by simp [h])
    simp only [heapAppend]
    exact modify_store_ne _ _ hqr
  · exact nodup_append.2 ⟨hix.nodup, nodup_singleton r, fun q hq q' hq' h =>
      hr (mem_singleton.1 hq' ▸ h ▸ hq)⟩
  intro i q hi
  simp only [heapAppend, modify_heap, List.getElem?_append] at hi
  simp only [heapAppend, modify_store]
  split at hi
  · have hqr : q ≠ r := fun e => hr (e ▸ mem_of_getElem? hi)
    rw [if_neg hqr]
    exact hix.index_eq i q hi
  · obtain ⟨hlt, rfl⟩ := List.getElem?_eq_some_iff.1 hi
    simp only [length_singleton] at hlt
    simp only [getElem_singleton, if_true]
    omega

theorem heapDropLast_step (hix : Indexed s) (hs : s.heap = es ++ [r]) :
    HeapStep s s.heapDropLast es ∧ Indexed s.heapDropLast ∧ (s.heapDropLast.store r).index = -1 := by
  have hnd := hix.nodup
  rw [hs] at hnd
  have hr : r ∉ es := fun h => (nodup_append.1 hnd).2.2 r h r (by simp) rfl
  have hdrop : s.heapDropLast =
      { s.modify r (fun item => { item with index := -1 }) with heap := es } := by
    simp [heapDropLast, hs]
  rw [hdrop]
  refine ⟨⟨List.Perm.refl _, ?_, ?_, rfl⟩, ⟨(nodup_append.1 hnd).1, ?_⟩, by simp⟩
  · intro q
    simp only [modify_store]
    split <;> simp_all
  · intro q hq _
    have hqr : q ≠ r := fun h => hq (by simp [hs, h])
    simp [modify_store, if_neg hqr]
  · intro i q hi
    have hqr : q ≠ r := fun e => hr (e ▸ mem_of_getElem? hi)
    have hi' : s.heap[i]? = some q := by
      rw [hs, List.getElem?_append_left (List.getElem?_eq_some_iff.1 hi).1]
      exact hi
    simp only [modify_store, if_neg hqr]
    exact hix.index_eq i q hi'

theorem HeapStep.heapKey_eq (h : HeapStep s t es) {i j : Nat}
    (hij : t.heap.getD i 0 = s.heap.getD j 0) : t.heapKey i = s.heapKey j := by
  simp only [heapKey, heapItemAt, hij]
  exact sortKey_eq_of_index (h.item _)

/-- `heap.Push` of an item that is not in the heap. -/
theorem heapPush_spec (hok : HeapOK s) (hr : r ∉ s.heap) :
    HeapStep s (s.heapPush r) (s.heap ++ [r]) ∧ HeapOK (s.heapPush r) := by
  obtain ⟨hst, hix⟩ := heapAppend_step hok.toIndexed hr
  have hlen : (s.heapAppend r).heap.length = s.heap.length + 1 := by simp [heapAppend]
  have hup : HeapStep s (s.heapPush r) (s.heap ++ [r]) ∧ Indexed (s.heapPush r) :=
    up_induct heapOps (heapSwap_step_below hst.perm.length_eq.le) _ _ (by omega) ⟨hst, hix⟩
  refine ⟨hup.1, hup.2, ?_⟩
  have hlen' : (s.heapPush r).heap.length = s.heap.length + 1 := by
    rw [hup.1.perm.length_eq]; simp
  -- the appended position is the only one that may be out of order, and it has no children
  refine up_ordered heapOps_lawful (by omega) (by show _ ≤ (s.heapAppend r).heap.length; omega) ?_ ?_
  · constructor
    · intro c hc hcn hcl hpl
      have hp := parent_lt hc
      have hkey : ∀ i, i < s.heap.length → (s.heapAppend r).heapKey i = s.heapKey i := by
        intro i hi
        refine hst.heapKey_eq ?_
        simp [heapAppend, modify_heap, List.getElem?_append_left hi]
      rw [hkey c (by omega), hkey (parent c) (by omega)]
      exact hok.ordered c hc (by omega)
    · intro c hc hcn hpc _
      have hp := parent_lt hc
      omega
  · intro c hc hcn hpc
    have hp := parent_lt hc
    omega

/-- The common end of `heap.Pop` and `heap.Remove`: the removed item sits last, the rest is a
heap. -/
theorem heapDropLast_spec (hst : HeapStep s t s.heap) (hix : Indexed t)
    (hlast : t.heap.getLast? = some r) (hord : IsHeap heapKey t (t.heap.length - 1)) :
    HeapStep s t.heapDropLast (s.heap.erase r) ∧ HeapOK t.heapDropLast ∧
      (t.heapDropLast.store r).index = -1 := by
  obtain ⟨es, hes⟩ := List.getLast?_eq_some_iff.1 hlast
  obtain ⟨hdrop, hix', hidx⟩ := heapDropLast_step hix hes
  have hheap : t.heapDropLast.heap = es := by simp [heapDropLast, hes]
  have hperm : es.Perm (s.heap.erase r) := by
    have h1 : (r :: es).Perm s.heap := by
      refine List.Perm.trans ?_ hst.perm
      rw [hes]
      exact (perm_append_singleton r es).symm
    have h2 := h1.erase r
    rwa [erase_cons_head] at h2
  refine ⟨⟨by rw [hheap]; exact hperm, ?_, ?_, ?_⟩, ⟨hix', ?_⟩, hidx⟩
  · intro q
    rw [hdrop.item q, hst.item q]
  · intro q hq he
    have hqt : q ∉ t.heap := fun h => hq (hst.perm.mem_iff.1 h)
    rw [hdrop.off q hqt (fun h => he (hperm.mem_iff.1 h)), hst.off q hq hq]
  · rw [hdrop.frame, hst.frame]
  have hlen : t.heap.length - 1 = es.length := by simp [hes]
  rw [hheap]
  intro c hc hcn
  have hp := parent_lt hc
  have hkey : ∀ i, i < es.length → t.heapDropLast.heapKey i = t.heapKey i := by
    intro i hi
    refine hdrop.heapKey_eq ?_
    rw [hheap, hes, getD_eq_getElem?_getD, getD_eq_getElem?_getD, List.getElem?_append_left hi]
  rw [hkey c hcn, hkey (parent c) (by omega)]
  exact hord c hc (by omega)

theorem heapSwap_last_step {i : Nat} (hix : Indexed s) (hi : s.heap[i]? = some r) :
    HeapStep s (s.heapSwap i (s.heap.length - 1)) s.heap ∧
      Indexed (s.heapSwap i (s.heap.length - 1)) ∧
      (s.heapSwap i (s.heap.length - 1)).heap[s.heap.length - 1]? = some r := by
  obtain ⟨hlt, -⟩ := List.getElem?_eq_some_iff.1 hi
  obtain ⟨hst, hix'⟩ := heapSwap_step (s := s) (t := s) i (s.heap.length - 1) hlt (by omega)
    ⟨HeapStep.refl s, hix⟩
  refine ⟨hst, hix', ?_⟩
  rw [heapSwap_getElem? s i _ _ hlt (by omega), Equiv.swap_apply_right]
  exact hi

theorem heapSwap_keepLast (t : Scheduler) (i j : Nat) (hi : i < s.heap.length - 1)
    (hj : j < s.heap.length - 1)
    (h : HeapStep s t s.heap ∧ Indexed t ∧ t.heap[s.heap.length - 1]? = some r) :
    HeapStep s (t.heapSwap i j) s.heap ∧ Indexed (t.heapSwap i j) ∧
      (t.heapSwap i j).heap[s.heap.length - 1]? = some r := by
  obtain ⟨hst, hix, hlast⟩ := h
  have hlen := hst.perm.length_eq
  obtain ⟨hst', hix'⟩ := heapSwap_step_below (Nat.sub_le s.heap.length 1) t i j hi hj ⟨hst, hix⟩
  refine ⟨hst', hix', ?_⟩
  rw [heapSwap_getElem? t i j _ (by omega) (by omega),
    Equiv.swap_apply_of_ne_of_ne (by omega) (by omega)]
  exact hlast

theorem getLast?_of_getElem? {l : List ItemRef} {n : Nat} (hn : l.length = n)
    (h : l[n - 1]? = some r) : l.getLast? = some r := by
  rw [List.getLast?_eq_getElem?, hn]
  exact h

/-- `heap.Remove` takes out the entry at a position. -/
theorem heapRemove_spec {i : Nat} (hok : HeapOK s) (hi : s.heap[i]? = some r) :
    HeapStep s (s.heapRemove i) (s.heap.erase r) ∧ HeapOK (s.heapRemove i) ∧
      ((s.heapRemove i).store r).index = -1 := by
  obtain ⟨hlt, -⟩ := List.getElem?_eq_some_iff.1 hi
  have hsift : HeapStep s (heapOps.removeSift s i) s.heap ∧ Indexed (heapOps.removeSift s i) ∧
      (heapOps.removeSift s i).heap[s.heap.length - 1]? = some r := by
    unfold removeSift
    split_ifs with hne
    · exact sift_induct heapOps heapSwap_keepLast _ i (by simp only [heapOps] at hne; omega)
        (heapSwap_last_step hok.toIndexed hi)
    · simp only [heapOps, ne_eq, not_not] at hne
      exact ⟨HeapStep.refl s, hok.toIndexed, hne.symm ▸ hi⟩
  obtain ⟨hst, hix, hlast⟩ := hsift
  have hlen := hst.perm.length_eq
  refine heapDropLast_spec hst hix (getLast?_of_getElem? hlen hlast) ?_
  rw [hlen]
  exact removeSift_ordered heapOps_lawful hlt hok.ordered

/-- `heap.Pop` takes out the root. -/
theorem heapPop_spec (hok : HeapOK s) (hr : s.heap.head? = some r) :
    HeapStep s s.heapPop (s.heap.erase r) ∧ HeapOK s.heapPop ∧ (s.heapPop.store r).index = -1 := by
  have h0 : s.heap[0]? = some r := by rw [← List.head?_eq_getElem?]; exact hr
  obtain ⟨hlt, -⟩ := List.getElem?_eq_some_iff.1 h0
  obtain ⟨hst, hix, hlast⟩ : HeapStep s (heapOps.popSift s) s.heap ∧
      Indexed (heapOps.popSift s) ∧ (heapOps.popSift s).heap[s.heap.length - 1]? = some r :=
    down_induct heapOps heapSwap_keepLast _ 0 (heapSwap_last_step hok.toIndexed h0)
  have hlen := hst.perm.length_eq
  refine heapDropLast_spec hst hix (getLast?_of_getElem? hlen hlast) ?_
  rw [hlen]
  exact popSift_ordered heapOps_lawful hlt hok.ordered

/-- `heap.Fix` after the due time of one entry changed: `t` is `s` with other keys at
position `i` only. -/
theorem heapFix_spec {i : Nat} (hord : IsHeap heapKey s s.heap.length) (hix : Indexed t)
    (hheap : t.heap = s.heap) (hi : i < t.heap.length)
    (hkey : ∀ c, c < s.heap.length → c ≠ i → t.heapKey c = s.heapKey c) :
    HeapStep t (t.heapFix i) t.heap ∧ HeapOK (t.heapFix i) := by
  obtain ⟨hst, hix'⟩ : HeapStep t (t.heapFix i) t.heap ∧ Indexed (t.heapFix i) :=
    sift_induct heapOps (heapSwap_step_below le_rfl) t i hi ⟨HeapStep.refl t, hix⟩
  refine ⟨hst, hix', ?_⟩
  rw [hst.perm.length_eq]
  refine fix_ordered heapOps_lawful hi ?_
  refine IsHeap.except (s := s) ?_ t i ?_
  · show IsHeap heapKey s t.heap.length
    rw [hheap]; exact hord
  · intro c hc hci
    exact hkey c (hheap ▸ hc) hci

/-- In an ordered heap no position is due after the positions below it. -/
theorem HeapOK.dueAt_le (hok : HeapOK s) {c : Nat} (hc : 0 < c) (hcn : c < s.heap.length) :
    (s.heapItemAt (parent c)).dueAt ≤ (s.heapItemAt c).dueAt := by
  have h := hok.ordered c hc hcn
  simp only [heapKey, HeapItem.sortKey, Prod.Lex.toLex_le_toLex] at h
  rcases h with h | ⟨h, -⟩
  · exact h.le
  · exact h.le

end Theia.Scheduler
