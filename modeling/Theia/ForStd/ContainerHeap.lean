import Mathlib

/-!
# The binary heap of Go's `container/heap`

`container/heap` works on any state that can compare and swap two positions. This module
gives its `up`, `down`, `Fix` and the sifting parts of `Push`, `Pop` and `Remove` over such an
interface, and proves that they restore the heap order.

Key results:
- **`up_ordered`**, **`fix_ordered`**: sifting restores the order around one misplaced position
- **`popSift_ordered`**, **`removeSift_ordered`**: so do the sifts of `Pop` and `Remove`
- **`up_induct`**, **`down_induct`**, **`sift_induct`**: whatever swaps of the sifted positions
  preserve, sifting preserves
-/

universe u v

/-- The part of Go's `heap.Interface` that the sifting loops call. -/
structure HeapInterface (σ : Type u) where
  /-- `Len()` -/
  len : σ → Nat
  /-- `Less(i, j)` -/
  less : σ → Nat → Nat → Bool
  /-- `Swap(i, j)` -/
  swap : σ → Nat → Nat → σ

namespace HeapInterface

variable {σ : Type u} {κ : Type v} [LinearOrder κ] {s : σ}

/-- The position above `j`; position 0 is its own parent, as in Go's truncating division. -/
def parent (j : Nat) : Nat := (j - 1) / 2

theorem parent_lt {j : Nat} (h : 0 < j) : parent j < j := by
  unfold parent; omega

theorem parent_le (j : Nat) : parent j ≤ j := by
  unfold parent; omega

/-- The children of `i` are `2 * i + 1` and `2 * i + 2`. -/
theorem eq_child_of_parent {c i : Nat} (hc : 0 < c) (h : parent c = i) :
    c = 2 * i + 1 ∨ c = 2 * i + 2 := by
  unfold parent at h; omega

/-- What the comparisons and swaps of `h` do to a key read at each position. -/
structure Lawful (h : HeapInterface σ) (key : σ → Nat → κ) : Prop where
  less_iff : ∀ s i j, h.less s i j = true ↔ key s i < key s j
  len_swap : ∀ s i j, h.len (h.swap s i j) = h.len s
  key_swap : ∀ s i j k, i < h.len s → j < h.len s → key (h.swap s i j) k = key s (Equiv.swap i j k)

/-- Go's `up`; the position at least halves on every pass, so `j` passes are enough. -/
def upLoop (h : HeapInterface σ) : Nat → σ → Nat → σ
  | 0, s, _ => s
  | fuel + 1, s, j =>
    let i := parent j
    if i = j || !h.less s j i then s else upLoop h fuel (h.swap s i j) i

/-- Go's `up(h, j)`. -/
def up (h : HeapInterface σ) (s : σ) (j : Nat) : σ := upLoop h j s j

/-- The child that Go's `down` compares with `i`: the right one only if it is smaller. -/
def smallerChild (h : HeapInterface σ) (s : σ) (i n : Nat) : Nat :=
  if 2 * i + 2 < n && h.less s (2 * i + 2) (2 * i + 1) then 2 * i + 2 else 2 * i + 1

/-- Go's `down`; it returns the final position as well, and every pass increases it. -/
def downLoop (h : HeapInterface σ) : Nat → σ → Nat → Nat → σ × Nat
  | 0, s, i, _ => (s, i)
  | fuel + 1, s, i, n =>
    if n ≤ 2 * i + 1 then (s, i)
    else
      let j := h.smallerChild s i n
      if !h.less s j i then (s, i) else downLoop h fuel (h.swap s i j) j n

/-- Go's `down(h, i, n)`, with the position where it stopped. -/
def down (h : HeapInterface σ) (s : σ) (i n : Nat) : σ × Nat := downLoop h n s i n

/-- Sift position `i` of the first `n` either way, as `Fix` and `Remove` do. -/
def sift (h : HeapInterface σ) (s : σ) (i n : Nat) : σ :=
  if i < (h.down s i n).2 then (h.down s i n).1 else h.up (h.down s i n).1 i

/-- Go's `heap.Fix(h, i)`. -/
def fix (h : HeapInterface σ) (s : σ) (i : Nat) : σ := h.sift s i (h.len s)

/-- `heap.Pop(h)` before its final `h.Pop()`: the root is moved to the last position. -/
def popSift (h : HeapInterface σ) (s : σ) : σ :=
  (h.down (h.swap s 0 (h.len s - 1)) 0 (h.len s - 1)).1

/-- `heap.Remove(h, i)` before its final `h.Pop()`. -/
def removeSift (h : HeapInterface σ) (s : σ) (i : Nat) : σ :=
  if h.len s - 1 ≠ i then h.sift (h.swap s i (h.len s - 1)) i (h.len s - 1) else s

/-! ### What swaps preserve -/

section Induct

variable (h : HeapInterface σ) {P : σ → Prop} {n : Nat}
  (hswap : ∀ s i j, i < n → j < n → P s → P (h.swap s i j))
include hswap

theorem upLoop_induct (fuel : Nat) (s : σ) (j : Nat) (hj : j < n) (hP : P s) :
    P (h.upLoop fuel s j) := by
  induction fuel generalizing s j with
  | zero => exact hP
  | succ fuel ih =>
    simp only [upLoop]
    split
    · exact hP
    · have hi : parent j < n := lt_of_le_of_lt (parent_le j) hj
      exact ih _ _ hi (hswap s _ _ hi hj hP)

/-- A property that every swap below `n` preserves is preserved by `up` from below `n`. -/
theorem up_induct (s : σ) (j : Nat) (hj : j < n) (hP : P s) : P (h.up s j) :=
  upLoop_induct h hswap j s j hj hP

omit hswap in
theorem smallerChild_lt {i : Nat} (hn : 2 * i + 1 < n) : h.smallerChild s i n < n := by
  unfold smallerChild
  split_ifs with hc
  · simp only [Bool.and_eq_true, decide_eq_true_eq] at hc
    exact hc.1
  · exact hn

theorem downLoop_induct (fuel : Nat) (s : σ) (i : Nat) (hP : P s) :
    P (h.downLoop fuel s i n).1 := by
  induction fuel generalizing s i with
  | zero => exact hP
  | succ fuel ih =>
    simp only [downLoop]
    split
    · exact hP
    · have hj : h.smallerChild s i n < n := h.smallerChild_lt (by omega)
      split
      · exact hP
      · exact ih _ _ (hswap s _ _ (by omega) hj hP)

/-- A property that every swap below `n` preserves is preserved by `down` over the first `n`. -/
theorem down_induct (s : σ) (i : Nat) (hP : P s) : P (h.down s i n).1 :=
  downLoop_induct h hswap n s i hP

/-- A property that every swap below `n` preserves is preserved by `sift` over the first `n`. -/
theorem sift_induct (s : σ) (i : Nat) (hi : i < n) (hP : P s) : P (h.sift s i n) := by
  have hd := down_induct h hswap s i hP
  unfold sift
  split
  · exact hd
  · exact up_induct h hswap _ i hi hd

omit hswap in
/-- A property that every swap preserves is preserved by `sift`. -/
theorem sift_preserves (hall : ∀ s i j, P s → P (h.swap s i j)) (s : σ) (i n : Nat) (hP : P s) :
    P (h.sift s i n) := by
  have hd := down_induct h (fun s i j _ _ => hall s i j) s i (n := n) hP
  unfold sift
  split
  · exact hd
  · exact up_induct h (fun s i j _ _ => hall s i j) _ i (Nat.lt_succ_self i) hd

end Induct

/-! ### Heap order -/

/-- The first `n` positions are in heap order. -/
def IsHeap (key : σ → Nat → κ) (s : σ) (n : Nat) : Prop :=
  ∀ c, 0 < c → c < n → key s (parent c) ≤ key s c

/-- The pairs of the first `n` positions that do not touch `i` are in order, and so are the
children of `i` with the parent of `i`. -/
structure HeapExcept (key : σ → Nat → κ) (s : σ) (n i : Nat) : Prop where
  off : ∀ c, 0 < c → c < n → c ≠ i → parent c ≠ i → key s (parent c) ≤ key s c
  across : ∀ c, 0 < c → c < n → parent c = i → 0 < i → key s (parent i) ≤ key s c

variable {key : σ → Nat → κ}

theorem IsHeap.mono {n m : Nat} (hh : IsHeap key s n) (hm : m ≤ n) : IsHeap key s m :=
  fun c hc hcm => hh c hc (by omega)

/-- The root of a heap is its least entry. -/
theorem IsHeap.root_le {n i : Nat} (hh : IsHeap key s n) (hi : i < n) : key s 0 ≤ key s i := by
  -- along the chain of parents
  induction i using Nat.strong_induction_on with
  | h i ih =>
    obtain rfl | hpos := Nat.eq_zero_or_pos i
    · exact le_rfl
    · have hp := parent_lt hpos
      exact (ih _ hp (by omega)).trans (hh i hpos hi)

/-- Changing the key at one position of a heap leaves the order off that position. -/
theorem IsHeap.except {n : Nat} (hh : IsHeap key s n) (s' : σ) (i : Nat)
    (hsame : ∀ c, c < n → c ≠ i → key s' c = key s c) : HeapExcept key s' n i where
  off c hc hcn hci hpi := by
    have hp := parent_lt hc
    rw [hsame c hcn hci, hsame (parent c) (by omega) hpi]
    exact hh c hc hcn
  across c hc hcn hpc hi := by
    have hp := parent_lt hc
    have hpi := parent_lt hi
    rw [hsame c hcn (by omega), hsame (parent i) (by omega) (by omega)]
    exact (hh i hi (by omega)).trans (hpc ▸ hh c hc hcn)

/-- A position that is in order with its parent and its children completes the heap. -/
theorem HeapExcept.isHeap {n i : Nat} (he : HeapExcept key s n i)
    (hup : 0 < i → key s (parent i) ≤ key s i)
    (hdown : ∀ c, 0 < c → c < n → parent c = i → key s i ≤ key s c) : IsHeap key s n := by
  intro c hc hcn
  by_cases hci : c = i
  · rw [hci]; exact hup (hci ▸ hc)
  · by_cases hpc : parent c = i
    · rw [hpc]; exact hdown c hc hcn hpc
    · exact he.off c hc hcn hci hpc

section Order

variable {h : HeapInterface σ} (hl : Lawful h key)
include hl

/-- Swapping a position with its parent moves the misplaced key up. -/
theorem HeapExcept.swap_up {n j : Nat} (he : HeapExcept key s n j) (hj0 : 0 < j)
    (hjn : j < n) (hn : n ≤ h.len s) (hlt : key s j < key s (parent j)) :
    HeapExcept key (h.swap s (parent j) j) n (parent j) ∧
      ∀ c, 0 < c → c < n → parent c = parent j →
        key (h.swap s (parent j) j) (parent j) ≤ key (h.swap s (parent j) j) c := by
  have hpj : parent j < j := parent_lt hj0
  have hk : ∀ c, key (h.swap s (parent j) j) c = key s (Equiv.swap (parent j) j c) :=
    fun c => hl.key_swap s _ _ c (by omega) (by omega)
  have hkp : key (h.swap s (parent j) j) (parent j) = key s j := by
    rw [hk, Equiv.swap_apply_left]
  have hkj : key (h.swap s (parent j) j) j = key s (parent j) := by
    rw [hk, Equiv.swap_apply_right]
  have hko : ∀ c, c ≠ parent j → c ≠ j → key (h.swap s (parent j) j) c = key s c :=
    fun c h1 h2 => by rw [hk, Equiv.swap_apply_of_ne_of_ne h1 h2]
  refine ⟨⟨?_, ?_⟩, ?_⟩
  · intro c hc hcn hcp hpc
    have hcj : c ≠ j := fun e => hpc (by rw [e])
    rw [hko c hcp hcj]
    by_cases hpcj : parent c = j
    · -- the old parent of `j` now sits above the children of `j`
      rw [hpcj, hkj]
      exact he.across c hc hcn hpcj hj0
    · rw [hko (parent c) hpc hpcj]
      exact he.off c hc hcn hcj hpcj
  · intro c hc hcn hpc hp0
    have hgp : parent (parent j) < parent j := parent_lt hp0
    rw [hko (parent (parent j)) (by omega) (by omega)]
    have hup : key s (parent (parent j)) ≤ key s (parent j) :=
      he.off (parent j) hp0 (by omega) (by omega) (by omega)
    by_cases hcj : c = j
    · rw [hcj, hkj]; exact hup
    · have hcp := parent_lt hc
      rw [hko c (by omega) hcj]
      exact hup.trans (hpc ▸ he.off c hc hcn hcj (by omega))
  · intro c hc hcn hpc
    have hcp := parent_lt hc
    rw [hkp]
    by_cases hcj : c = j
    · rw [hcj, hkj]; exact hlt.le
    · rw [hko c (by omega) hcj]
      exact hlt.le.trans (hpc ▸ he.off c hc hcn hcj (by omega))

theorem upLoop_ordered (fuel : Nat) (s : σ) (n j : Nat) (hf : j ≤ fuel) (hjn : j < n)
    (hn : n ≤ h.len s) (he : HeapExcept key s n j)
    (hdown : ∀ c, 0 < c → c < n → parent c = j → key s j ≤ key s c) :
    IsHeap key (h.upLoop fuel s j) n := by
  induction fuel generalizing s j with
  | zero => exact he.isHeap (fun h0 => absurd h0 (by omega)) hdown
  | succ fuel ih =>
    simp only [upLoop]
    split_ifs with hstop
    · refine he.isHeap (fun hj0 => ?_) hdown
      have hpj := parent_lt hj0
      simp only [Bool.or_eq_true, decide_eq_true_eq, Bool.not_eq_true', show parent j ≠ j by omega,
        false_or] at hstop
      rw [← not_lt, ← hl.less_iff s j (parent j), hstop]
      simp
    · simp only [Bool.or_eq_true, decide_eq_true_eq, not_or, Bool.not_eq_true', Bool.not_eq_false]
        at hstop
      have hj0 : 0 < j := by
        rcases Nat.eq_zero_or_pos j with h0 | h0
        · exact absurd (by rw [h0]; rfl) hstop.1
        · exact h0
      have hpj := parent_lt hj0
      have hlt := (hl.less_iff s j (parent j)).1 hstop.2
      obtain ⟨he', hdown'⟩ := he.swap_up hl hj0 hjn hn hlt
      exact ih _ _ (by omega) (by omega) (by rw [hl.len_swap]; exact hn) he' hdown'

/-- `up` restores the order when only position `j` may be below its parent's key. -/
theorem up_ordered {n j : Nat} (hjn : j < n) (hn : n ≤ h.len s) (he : HeapExcept key s n j)
    (hdown : ∀ c, 0 < c → c < n → parent c = j → key s j ≤ key s c) :
    IsHeap key (h.up s j) n :=
  upLoop_ordered hl j s n j le_rfl hjn hn he hdown

/-- The child that `down` picks holds the smaller key of the two. -/
theorem smallerChild_le {i n : Nat} (c : Nat) (hc : 0 < c) (hcn : c < n)
    (hpc : parent c = i) : key s (h.smallerChild s i n) ≤ key s c := by
  have hless := hl.less_iff s (2 * i + 2) (2 * i + 1)
  unfold smallerChild
  split_ifs with hr
  · simp only [Bool.and_eq_true, decide_eq_true_eq, hless] at hr
    rcases eq_child_of_parent hc hpc with rfl | rfl
    · exact hr.2.le
    · exact le_rfl
  · simp only [Bool.and_eq_true, decide_eq_true_eq, hless, not_and, not_lt] at hr
    rcases eq_child_of_parent hc hpc with rfl | rfl
    · exact le_rfl
    · exact hr hcn

omit hl in
theorem parent_smallerChild (s : σ) (i n : Nat) :
    0 < h.smallerChild s i n ∧ parent (h.smallerChild s i n) = i := by
  unfold smallerChild parent
  split <;> omega

/-- Swapping a position with its smaller child moves the misplaced key down. -/
theorem HeapExcept.swap_down {n i : Nat} (he : HeapExcept key s n i)
    (hin : 2 * i + 1 < n) (hn : n ≤ h.len s)
    (hlt : key s (h.smallerChild s i n) < key s i) :
    HeapExcept key (h.swap s i (h.smallerChild s i n)) n (h.smallerChild s i n) ∧
      key (h.swap s i (h.smallerChild s i n)) i ≤
        key (h.swap s i (h.smallerChild s i n)) (h.smallerChild s i n) ∧
      (0 < i → key (h.swap s i (h.smallerChild s i n)) (parent i) ≤
        key (h.swap s i (h.smallerChild s i n)) i) := by
  obtain ⟨hj0, hpj⟩ := parent_smallerChild (h := h) s i n
  have hjn := h.smallerChild_lt (s := s) hin
  have hmin := fun c hc hcn hpc => smallerChild_le hl (s := s) (i := i) (n := n) c hc hcn hpc
  generalize h.smallerChild s i n = j at *
  have hij : i < j := hpj ▸ parent_lt hj0
  have hk : ∀ c, key (h.swap s i j) c = key s (Equiv.swap i j c) :=
    fun c => hl.key_swap s _ _ c (by omega) (by omega)
  have hki : key (h.swap s i j) i = key s j := by rw [hk, Equiv.swap_apply_left]
  have hkj : key (h.swap s i j) j = key s i := by rw [hk, Equiv.swap_apply_right]
  have hko : ∀ c, c ≠ i → c ≠ j → key (h.swap s i j) c = key s c :=
    fun c h1 h2 => by rw [hk, Equiv.swap_apply_of_ne_of_ne h1 h2]
  refine ⟨⟨?_, ?_⟩, ?_, ?_⟩
  · intro c hc hcn hcj hpc
    by_cases hci : c = i
    · subst hci
      have hpi := parent_lt hc
      rw [hki, hko (parent c) (by omega) hpc]
      exact he.across j hj0 hjn hpj hc
    · rw [hko c hci hcj]
      by_cases hpci : parent c = i
      · rw [hpci, hki]; exact hmin c hc hcn hpci
      · rw [hko (parent c) hpci hpc]
        exact he.off c hc hcn hci hpci
  · intro c hc hcn hpc _
    have hcp := parent_lt hc
    rw [hpj, hki, hko c (by omega) (by omega)]
    exact hpc ▸ he.off c hc hcn (by omega) (by omega)
  · rw [hki, hkj]; exact hlt.le
  · intro hi0
    have hpi := parent_lt hi0
    rw [hki, hko (parent i) (by omega) (by omega)]
    exact he.across j hj0 hjn hpj hi0

theorem downLoop_ordered (fuel : Nat) (s : σ) (n i : Nat) (hf : n ≤ fuel + i)
    (hn : n ≤ h.len s) (he : HeapExcept key s n i) (hup : 0 < i → key s (parent i) ≤ key s i) :
    IsHeap key (h.downLoop fuel s i n).1 n := by
  induction fuel generalizing s i with
  | zero =>
    refine he.isHeap hup fun c hc hcn hpc => ?_
    have := parent_lt hc
    omega
  | succ fuel ih =>
    simp only [downLoop]
    split
    · refine he.isHeap hup fun c hc hcn hpc => ?_
      rcases eq_child_of_parent hc hpc with rfl | rfl <;> omega
    split_ifs with hstop
    · refine he.isHeap hup fun c hc hcn hpc => ?_
      rw [Bool.not_eq_true', ← Bool.not_eq_true, hl.less_iff, not_lt] at hstop
      exact hstop.trans (smallerChild_le hl c hc hcn hpc)
    · rw [Bool.not_eq_true', Bool.not_eq_false, hl.less_iff] at hstop
      obtain ⟨hj0, hpj⟩ := parent_smallerChild (h := h) s i n
      have hij : i < h.smallerChild s i n := by
        have := parent_lt hj0
        omega
      obtain ⟨he', hup', -⟩ := he.swap_down hl (by omega) hn hstop
      exact ih _ _ (by omega) (by rw [hl.len_swap]; exact hn) he' (fun _ => hpj.symm ▸ hup')

omit hl in
theorem downLoop_le (fuel : Nat) (s : σ) (i n : Nat) : i ≤ (h.downLoop fuel s i n).2 := by
  induction fuel generalizing s i with
  | zero => exact le_rfl
  | succ fuel ih =>
    simp only [downLoop]
    split
    · exact le_rfl
    · split
      · exact le_rfl
      · obtain ⟨hj0, hpj⟩ := parent_smallerChild (h := h) s i n
        have := parent_lt hj0
        exact le_trans (by omega) (ih _ _)

/-- `sift` restores the order when only position `i` may be out of place. -/
theorem sift_ordered {n i : Nat} (hin : i < n) (hn : n ≤ h.len s)
    (he : HeapExcept key s n i) : IsHeap key (h.sift s i n) n := by
  obtain ⟨fuel, rfl⟩ : ∃ fuel, n = fuel + 1 := ⟨n - 1, by omega⟩
  simp only [sift, down, downLoop]
  split
  · -- `i` has no child: only its parent matters
    rename_i hleaf
    simp only [lt_irrefl, if_false]
    refine up_ordered hl hin hn he fun c hc hcn hpc => ?_
    rcases eq_child_of_parent hc hpc with rfl | rfl <;> omega
  · split
    · rename_i hstop
      simp only [lt_irrefl, if_false]
      refine up_ordered hl hin hn he fun c hc hcn hpc => ?_
      rw [Bool.not_eq_true', ← Bool.not_eq_true, hl.less_iff, not_lt] at hstop
      exact hstop.trans (smallerChild_le hl c hc hcn hpc)
    · -- the first swap puts `i` in order with its parent, the loop does the rest
      rename_i hgo
      rw [Bool.not_eq_true', Bool.not_eq_false, hl.less_iff] at hgo
      obtain ⟨hj0, hpj⟩ := parent_smallerChild (h := h) s i (fuel + 1)
      have hij : i < h.smallerChild s i (fuel + 1) := by
        have := parent_lt hj0
        omega
      have hle := downLoop_le (h := h) fuel (h.swap s i (h.smallerChild s i (fuel + 1)))
        (h.smallerChild s i (fuel + 1)) (fuel + 1)
      rw [if_pos (by omega)]
      obtain ⟨he', hup', -⟩ := he.swap_down hl (by omega) hn hgo
      exact downLoop_ordered hl fuel _ _ _ (by omega) (by rw [hl.len_swap]; exact hn) he'
        (fun _ => hpj.symm ▸ hup')

/-- `Fix` restores the order when only position `i` may be out of place. -/
theorem fix_ordered {i : Nat} (hi : i < h.len s)
    (he : HeapExcept key s (h.len s) i) : IsHeap key (h.fix s i) (h.len s) :=
  sift_ordered hl hi le_rfl he

/-- After the sifting of `Pop`, all but the last position are a heap. -/
theorem popSift_ordered (hs : 0 < h.len s) (hh : IsHeap key s (h.len s)) :
    IsHeap key (h.popSift s) (h.len s - 1) := by
  refine downLoop_ordered hl _ _ _ 0 (by omega) (by rw [hl.len_swap]; omega) ?_ (by omega)
  refine (hh.mono (Nat.sub_le _ 1)).except _ 0 fun c hc hc0 => ?_
  rw [hl.key_swap s 0 _ c hs (by omega), Equiv.swap_apply_of_ne_of_ne hc0 (by omega)]

/-- After the sifting of `Remove`, all but the last position are a heap. -/
theorem removeSift_ordered {i : Nat} (hi : i < h.len s) (hh : IsHeap key s (h.len s)) :
    IsHeap key (h.removeSift s i) (h.len s - 1) := by
  unfold removeSift
  split
  · refine sift_ordered hl (by omega) (by rw [hl.len_swap]; omega) ?_
    refine (hh.mono (Nat.sub_le _ 1)).except _ i fun c hc hci => ?_
    rw [hl.key_swap s i _ c hi (by omega), Equiv.swap_apply_of_ne_of_ne hci (by omega)]
  · exact hh.mono (Nat.sub_le _ 1)

end Order

end HeapInterface
