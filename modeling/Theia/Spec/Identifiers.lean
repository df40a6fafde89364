import Theia.Native.Basic

/-!
# Reading back identifiers

The overview keys its maps by `id.String()` and parses the keys back with `uuid.Parse`.
-/

namespace Theia

open List

theorem hexVal_hexDigit (n : Nat) : hexVal (hexDigit n) = some (n % 16) := by
  have h : n % 16 < 16 := Nat.mod_lt _ (by decide)
  unfold hexDigit
  generalize n % 16 = m at h ⊢
  interval_cases m <;> decide

theorem mapM_hexVal (f : Nat → Nat) (l : List Nat) :
    (l.map fun i => hexDigit (f i)).mapM hexVal = some (l.map fun i => f i % 16) := by
  induction l with
  | nil => rfl
  | cons i l ih =>
    rw [map_cons, mapM_cons, hexVal_hexDigit, ih]
    rfl

/-- Reading the `k` low hexadecimal digits of a number, the most significant first. -/
theorem foldl_digits (k n : Nat) :
    ((range k).map fun i => n / 16 ^ (k - 1 - i) % 16).foldl (fun a d => 16 * a + d) 0 =
      n % 16 ^ k := by
  induction k generalizing n with
  | zero => simp [Nat.mod_one]
  | succ k ih =>
    rw [range_succ, map_append, foldl_append]
    -- all digits but the last are those of `n / 16`
    have hshift : (range k).map (fun i => n / 16 ^ (k + 1 - 1 - i) % 16) =
        (range k).map (fun i => n / 16 / 16 ^ (k - 1 - i) % 16) := by
      apply map_congr_left
      intro i hi
      rw [mem_range] at hi
      rw [Nat.div_div_eq_div_mul, ← Nat.pow_succ']
      congr 3
      omega
    rw [hshift, ih]
    simp only [map_cons, map_nil, foldl_cons, foldl_nil, Nat.add_sub_cancel,
      Nat.sub_self, Nat.pow_zero, Nat.div_one]
    rw [Nat.pow_succ', Nat.mod_mul, add_comm]

theorem UUID.parse_toString (id : UUID) : UUID.parse (UUID.toString id) = some id := by
  have hdigits : ((range 32).map id.digit).mapM hexVal =
      some ((range 32).map fun i => id.toNat / 16 ^ (32 - 1 - i) % 16) :=
    mapM_hexVal (fun i => id.toNat / 16 ^ (31 - i)) (range 32)
  have hlist : (UUID.toString id).toList =
      (range 8).map id.digit ++ '-' :: (range' 8 4).map id.digit ++
      '-' :: (range' 12 4).map id.digit ++ '-' :: (range' 16 4).map id.digit ++
      '-' :: (range' 20 12).map id.digit := String.toList_ofList
  unfold UUID.parse
  rw [hlist, if_pos ⟨rfl, rfl, rfl, rfl, rfl⟩]
  -- without the dashes the groups are all digits in order
  show (((range 32).map id.digit).mapM hexVal).map _ = some id
  rw [hdigits, Option.map_some, foldl_digits]
  congr 1
  apply BitVec.eq_of_toNat_eq
  rw [BitVec.toNat_ofNat]
  have hlt := id.isLt
  omega

theorem UUID.toString_injective : Function.Injective UUID.toString := by
  intro a b h
  have hparse := UUID.parse_toString a
  rw [h, UUID.parse_toString] at hparse
  exact (Option.some.inj hparse).symm

@[simp] theorem UUID.toString_inj {a b : UUID} : UUID.toString a = UUID.toString b ↔ a = b :=
  UUID.toString_injective.eq_iff

theorem UUID.toString_ne_empty (id : UUID) : UUID.toString id ≠ "" := by
  intro h
  have hparse := UUID.parse_toString id
  rw [h] at hparse
  cases hparse

end Theia
