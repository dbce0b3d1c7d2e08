/-
Facts about 64-bit counters and words, and the values that repeated exclusive or takes.
-/
import Mathlib.Algebra.Group.Nat.Defs
import Mathlib.Data.List.Iterate
import Mathlib.Data.List.Nodup
import Mathlib.Logic.Function.Iterate

/-- A counter that did not wrap to zero grew by one. -/
theorem UInt64.toNat_succ {n : UInt64} (h : n + 1 ≠ 0) : (n + 1).toNat = n.toNat + 1 := by
  have hn := n.toNat_lt
  have h0 : (n + 1).toNat ≠ 0 := fun h0 => h (UInt64.toNat_inj.1 h0)
  rw [UInt64.toNat_add, UInt64.toNat_one] at h0 ⊢
  omega

theorem UInt64.toNat_add_of_lt {a b : UInt64} (h : a.toNat + b.toNat < 2 ^ 64) : (a + b).toNat = a.toNat + b.toNat := by
  rw [UInt64.toNat_add, Nat.mod_eq_of_lt h]

/-- A counter above zero does not wrap when it goes down. -/
theorem UInt64.sub_one_lt_of_le {n g : UInt64} (hpos : 0 < n) (hle : n ≤ g) : n - 1 < g := by
  rw [UInt64.lt_iff_toNat_lt, UInt64.toNat_zero] at hpos
  have hone : (1 : UInt64) ≤ n := UInt64.le_iff_toNat_le.2 hpos
  rw [UInt64.lt_iff_toNat_lt, UInt64.toNat_sub_of_le _ _ hone, UInt64.toNat_one]
  rw [UInt64.le_iff_toNat_le] at hle
  omega

/-- Multiplication by a word that has an inverse loses nothing. -/
theorem UInt64.mul_injective {c d : UInt64} (h : c * d = 1) : Function.Injective fun a : UInt64 => a * c := by
  intro a b hab
  calc a = a * c * d := by rw [UInt64.mul_assoc, h, UInt64.mul_one]
    _ = b * c * d := congrArg (· * d) hab
    _ = b := by rw [UInt64.mul_assoc, h, UInt64.mul_one]

/-! ## Orbits -/

theorem List.iterate_succ_append {α : Type} (f : α → α) (a : α) (n : Nat) :
    List.iterate f a (n + 1) = List.iterate f a n ++ [f^[n] a] := by
  rw [List.iterate_add]
  rfl

/-- An involution that fixes nothing is back where it was after two steps, and only then. -/
theorem List.nodup_iterate_iff {α : Type} {f : α → α} (hf : Function.Involutive f) (hne : ∀ a, f a ≠ a) (a : α)
    (n : Nat) : (List.iterate f a (n + 1)).Nodup ↔ n ≤ 1 := by
  constructor
  · intro h
    by_contra hn
    obtain ⟨k, rfl⟩ : ∃ k, n = k + 2 := ⟨n - 2, by omega⟩
    have hmem : a ∈ List.iterate f (f a) (k + 2) := by
      rw [List.mem_iterate]
      exact ⟨1, by omega, (hf a).symm⟩
    exact (List.nodup_cons.1 h).1 hmem
  · intro h
    rcases Nat.le_one_iff_eq_zero_or_eq_one.1 h with rfl | rfl
    · exact List.nodup_singleton a
    · simpa [List.iterate] using (hne a).symm

theorem UInt64.involutive_xor (c : UInt64) : Function.Involutive (· ^^^ c) := by
  intro a
  show a ^^^ c ^^^ c = a
  rw [UInt64.xor_assoc, UInt64.xor_self, UInt64.xor_zero]

theorem UInt64.xor_ne_self {c : UInt64} (hc : c ≠ 0) (a : UInt64) : a ^^^ c ≠ a := by
  intro h
  have hself : a ^^^ (a ^^^ c) = a ^^^ a := by rw [h]
  rw [← UInt64.xor_assoc, UInt64.xor_self, UInt64.zero_xor] at hself
  exact hc hself

/-! ## Divisibility -/

theorem UInt64.mod_eq_zero_iff {a b : UInt64} : a % b = 0 ↔ b.toNat ∣ a.toNat := by
  rw [← UInt64.toNat_inj, UInt64.toNat_mod, UInt64.toNat_zero, Nat.dvd_iff_mod_eq_zero]

theorem UInt64.mod_trans {a b c : UInt64} (h : a % b = 0) (h' : b % c = 0) : a % c = 0 := by
  rw [UInt64.mod_eq_zero_iff] at h h' ⊢
  exact Nat.dvd_trans h' h
