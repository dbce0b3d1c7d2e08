/-
Two tables whose keys are names for the same things: a relation that pairs the names one to one, and values that
correspond under paired names. An assignment or an erasure under paired names on both sides keeps them so.
-/
import Mathlib.Data.Option.Basic
import RdmaBuffer.Lib.Table

namespace Renaming

variable {K L V W : Type}

/-- No name is paired twice. -/
def OneToOne (ρ : K → L → Prop) : Prop := ∀ k l k' l', ρ k l → ρ k' l' → (k = k' ↔ l = l')

/-- The names are paired, or neither is paired at all. -/
def Matched (ρ : K → L → Prop) (k : K) (l : L) : Prop := ρ k l ∨ (∀ l', ¬ρ k l') ∧ ∀ k', ¬ρ k' l

variable [DecidableEq K] [DecidableEq L]

/-- Only paired names are in the tables, and under paired names the values correspond. -/
structure Alike (ρ : K → L → Prop) (R : V → W → Prop) (m : Table K V) (n : Table L W) : Prop where
  left : ∀ k, m.lookup k ≠ none → ∃ l, ρ k l
  right : ∀ l, n.lookup l ≠ none → ∃ k, ρ k l
  alike : ∀ k l, ρ k l → Option.Rel R (m.lookup k) (n.lookup l)

variable {ρ ρ' : K → L → Prop} {R : V → W → Prop} {m : Table K V} {n : Table L W} {k : K} {l : L}

theorem Alike.empty (ρ : K → L → Prop) (R : V → W → Prop) : Alike ρ R ∅ ∅ where
  left k h := absurd (AList.lookup_empty k) h
  right l h := absurd (AList.lookup_empty l) h
  alike k l _ := by
    rw [AList.lookup_empty, AList.lookup_empty]
    exact .none

/-- Matched names have corresponding values, or neither has one. -/
theorem Alike.lookup (h : Alike ρ R m n) (hkl : Matched ρ k l) : Option.Rel R (m.lookup k) (n.lookup l) := by
  rcases hkl with hp | ⟨hk, hl⟩
  · exact h.alike k l hp
  · rw [by_contra fun hne => (h.left k hne).elim hk, by_contra fun hne => (h.right l hne).elim hl]
    exact .none

/-- A name that has a value is paired with every name it is matched with. -/
theorem Alike.paired (h : Alike ρ R m n) (hkl : Matched ρ k l) {v : V} (hv : m.lookup k = some v) : ρ k l := by
  rcases hkl with hp | ⟨hk, -⟩
  · exact hp
  · exact ((h.left k (by simp [hv])).elim hk).elim

/-- An assignment of corresponding values under names that are paired from now on. -/
theorem Alike.put (h : Alike ρ R m n) (hone : OneToOne ρ') (hold : ∀ j i, ρ j i → ρ' j i)
    (hnew : ∀ j i, ρ' j i → ρ j i ∨ j = k ∧ i = l) (hkl : ρ' k l) {v : V} {w : W} (hvw : R v w) :
    Alike ρ' R (Table.put k v m) (Table.put l w n) where
  left j hj := by
    rw [Table.lookup_put] at hj
    split at hj
    · rename_i heq
      exact ⟨l, heq ▸ hkl⟩
    · exact (h.left j hj).imp fun i => hold j i
  right i hi := by
    rw [Table.lookup_put] at hi
    split at hi
    · rename_i heq
      exact ⟨k, heq ▸ hkl⟩
    · exact (h.right i hi).imp fun j => hold j i
  alike j i hji := by
    rw [Table.lookup_put, Table.lookup_put]
    by_cases hj : j = k
    · rw [if_pos hj, if_pos ((hone _ _ _ _ hji hkl).1 hj)]
      exact .some hvw
    · rw [if_neg hj, if_neg fun hi => hj ((hone _ _ _ _ hji hkl).2 hi)]
      exact h.alike j i ((hnew j i hji).resolve_right fun he => hj he.1)

/-- A value rewritten under paired names. -/
theorem Alike.rewrite (h : Alike ρ R m n) (hone : OneToOne ρ) (hkl : ρ k l) {v : V} {w : W} (hvw : R v w) :
    Alike ρ R (Table.put k v m) (Table.put l w n) :=
  h.put hone (fun _ _ hp => hp) (fun _ _ hp => .inl hp) hkl hvw

/-- A value rewritten on one side only, to one that still corresponds. -/
theorem Alike.rewrite_left (h : Alike ρ R m n) (hone : OneToOne ρ) (hkl : ρ k l) {v : V} {w : W}
    (hw : n.lookup l = some w) (hvw : R v w) : Alike ρ R (Table.put k v m) n where
  left j hj := by
    rw [Table.lookup_put] at hj
    split at hj
    · rename_i heq
      exact ⟨l, heq ▸ hkl⟩
    · exact h.left j hj
  right := h.right
  alike j i hji := by
    rw [Table.lookup_put]
    by_cases hj : j = k
    · rw [if_pos hj, (hone _ _ _ _ hji hkl).1 hj, hw]
      exact .some hvw
    · rw [if_neg hj]
      exact h.alike j i hji

theorem Alike.erase (h : Alike ρ R m n) (hone : OneToOne ρ) (hkl : ρ k l) : Alike ρ R (m.erase k) (n.erase l) where
  left j hj := by
    rw [Table.lookup_erase_eq] at hj
    split at hj
    · exact absurd rfl hj
    · exact h.left j hj
  right i hi := by
    rw [Table.lookup_erase_eq] at hi
    split at hi
    · exact absurd rfl hi
    · exact h.right i hi
  alike j i hji := by
    rw [Table.lookup_erase_eq, Table.lookup_erase_eq]
    by_cases hj : j = k
    · rw [if_pos hj, if_pos ((hone _ _ _ _ hji hkl).1 hj)]
      exact .none
    · rw [if_neg hj, if_neg fun hi => hj ((hone _ _ _ _ hji hkl).2 hi)]
      exact h.alike j i hji

end Renaming
