/-
Ledgers of handles issued from a sequence: which handle is live with which entry, and how many
were issued. As long as the sequence does not repeat, a handle that was issued and is no longer
live never comes back.
-/
import Mathlib.Data.Set.Function
import Mathlib.Logic.Function.Basic

/-- The live handles with their entries, and the number of the next handle. -/
structure Ledger (H E : Type) where
  live : H → Option E
  next : Nat

namespace Ledger

variable {H E : Type} {handleAt : Nat → H} {L L' : Ledger H E}

/-- Every live handle was issued. -/
def WF (handleAt : Nat → H) (L : Ledger H E) : Prop :=
  ∀ h, L.live h ≠ none → ∃ n < L.next, handleAt n = h

/-- The handle was issued and is no longer live. -/
def Spent (handleAt : Nat → H) (L : Ledger H E) (h : H) : Prop :=
  L.live h = none ∧ ∃ n < L.next, handleAt n = h

/-- The handle about to be issued differs from every handle issued before. -/
theorem issued_ne {h : H} (hinj : Set.InjOn handleAt {n | n ≤ L.next}) (hi : ∃ n < L.next, handleAt n = h) :
    h ≠ handleAt L.next := by
  obtain ⟨n, hn, rfl⟩ := hi
  intro he
  have : n = L.next := hinj hn.le (le_refl L.next) he
  omega

/-- The handle about to be issued is not live. -/
theorem WF.next_free (hw : WF handleAt L) (hinj : Set.InjOn handleAt {n | n ≤ L.next}) :
    L.live (handleAt L.next) = none := by
  by_contra hl
  exact issued_ne hinj (hw _ hl) rfl

variable [DecidableEq H]

/-- One change of the ledger: the next handle is issued, or live entries are rewritten or
dropped. -/
inductive Step (handleAt : Nat → H) (L L' : Ledger H E) : Prop
  | issue (e : E) (hl : L'.live = Function.update L.live (handleAt L.next) (some e)) (hn : L'.next = L.next + 1)
  | adjust (hl : ∀ h, L.live h = none → L'.live h = none) (hn : L'.next = L.next)

theorem Step.refl : Step handleAt L L := .adjust (fun _ h => h) rfl

theorem Step.next_le (hs : Step handleAt L L') : L.next ≤ L'.next := by
  cases hs with
  | issue e hl hn => omega
  | adjust hl hn => omega

theorem Step.wf (hs : Step handleAt L L') (hw : WF handleAt L) : WF handleAt L' := by
  intro h hlive
  cases hs with
  | issue e hl hn =>
    by_cases he : h = handleAt L.next
    · exact ⟨L.next, by omega, he.symm⟩
    · rw [hl, Function.update_of_ne he] at hlive
      obtain ⟨n, hlt, rfl⟩ := hw h hlive
      exact ⟨n, by omega, rfl⟩
  | adjust hl hn =>
    rw [hn]
    exact hw h fun h0 => hlive (hl h h0)

/-- A spent handle stays spent, as long as what is issued was not issued before. -/
theorem Spent.step {h : H} (hsp : Spent handleAt L h) (hs : Step handleAt L L')
    (hinj : L'.next ≠ L.next → Set.InjOn handleAt {n | n ≤ L.next}) : Spent handleAt L' h := by
  obtain ⟨h0, n, hlt, rfl⟩ := hsp
  refine ⟨?_, n, lt_of_lt_of_le hlt hs.next_le, rfl⟩
  cases hs with
  | issue e hl hn => rw [hl, Function.update_of_ne (issued_ne (hinj (by omega)) ⟨n, hlt, rfl⟩)]; exact h0
  | adjust hl hn => exact hl _ h0

end Ledger
