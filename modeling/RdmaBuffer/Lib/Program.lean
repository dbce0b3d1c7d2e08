/-
Sequential programs as trees of calls and answers: what holds of a program under every answer that a contract admits,
the rules for it, and that no program makes calls forever.
-/
import RdmaBuffer.Lib.Lts

/-- A program returns a value, or makes a call and goes on with the answer. -/
inductive Program {E : Type} (R : E → Type) (α : Type) : Type
  | ret (a : α)
  | call (e : E) (k : R e → Program R α)

namespace Program

variable {E W : Type} {R : E → Type} {α β : Type}

def bind : Program R α → (α → Program R β) → Program R β
  | .ret a, f => f a
  | .call e k, f => .call e fun r => (k r).bind f

instance : Monad (Program R) where
  pure := .ret
  bind := bind

/-- One call, whose answer is the result. -/
def perform (e : E) : Program R (R e) := .call e .ret

@[simp] theorem ret_bind (a : α) (f : α → Program R β) : ((.ret a : Program R α) >>= f) = f a := rfl

@[simp] theorem call_bind (e : E) (k : R e → Program R α) (f : α → Program R β) :
    ((.call e k : Program R α) >>= f) = .call e fun r => k r >>= f := rfl

@[simp] theorem perform_bind (e : E) (f : R e → Program R β) :
    ((perform e : Program R (R e)) >>= f) = .call e f := rfl

/-! ## Contracts -/

/-- What a program may call where its view is `w`, and what it may be answered there, with the view it has then. -/
structure Contract (R : E → Type) (W : Type) where
  Calls : W → E → Prop
  Answers : (w : W) → (e : E) → R e → W → Prop

/-- Under every answer of the contract the program makes only calls of the contract and returns only where `Q` holds. -/
def Meets (C : Contract R W) (Q : α → W → Prop) : Program R α → W → Prop
  | .ret a, w => Q a w
  | .call e k, w => C.Calls w e ∧ ∀ r w', C.Answers w e r w' → (k r).Meets C Q w'

section

variable {C : Contract R W} {Q : α → W → Prop} {w : W}

@[simp] theorem meets_ret {a : α} : (.ret a : Program R α).Meets C Q w ↔ Q a w := Iff.rfl

@[simp] theorem meets_pure {a : α} : (pure a : Program R α).Meets C Q w ↔ Q a w := Iff.rfl

theorem meets_call {e : E} {k : R e → Program R α} :
    (.call e k : Program R α).Meets C Q w ↔ C.Calls w e ∧ ∀ r w', C.Answers w e r w' → (k r).Meets C Q w' := Iff.rfl

theorem meets_bind {p : Program R β} {f : β → Program R α} :
    (p >>= f).Meets C Q w ↔ p.Meets C (fun b w' => (f b).Meets C Q w') w := by
  induction p generalizing w with
  | ret b => rfl
  | call e k ih =>
    rw [call_bind, meets_call, meets_call]
    simp only [ih]

theorem Meets.mono {Q' : α → W → Prop} {p : Program R α} (h : p.Meets C Q w) (hQ : ∀ a w', Q a w' → Q' a w') :
    p.Meets C Q' w := by
  induction p generalizing w with
  | ret a => exact hQ a w h
  | call e k ih => exact ⟨h.1, fun r w' hr => ih r (h.2 r w' hr)⟩

/-- A program that meets a contract meets one that allows more calls and fewer answers. -/
theorem Meets.weaken {C' : Contract R W} {p : Program R α} (h : p.Meets C Q w)
    (hcalls : ∀ w e, C.Calls w e → C'.Calls w e) (hanswers : ∀ w e r w', C'.Answers w e r w' → C.Answers w e r w') :
    p.Meets C' Q w := by
  induction p generalizing w with
  | ret a => exact h
  | call e k ih => exact ⟨hcalls w e h.1, fun r w' hr => ih r (h.2 r w' (hanswers w e r w' hr))⟩

/-- What holds before, is kept by every answer and is what the rest needs. -/
theorem Meets.bind {p : Program R β} {f : β → Program R α} {P : β → W → Prop} (h : p.Meets C P w)
    (hf : ∀ b w', P b w' → (f b).Meets C Q w') : (p >>= f).Meets C Q w :=
  meets_bind.2 (h.mono hf)

theorem Meets.step {e : E} {k : R e → Program R α} (h : (.call e k : Program R α).Meets C Q w) {r : R e} {w' : W}
    (hr : C.Answers w e r w') : (k r).Meets C Q w' := h.2 r w' hr

end

/-! ## A program alone -/

/-- The program with its view, under every answer of the contract; the label is the call with its answer. -/
def alone (C : Contract R W) (p : Program R α) (w : W) : Lts (Program R α × W) ((e : E) × R e) where
  init s := s = (p, w)
  step s l s' := ∃ k, s.1 = .call l.1 k ∧ C.Answers s.2 l.1 l.2 s'.2 ∧ s'.1 = k l.2

/-- What is left of the program keeps meeting the contract along every run. -/
theorem Meets.run {C : Contract R W} {Q : α → W → Prop} {p : Program R α} {w : W} (h : p.Meets C Q w)
    {t : List (Lts.Transition (Program R α × W) ((e : E) × R e))} {s : Program R α × W}
    (ht : (alone C p w).Run t s) : s.1.Meets C Q s.2 := by
  refine ht.inv (I := fun s => s.1.Meets C Q s.2) ?_ ?_
  · rintro s rfl
    exact h
  · rintro s ⟨e, r⟩ s' ⟨k, hk, hr, hs'⟩ hi
    rw [hk] at hi
    rw [hs']
    exact hi.step hr

/-! ## No program runs forever -/

/-- `q` is `p` after one answer. -/
def Next (q p : Program R α) : Prop := ∃ e k r, p = .call e k ∧ q = k r

theorem next_wf : WellFounded (Next : Program R α → Program R α → Prop) := by
  refine ⟨fun p => ?_⟩
  induction p with
  | ret a =>
    refine ⟨_, ?_⟩
    rintro q ⟨e, k, r, hp, -⟩
    cases hp
  | call e k ih =>
    refine ⟨_, ?_⟩
    rintro q ⟨e', k', r, hp, rfl⟩
    cases hp
    exact ih r

end Program
