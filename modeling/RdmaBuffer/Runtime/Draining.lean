/-
Deregistrations in flight: which client carries which, that each finds its record DEREGISTERING and without leases
until it finishes, and that no two are for one record.
-/
import RdmaBuffer.Runtime.Leases

namespace RdmaBuffer

open Rdmabuffer

/-- Client `c` is between the first and the second section of the deregistration `d`. -/
def System.HasDeregistration {β : Type} (σ : System β) (c : Nat) (d : PendingDeregistration) : Prop :=
  σ.clients c = some (.deregistering d) ∨ ∃ refusal, σ.clients c = some (.deregistered d refusal)

section

variable {β : Type}

theorem hasDeregistration_move {σ : System β} {s : Rdmabuffer β} {c c' : Nat} {f : Option InFlight}
    {d : PendingDeregistration} (h : (σ.move s c f).HasDeregistration c' d) :
    (c' ≠ c ∧ σ.HasDeregistration c' d) ∨
      (c' = c ∧ (f = some (.deregistering d) ∨ ∃ refusal, f = some (.deregistered d refusal))) := by
  rcases h with h | ⟨refusal, h⟩
  · rcases System.clients_move h with ⟨hc, h⟩ | ⟨hc, h⟩
    · exact .inl ⟨hc, .inl h⟩
    · exact .inr ⟨hc, .inl h⟩
  · rcases System.clients_move h with ⟨hc, h⟩ | ⟨hc, h⟩
    · exact .inl ⟨hc, .inr ⟨refusal, h⟩⟩
    · exact .inr ⟨hc, .inr ⟨refusal, h⟩⟩

/-- A client that moves on to anything but a deregistration leaves none in flight that was not. -/
theorem hasDeregistration_of_move {σ : System β} {s : Rdmabuffer β} {c c' : Nat} {f : Option InFlight}
    {d : PendingDeregistration} (hf : ∀ d, f ≠ some (.deregistering d) ∧ ∀ refusal, f ≠ some (.deregistered d refusal))
    (h : (σ.move s c f).HasDeregistration c' d) : c' ≠ c ∧ σ.HasDeregistration c' d := by
  rcases hasDeregistration_move h with h | ⟨-, h | ⟨refusal, h⟩⟩
  · exact h
  · exact absurd h (hf d).1
  · exact absurd h ((hf d).2 refusal)

variable [IBackend β] [Environment β]

/-- The step is the last section of client `c`'s deregistration. -/
def Finishes (σ : System β) (l : Option (Action β)) (c : Nat) : Prop :=
  l = some (.deregisterFinish c) ∧ ∃ d refusal, σ.clients c = some (.deregistered d refusal)

theorem finish_step (σ : System β) (c' : Nat) {c : Nat} {d : PendingDeregistration}
    (hd : (σ.exec (.deregisterFinish c')).HasDeregistration c d) :
    σ.HasDeregistration c d ∧ ¬Finishes σ (some (.deregisterFinish c')) c := by
  by_cases hf : ∃ d' refusal, σ.clients c' = some (.deregistered d' refusal)
  · obtain ⟨d', refusal, hc⟩ := hf
    simp only [System.exec, hc] at hd
    obtain ⟨hne, hold⟩ := hasDeregistration_of_move (by simp) hd
    refine ⟨hold, ?_⟩
    rintro ⟨hl, -⟩
    cases hl
    exact hne rfl
  · have hidle : σ.exec (.deregisterFinish c') = σ := by
      unfold System.exec
      dsimp only
      split
      · rename_i d' refusal hc
        exact absurd ⟨d', refusal, hc⟩ hf
      · rfl
    rw [hidle] at hd
    refine ⟨hd, ?_⟩
    rintro ⟨hl, hc⟩
    cases hl
    exact hf hc

/-- A deregistration in flight after a step was in flight before, and the step did not end it, or the step began
it. -/
theorem hasDeregistration_step {σ σ' : System β} {l : Option (Action β)} (h : (interleaved β).step σ l σ') {c : Nat}
    {d : PendingDeregistration} (hd : σ'.HasDeregistration c d) :
    (σ.HasDeregistration c d ∧ ¬Finishes σ l c) ∨
      ∃ r rec, l = some (.deregisterBegin c r) ∧ σ.runtime.registrations.lookup r = some rec ∧ rec.leaseCount = 0 ∧
        deregisterable rec.lifecycle = true ∧ d = pendingDeregistration r rec := by
  cases l with
  | none =>
    obtain ⟨-, hcl⟩ := h
    unfold System.HasDeregistration at hd ⊢
    rw [hcl] at hd
    exact .inl ⟨hd, by simp [Finishes]⟩
  | some a =>
    obtain rfl : σ' = σ.exec a := h
    by_cases ha : ∃ c', a = .deregisterFinish c'
    · obtain ⟨c', rfl⟩ := ha
      exact .inl (finish_step σ c' hd)
    · have hnot : ¬Finishes σ (some a) c := by
        rintro ⟨hl, -⟩
        exact ha ⟨c, Option.some.inj hl⟩
      generalize σ.exec a = σ', σ.exec_cases a = hs at hd
      cases hs with
      | idle => exact .inl ⟨hd, hnot⟩
      | atomic op s he => exact .inl ⟨hd, hnot⟩
      | deregisterBegun c₀ r rec hc hr hn hl =>
        rcases hasDeregistration_move hd with ⟨-, hold⟩ | ⟨rfl, hf | ⟨refusal, hf⟩⟩
        · exact .inl ⟨hold, hnot⟩
        · cases hf
          exact .inr ⟨r, rec, rfl, hr, hn, hl, rfl⟩
        · cases hf
      -- the call carries the deregistration on
      | deregisterSkipped c₀ d₀ hc hs =>
        rcases hasDeregistration_move hd with ⟨-, hold⟩ | ⟨rfl, hf | ⟨refusal, hf⟩⟩
        · exact .inl ⟨hold, hnot⟩
        · cases hf
        · cases hf
          exact .inl ⟨.inl hc, hnot⟩
      | deregisterCalled c₀ d₀ b b' bo hc hv hb he =>
        rcases hasDeregistration_move hd with ⟨-, hold⟩ | ⟨rfl, hf | ⟨refusal, hf⟩⟩
        · exact .inl ⟨hold, hnot⟩
        · cases hf
        · cases hf
          exact .inl ⟨.inl hc, hnot⟩
      | deregisterFinished c₀ => exact absurd ⟨c₀, rfl⟩ ha
      | called c₀ p b b' bo bout hc hb he =>
        have hf : ∀ d, (if bo.ok then some (InFlight.registered p bout) else none) ≠ some (.deregistering d) ∧
            ∀ refusal, (if bo.ok then some (InFlight.registered p bout) else none) ≠
              some (.deregistered d refusal) := by
          intro d
          split <;> simp
        exact .inl ⟨(hasDeregistration_of_move hf hd).2, hnot⟩
      | begun | vanished | committed => exact .inl ⟨(hasDeregistration_of_move (by simp) hd).2, hnot⟩

/-- Every deregistration in flight finds its record DEREGISTERING and without leases, and no two are for one
record. -/
structure Draining (σ : System β) : Prop where
  record : ∀ c d, σ.HasDeregistration c d → ∃ rec, σ.runtime.registrations.lookup d.registration = some rec ∧
    rec.lifecycle = .deregistering ∧ rec.leaseCount = 0
  alone : ∀ c c' d d', σ.HasDeregistration c d → σ.HasDeregistration c' d' → d.registration = d'.registration → c = c'

/-- A record that is being deregistered stays so, unless another one takes its place or its client finishes. -/
theorem draining_record {σ σ' : System β} {l : Option (Action β)} (h : (interleaved β).step σ l σ')
    (hi : Draining σ) {c : Nat} {d : PendingDeregistration} (hd : σ.HasDeregistration c d) (hn : ¬Finishes σ l c)
    (ha : ∀ rec', ¬Arrives σ l d.registration rec') :
    ∃ rec', σ'.runtime.registrations.lookup d.registration = some rec' ∧ rec'.lifecycle = .deregistering ∧
      rec'.leaseCount = 0 := by
  obtain ⟨rec, hr, hlife, hcount⟩ := hi.record c d hd
  have hs := recordStep h d.registration
  rw [hr] at hs
  generalize ho' : σ'.runtime.registrations.lookup d.registration = o' at hs
  cases hs with
  | keep => exact ⟨rec, rfl, hlife, hcount⟩
  | leases rec n =>
    refine ⟨_, rfl, hlife, ?_⟩
    rcases leaseCount_step h ho' with hnew | ⟨rec₀, hr₀, hn⟩
    · exact absurd hnew (ha _)
    · obtain rfl := Option.some.inj (hr.symm.trans hr₀)
      have hdead : rec.lifecycle.isLive = false := by rw [hlife]; rfl
      rcases (leaseOp_fits σ l).leaseCount hr hdead with hc | ⟨hpos, -⟩
      · rw [hn, hc, hcount]
      · rw [hcount] at hpos
        exact absurd hpos (by decide)
  | destroyed d₀ rec hl hit => simp [inDomain, hlife, RegistrationLifecycle.isLive] at hit
  | reallocated descriptor rec hl hit => simp [onBuffer, hlife, RegistrationLifecycle.isLive] at hit
  | hardRevoked rec hl hlive | softRevoked rec hl hlive | rotated rec hl hlive =>
    rw [hlife] at hlive
    cases hlive
  | recovered bytes state rec₀ o hl hp hm hid => exact absurd (.inr ⟨bytes, state, rec₀, hl, hp, hm, hid, rfl⟩) (ha _)
  | committed c₀ p bout o hl hc hid => exact absurd (.inl ⟨c₀, p, bout, hl, hc, hid, rfl⟩) (ha _)
  | deregistering c₀ rec hl hc hdl =>
    rw [hlife] at hdl
    cases hdl
  -- only the client of the deregistration ends it
  | failed c₀ d₀ bo rec hl hc hid =>
    have := hi.alone c c₀ d d₀ hd (.inr ⟨_, hc⟩) hid.symm
    exact absurd ⟨this ▸ hl, this ▸ ⟨_, _, hc⟩⟩ hn
  | removed c₀ d₀ rec hl hc hid =>
    have := hi.alone c c₀ d d₀ hd (.inr ⟨_, hc⟩) hid.symm
    exact absurd ⟨this ▸ hl, this ▸ ⟨_, _, hc⟩⟩ hn

/-- Deregistrations in flight keep their records as long as no other record takes the place of one. -/
theorem draining_step {σ σ' : System β} {l : Option (Action β)} (h : (interleaved β).step σ l σ')
    (ha : ∀ c d rec', σ.HasDeregistration c d → ¬Arrives σ l d.registration rec') (hi : Draining σ) : Draining σ' := by
  -- a deregistration begins on a record that no other one holds
  have hfree : ∀ c d r rec, σ.HasDeregistration c d → σ.runtime.registrations.lookup r = some rec →
      deregisterable rec.lifecycle = true → d.registration ≠ r := by
    rintro c d _ rec hd hr hl rfl
    obtain ⟨rec₀, hr₀, hlife, -⟩ := hi.record c d hd
    obtain rfl := Option.some.inj (hr₀.symm.trans hr)
    rw [hlife] at hl
    cases hl
  constructor
  · intro c d hd
    rcases hasDeregistration_step h hd with ⟨hold, hn⟩ | ⟨r, rec, rfl, hr, hn, hl, rfl⟩
    · exact draining_record h hi hold hn (ha c d · hold)
    · obtain rfl : σ' = σ.exec (.deregisterBegin c r) := h
      generalize σ.exec (.deregisterBegin c r) = σ', σ.exec_cases (.deregisterBegin c r) = hs at hd ⊢
      cases hs with
      | idle => exact absurd rfl (hfree c _ r rec hd hr hl)
      | deregisterBegun c r rec₀ hc hr₀ hn₀ hl₀ =>
        refine ⟨{ rec₀ with lifecycle := .deregistering }, ?_, rfl, hn₀⟩
        exact Table.lookup_put_self _ _ _
  · intro c c' d d' hd hd' hr
    rcases hasDeregistration_step h hd with ⟨hold, -⟩ | ⟨r, rec, rfl, hk, -, hl, rfl⟩
    · rcases hasDeregistration_step h hd' with ⟨hold', -⟩ | ⟨r, rec, rfl, hk, -, hl, rfl⟩
      · exact hi.alone c c' d d' hold hold' hr
      · exact absurd hr (hfree c d r rec hold hk hl)
    · rcases hasDeregistration_step h hd' with ⟨hold', -⟩ | ⟨r', rec', hl', -⟩
      · exact absurd hr.symm (hfree c' d' r rec hold' hk hl)
      · cases hl'
        rfl

omit [IBackend β] [Environment β] in
theorem draining_init : Draining ({} : System β) := by
  have hnone : ∀ c d, ¬({} : System β).HasDeregistration c d := by
    rintro c d (h | ⟨refusal, h⟩) <;> cases h
  exact ⟨fun c d hd => absurd hd (hnone c d), fun c c' d d' hd => absurd hd (hnone c d)⟩

end

end RdmaBuffer
