/-
Registrations in flight: which client carries which pending registration, that their ids are
distinct and already drawn from the counter, and that every record is stored under its own id.
-/
import RdmaBuffer.Lib.Word
import RdmaBuffer.Runtime.RecordStep

namespace RdmaBuffer

open Rdmabuffer

variable {β : Type} [IBackend β] [Environment β]

/-- Client `c` is between the first and the second section of the registration `p`. -/
def System.HasPending (σ : System β) (c : Nat) (p : PendingRegistration) : Prop :=
  σ.clients c = some (.registering p) ∨ ∃ bout, σ.clients c = some (.registered p bout)

omit [IBackend β] [Environment β] in
theorem hasPending_move {σ : System β} {s : Rdmabuffer β} {c c' : Nat} {f : Option InFlight} {p : PendingRegistration}
    (h : (σ.move s c f).HasPending c' p) :
    (c' ≠ c ∧ σ.HasPending c' p) ∨ (c' = c ∧ (f = some (.registering p) ∨ ∃ bout, f = some (.registered p bout))) := by
  rcases h with h | ⟨bout, h⟩
  · rcases System.clients_move h with ⟨hc, h⟩ | ⟨hc, h⟩
    · exact .inl ⟨hc, .inl h⟩
    · exact .inr ⟨hc, .inl h⟩
  · rcases System.clients_move h with ⟨hc, h⟩ | ⟨hc, h⟩
    · exact .inl ⟨hc, .inr ⟨bout, h⟩⟩
    · exact .inr ⟨hc, .inr ⟨bout, h⟩⟩

omit [IBackend β] [Environment β] in
/-- A client that moves on to anything but a registration leaves none in flight that was not. -/
theorem hasPending_of_move {σ : System β} {s : Rdmabuffer β} {c c' : Nat} {f : Option InFlight}
    {p : PendingRegistration}
    (hf : ∀ p, f ≠ some (.registering p) ∧ ∀ bout, f ≠ some (.registered p bout))
    (hp : (σ.move s c f).HasPending c' p) : σ.HasPending c' p := by
  rcases hasPending_move hp with ⟨-, h⟩ | ⟨-, h | ⟨bout, h⟩⟩
  · exact h
  · exact absurd h (hf p).1
  · exact absurd h ((hf p).2 bout)

/-- A registration in flight after a step was in flight before, or the step began it. -/
theorem hasPending_step {σ σ' : System β} {l : Option (Action β)} (h : (interleaved β).step σ l σ') {c : Nat}
    {p : PendingRegistration} (hp : σ'.HasPending c p) :
    σ.HasPending c p ∨ ∃ descriptor backend domain env b,
      l = some (.registerBegin c descriptor backend domain env) ∧
      Validated σ.runtime descriptor backend domain env b ∧
      p = pending σ.runtime b descriptor backend domain env := by
  cases l with
  | none =>
    obtain ⟨-, hcl⟩ := h
    unfold System.HasPending at hp ⊢
    rw [hcl] at hp
    exact .inl hp
  | some a =>
    obtain rfl : σ' = σ.exec a := h
    generalize σ.exec a = σ', σ.exec_cases a = hs at hp
    cases hs with
    | idle => exact .inl hp
    | atomic op s he => exact .inl hp
    -- the only section that puts a registration in flight
    | begun c₀ descriptor backend domain env b hcl hv =>
      rcases hasPending_move hp with ⟨-, h⟩ | ⟨rfl, hf | ⟨bout, hf⟩⟩
      · exact .inl h
      · simp only [Option.some.injEq, InFlight.registering.injEq] at hf
        exact .inr ⟨descriptor, backend, domain, env, b, rfl, hv, hf.symm⟩
      · cases hf
    -- the call carries the registration on
    | called c₀ p₀ b b' bo bout hcl hb he =>
      rcases hasPending_move hp with ⟨-, h⟩ | ⟨rfl, hf | ⟨bout', hf⟩⟩
      · exact .inl h
      · split at hf <;> cases hf
      · split at hf
        · simp only [Option.some.injEq, InFlight.registered.injEq] at hf
          exact .inl (.inl (hf.1 ▸ hcl))
        · cases hf
    | vanished | committed | deregisterBegun | deregisterSkipped | deregisterCalled | deregisterFinished =>
      exact .inl (hasPending_of_move (by simp) hp)

theorem effect_nextRegistration {s s' : Rdmabuffer β} {op : AtomicOp β} (he : Effect s op s') :
    s'.nextRegistration = s.nextRegistration := by
  cases he with
  | recovered bytes state hp => exact (restore_spec s state).nextRegistration
  | _ => rfl

/-- The id counter advances by one when a registration begins, and only then. -/
theorem nextRegistration_step {σ σ' : System β} {l : Option (Action β)} (h : (interleaved β).step σ l σ') :
    σ'.runtime.nextRegistration = σ.runtime.nextRegistration ∨
      σ'.runtime.nextRegistration = σ.runtime.nextRegistration + 1 := by
  cases l with
  | none =>
    obtain ⟨hr, -⟩ := h
    rw [hr.others]; exact .inl rfl
  | some a =>
    obtain rfl : σ' = σ.exec a := h
    generalize σ.exec a = σ', σ.exec_cases a = hs
    cases hs with
    | atomic op s he => exact .inl (effect_nextRegistration he)
    | begun => exact .inr rfl
    | deregisterFinished c d refusal hcl =>
      left
      simp only [System.move, deregisterFinish]
      split <;> rfl
    | _ => exact .inl rfl

theorem nextRegistration_le {σ σ' : System β} {l : Option (Action β)} (h : (interleaved β).step σ l σ')
    (hw : σ'.runtime.nextRegistration ≠ 0) :
    σ.runtime.nextRegistration.toNat ≤ σ'.runtime.nextRegistration.toNat := by
  rcases nextRegistration_step h with he | he
  · rw [he]
  · rw [he] at hw ⊢
    rw [UInt64.toNat_succ hw]
    omega

/-- A registration that begins draws an id, and the counter passes it. -/
theorem nextRegistration_begin {σ σ' : System β} {c : Nat} {descriptor : BufferDescriptor} {backend : BackendId}
    {domain : ProtectionDomainId} {env : AuthorityEnvelope} {p : PendingRegistration}
    (h : (interleaved β).step σ (some (.registerBegin c descriptor backend domain env)) σ') (hp : σ'.HasPending c p)
    (hn : ¬σ.HasPending c p) : σ'.runtime.nextRegistration = σ.runtime.nextRegistration + 1 := by
  obtain rfl : σ' = _ := h
  generalize σ.exec _ = σ', σ.exec_cases (.registerBegin c descriptor backend domain env) = hs at hp
  cases hs with
  | idle => exact absurd hp hn
  | begun => rfl

/-- The ids in flight are drawn from the counter, each by one client. -/
structure InFlightIds (σ : System β) : Prop where
  drawn : ∀ c p, σ.HasPending c p → p.record.id.value.toNat < σ.runtime.nextRegistration.toNat
  distinct : ∀ c c' p p', σ.HasPending c p → σ.HasPending c' p' → p.record.id = p'.record.id → c = c'

theorem inFlightIds_step {σ σ' : System β} {l : Option (Action β)} (h : (interleaved β).step σ l σ')
    (hw : σ'.runtime.nextRegistration ≠ 0) (hi : InFlightIds σ) : InFlightIds σ' := by
  have hle := nextRegistration_le h hw
  -- an id that was in flight differs from the counter before the step
  have hne : ∀ c p, σ.HasPending c p → p.record.id ≠ ⟨σ.runtime.nextRegistration⟩ := by
    intro c p hp he
    have := hi.drawn c p hp
    rw [he] at this
    exact absurd this (lt_irrefl _)
  refine ⟨fun c p hp => ?_, fun c c' p p' hp hp' he => ?_⟩
  · by_cases hold : σ.HasPending c p
    · exact (hi.drawn c p hold).trans_le hle
    · rcases hasPending_step h hp with h' | ⟨descriptor, backend, domain, env, b, rfl, hv, rfl⟩
      · exact absurd h' hold
      · have hn := nextRegistration_begin h hp hold
        rw [hn] at hw ⊢
        rw [UInt64.toNat_succ hw]
        exact Nat.lt_succ_self _
  · rcases hasPending_step h hp with h₁ | ⟨d, bk, dm, env, b, rfl, hv, rfl⟩
    · rcases hasPending_step h hp' with h₂ | ⟨d, bk, dm, env, b, rfl, hv, rfl⟩
      · exact hi.distinct c c' p p' h₁ h₂ he
      · exact absurd he (hne c p h₁)
    · rcases hasPending_step h hp' with h₂ | ⟨d', bk', dm', env', b', hl, hv', rfl⟩
      · exact absurd he.symm (hne c' p' h₂)
      · cases hl; rfl

theorem inFlightIds_run {t : List (Lts.Transition (System β) (Option (Action β)))} {σ : System β}
    (h : (interleaved β).Run t σ) (hw : ∀ x ∈ t, x.post.runtime.nextRegistration ≠ 0) : InFlightIds σ := by
  refine h.inv_of (I := InFlightIds) (C := fun x => x.post.runtime.nextRegistration ≠ 0) ?_
    (fun _ _ _ hs hw hi => inFlightIds_step hs hw hi) hw
  rintro _ rfl
  have hnone : ∀ c p, ¬({} : System β).HasPending c p := by
    rintro c p (h | ⟨bout, h⟩) <;> cases h
  exact ⟨fun c p hp => absurd hp (hnone c p), fun c c' p p' hp => absurd hp (hnone c p)⟩

end RdmaBuffer
