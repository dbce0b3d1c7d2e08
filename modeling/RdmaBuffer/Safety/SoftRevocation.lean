/-
Soft revocation. A record that is soft-revoked while leases are outstanding is REVOKING, and nothing but a release
changes it then; but a release never looks at the lifecycle, so the record stays REVOKING when its last lease goes.
-/
import RdmaBuffer.Runtime.Draining
import RdmaBuffer.Runtime.Execution
import RdmaBuffer.Runtime.Refusals

namespace RdmaBuffer

open Rdmabuffer

section

variable {β : Type} [IBackend β] [Environment β]

/-- The step releases the last lease of a REVOKING record. -/
def releasesLast (σ : System β) (l : Option (Action β)) : Bool :=
  match leaseOp σ l with
  | .release _ ls =>
    (σ.runtime.registrations.lookup ls.registration).any fun rec => rec.lifecycle == .revoking && rec.leaseCount == 1
  | _ => false

/-- Every REVOKING record has leases. -/
def RevokingLeased (s : Rdmabuffer β) : Prop :=
  ∀ r rec, s.registrations.lookup r = some rec → rec.lifecycle = .revoking → rec.leaseCount > 0

/-- Soft-revoked registrations drain: a REVOKING record has leases, and becomes REVOKED, so that it can be
deregistered and its buffer registered again, as the last of them is released. -/
structure SoftRevocationDrains (t : List (Lts.Transition (System β) (Option (Action β)))) : Prop where
  leased : ∀ x ∈ t, RevokingLeased x.post.runtime
  drained : ∀ x ∈ t, ∀ lease ls rec, leaseOp x.pre x.label = .release lease ls →
    x.pre.runtime.registrations.lookup ls.registration = some rec → rec.lifecycle = .revoking → rec.leaseCount = 1 →
    ∃ rec', x.post.runtime.registrations.lookup ls.registration = some rec' ∧ rec'.lifecycle = .revoked ∧
      (∃ d, (x.post.runtime.deregisterBegin ls.registration).2 = .ok d) ∧
      ((x.post.runtime.deregister ls.registration).2.1 = true → ∀ descriptor backend domain env,
        descriptor.id = rec'.bufferId →
          ((x.post.runtime.deregister ls.registration).1.registerBuffer descriptor backend domain env).2 ≠
            registrationInFlight)

/-! ## One step -/

/-- A record that is REVOKING after a step was so before, or the step revoked it with leases outstanding. -/
theorem revoking_step {σ σ' : System β} {l : Option (Action β)} (h : (interleaved β).step σ l σ') {r : RegistrationId}
    {rec' : RegistrationRecord} (hr' : σ'.runtime.registrations.lookup r = some rec')
    (hl' : rec'.lifecycle = .revoking) :
    rec'.leaseCount > 0 ∨ ∃ rec, σ.runtime.registrations.lookup r = some rec ∧ rec.lifecycle = .revoking ∧
      rec'.leaseCount = (leaseOp σ l).leaseCount r rec.leaseCount := by
  rcases leaseCount_step h hr' with hnew | ⟨rec, hr, hn⟩
  · -- no record arrives REVOKING
    rcases hnew with ⟨c, p, bout, -, -, -, rfl⟩ | ⟨bytes, state, rec, -, -, -, -, rfl⟩ <;> cases hl'
  · have hs := recordStep h r
    rw [hr, hr'] at hs
    generalize ho : some rec' = o' at hs
    cases hs with
    | keep =>
      cases ho
      exact .inr ⟨rec', hr, hl', hn⟩
    | leases =>
      cases ho
      exact .inr ⟨rec, hr, hl', hn⟩
    | softRevoked =>
      cases ho
      left
      have hne : rec.leaseCount ≠ 0 := by
        intro hz
        simp [softRevoked, hz] at hl'
      exact UInt64.pos_iff_ne_zero.2 hne
    | rotated _ _ hlive =>
      cases ho
      have hl' : rec.lifecycle = .revoking := hl'
      rw [hl'] at hlive
      cases hlive
    | destroyed | reallocated | hardRevoked | recovered | committed | deregistering | failed =>
      cases ho
      cases hl'
    | removed => cases ho

/-- The release of the last lease leaves a REVOKING record without leases. -/
theorem releasesLast_step {σ σ' : System β} {l : Option (Action β)} (h : (interleaved β).step σ l σ')
    (hl : releasesLast σ l = true) : ¬RevokingLeased σ'.runtime := by
  unfold releasesLast at hl
  split at hl
  · rename_i lease ls hop
    obtain ⟨rec, hr, hrec⟩ := (Option.any_eq_true _ _).1 hl
    simp only [Bool.and_eq_true, beq_iff_eq] at hrec
    have hput := release_step h hop hr (by rw [hrec.2]; decide)
    intro hi
    have hpos : rec.leaseCount - 1 > 0 := hi _ _ hput hrec.1
    rw [hrec.2] at hpos
    exact absurd hpos (by decide)
  · cases hl

theorem revokingLeased_step {σ σ' : System β} {l : Option (Action β)} (h : (interleaved β).step σ l σ')
    (hl : releasesLast σ l = false) (hi : RevokingLeased σ.runtime) : RevokingLeased σ'.runtime := by
  intro r rec' hr' hlife'
  rcases revoking_step h hr' hlife' with hpos | ⟨rec, hr, hlife, hn⟩
  · exact hpos
  · have hpos := hi r rec hr hlife
    have hdead : rec.lifecycle.isLive = false := by rw [hlife]; rfl
    rcases (leaseOp_fits σ l).leaseCount hr hdead with hc | ⟨-, hc, lease, ls, hop, rfl⟩
    · rw [hn, hc]
      exact hpos
    · -- a lease was released, and it was not the last
      have hne : rec.leaseCount ≠ 1 := by
        intro hone
        simp [releasesLast, hop, hr, hlife, hone] at hl
      have hpos₀ : rec.leaseCount.toNat ≠ 0 ∧ rec.leaseCount.toNat ≠ 1 := by
        constructor
        · rw [gt_iff_lt, UInt64.lt_iff_toNat_lt, UInt64.toNat_zero] at hpos
          omega
        · intro hone
          exact hne (UInt64.toNat_inj.1 hone)
      rw [hn, hc, gt_iff_lt, UInt64.lt_iff_toNat_lt, UInt64.toNat_zero,
        UInt64.toNat_sub_of_le _ _ (UInt64.le_iff_toNat_le.2 (by rw [UInt64.toNat_one]; omega)), UInt64.toNat_one]
      omega

/-! ## The run -/

theorem revokingLeased_run {t : List (Lts.Transition (System β) (Option (Action β)))} {σ : System β}
    (h : (interleaved β).Run t σ) (hl : ∀ x ∈ t, releasesLast x.pre x.label = false) : RevokingLeased σ.runtime := by
  refine h.inv_of (I := fun σ => RevokingLeased σ.runtime) (C := fun x => releasesLast x.pre x.label = false) ?_
    (fun _ _ _ hs hc hi => revokingLeased_step hs hc hi) hl
  rintro _ rfl r rec hr
  cases hr

/-- Soft-revoked registrations drain in a run exactly when no release is of the last lease of a REVOKING record. -/
theorem soft_revocation_iff (t : List (Lts.Transition (System β) (Option (Action β)))) (σ : System β)
    (h : (interleaved β).Run t σ) : SoftRevocationDrains t ↔ ∀ x ∈ t, releasesLast x.pre x.label = false := by
  constructor
  · intro hd x hx
    have hs := h.step_mem hx
    by_contra hl
    exact releasesLast_step hs (Bool.not_eq_false _ ▸ hl) (hd.leased x hx)
  · intro hl
    constructor
    · intro x hx
      obtain ⟨t₁, hpre, hrun⟩ := h.upto hx
      exact revokingLeased_run hrun fun y hy => hl y (hpre.subset hy)
    · intro x hx lease ls rec hop hr hlife hone
      have := hl x hx
      simp [releasesLast, hop, hr, hlife, hone] at this

end

open Session

/-- Two leases on a registration that is then soft-revoked. -/
def softRevokedLeases : List (Action Backend) :=
  registration 0 page ++
    [.atomic (.acquireLease ⟨1⟩ envelope 0x08), .atomic (.acquireLease ⟨1⟩ envelope 0x08),
      .atomic (.revoke ⟨1⟩ .softRevoke)]

theorem soft_revocation_iff_first : ∃ t, (interleaved Backend).Run t
    (after (softRevokedLeases ++ [.atomic (.releaseLease ⟨2⟩)])) ∧ t.length = 11 ∧ SoftRevocationDrains t := by
  have hr : (interleaved Backend).Run _ (after (softRevokedLeases ++ [.atomic (.releaseLease ⟨2⟩)])) :=
    ⟨{}, rfl, System.path_run _ _⟩
  exact ⟨_, hr, rfl, (soft_revocation_iff _ _ hr).2 (by decide +kernel)⟩

/-- Both leases are released. -/
def drainedLeases : List (Action Backend) :=
  softRevokedLeases ++ [.atomic (.releaseLease ⟨2⟩), .atomic (.releaseLease ⟨1⟩)]

/-- The registration is still REVOKING without leases: it is neither deregistered, nor revoked, nor registered
again. -/
theorem revoking_without_leases : ∃ t σ, (interleaved Backend).Run t σ ∧ ¬SoftRevocationDrains t ∧
    (∃ rec, σ.runtime.registrations.lookup ⟨1⟩ = some rec ∧ rec.lifecycle = .revoking ∧ rec.leaseCount = 0) ∧
    (σ.runtime.deregister ⟨1⟩).2.1 = false ∧ (σ.runtime.revoke ⟨1⟩ .hardRevoke).2.ok = false ∧
    (σ.runtime.registerBuffer page synthetic ⟨1⟩ envelope).2.missReason = lit "REGISTRATION_IN_FLIGHT" := by
  have hr : (interleaved Backend).Run _ (after drainedLeases) := ⟨{}, rfl, System.path_run _ _⟩
  have hrec : ∃ rec, (after drainedLeases).runtime.registrations.lookup ⟨1⟩ = some rec ∧ rec.lifecycle = .revoking ∧
      rec.leaseCount = 0 := ⟨_, rfl, by decide +kernel, by decide +kernel⟩
  refine ⟨_, _, hr, ?_, hrec, by decide +kernel, by decide +kernel, by decide +kernel⟩
  intro hd
  obtain ⟨rec, hk, hlife, hz⟩ := hrec
  rcases hr.last with hinit | ⟨x, hx, hpost⟩
  · rw [show after drainedLeases = {} from hinit] at hk
    cases hk
  · have hpos := hd.leased x hx ⟨1⟩ rec (hpost ▸ hk) hlife
    rw [hz] at hpos
    exact absurd hpos (by decide)

end RdmaBuffer
