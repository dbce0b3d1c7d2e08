/-
Access while a registration is being deregistered. The access check refuses by freshness, which a
deregistration does not touch: access ends with the lifecycle as long as no deregistration begins
on, or fails, a registration that is still VALID.
-/
import RdmaBuffer.Registry.Access
import RdmaBuffer.Runtime.Execution
import RdmaBuffer.Runtime.RecordStep

namespace RdmaBuffer

open Rdmabuffer

section

variable {β : Type} [IBackend β] [Environment β]

/-- The step begins to deregister, or fails, a registration that is still VALID. -/
def cutsValid (σ : System β) : Option (Action β) → Bool
  | some (.deregisterBegin c r) =>
    match σ.clients c, σ.runtime.registrations.lookup r with
    | none, some rec => rec.freshness == .valid && rec.leaseCount == 0 && deregisterable rec.lifecycle
    | _, _ => false
  | some (.deregisterFinish c) =>
    match σ.clients c with
    | some (.deregistered d (some _)) =>
      (σ.runtime.registrations.lookup d.registration).any fun rec => rec.freshness == .valid
    | _ => false
  | _ => false

/-- Every VALID registration is ACTIVE or REGISTERED. -/
def ValidLive (s : Rdmabuffer β) : Prop :=
  ∀ r rec, s.registrations.lookup r = some rec → rec.freshness = .valid → rec.lifecycle.isLive = true

theorem validLive_step {σ σ' : System β} {l : Option (Action β)} (h : (interleaved β).step σ l σ')
    (hc : cutsValid σ l = false) (hi : ValidLive σ.runtime) : ValidLive σ'.runtime := by
  intro r rec' hr' hv
  have hs := recordStep h r
  rw [hr'] at hs
  generalize ho : σ.runtime.registrations.lookup r = o at hs
  cases hs with
  | keep => exact hi r rec' ho hv
  | leases rec n => exact hi r rec ho hv
  | destroyed | reallocated | hardRevoked | softRevoked | recovered => cases hv
  | rotated rec hl hlive => exact hlive
  | committed => rfl
  | deregistering c rec hl hcl hd hn =>
    subst hl
    have hv : rec.freshness = .valid := hv
    simp [cutsValid, hcl, ho, hv, hn, hd] at hc
  | failed c d bo rec hl hcl hid =>
    subst hl hid
    have hv : rec.freshness = .valid := hv
    simp [cutsValid, hcl, ho, hv] at hc

theorem validLive_run {t : List (Lts.Transition (System β) (Option (Action β)))} {σ : System β}
    (h : (interleaved β).Run t σ) (hc : ∀ x ∈ t, cutsValid x.pre x.label = false) : ValidLive σ.runtime :=
  h.inv_of (I := fun σ => ValidLive σ.runtime) (by rintro _ rfl r rec hr; cases hr)
    (fun _ _ _ hs hc hi => validLive_step hs hc hi) hc

/-- A step that begins to deregister a VALID registration, spelled out. -/
theorem cutsValid_begin {σ : System β} {c : Nat} {r : RegistrationId}
    (h : cutsValid σ (some (.deregisterBegin c r)) = true) :
    ∃ rec, σ.runtime.registrations.lookup r = some rec ∧
      σ.exec (.deregisterBegin c r) = σ.move
        { σ.runtime with
          registrations := Table.put r { rec with lifecycle := .deregistering } σ.runtime.registrations }
        c (some (.deregistering (pendingDeregistration r rec))) := by
  unfold cutsValid at h
  dsimp only at h
  split at h
  · rename_i rec hc hr
    simp only [Bool.and_eq_true, beq_iff_eq] at h
    exact ⟨rec, hr, by simp [System.exec, hc, deregisterBegin, hr, h, pendingDeregistration]⟩
  · cases h

/-- An allowed request stays allowed while its registration is DEREGISTERING. -/
theorem allows_deregistering {σ : System β} {c : Nat} {q : RemoteAccessRequest}
    (hcut : cutsValid σ (some (.deregisterBegin c q.sourceRegistration)) = true)
    (ha : (σ.runtime.validateRemoteAccess q).2.outcome = .allow) :
    ((σ.exec (.deregisterBegin c q.sourceRegistration)).runtime.validateRemoteAccess q).2.outcome = .allow ∧
      ∃ rec, (σ.exec (.deregisterBegin c q.sourceRegistration)).runtime.registrations.lookup q.sourceRegistration =
        some rec ∧ rec.lifecycle = .deregistering := by
  obtain ⟨rec, hr, he⟩ := cutsValid_begin hcut
  obtain ⟨rec', b, h⟩ := (allow_iff _ _).1 ha
  obtain rfl : rec = rec' := Option.some.inj (hr.symm.trans h.registration)
  have hl : (Table.put q.sourceRegistration { rec with lifecycle := .deregistering }
      σ.runtime.registrations).lookup q.sourceRegistration = some { rec with lifecycle := .deregistering } := by
    rw [Table.lookup_put_self]
  rw [he]
  refine ⟨(allow_iff _ _).2 ⟨{ rec with lifecycle := .deregistering }, b, ?_⟩, _, hl, rfl⟩
  exact { h with registration := hl, lifecycle := by simp }

/-- In every run in which no deregistration begins on or fails a VALID registration, ALLOW names an
ACTIVE or REGISTERED record; and a deregistration that does begin on a VALID one leaves every
request it allowed allowed. -/
theorem allow_only_while_live :
    (∀ (t : List (Lts.Transition (System β) (Option (Action β)))) (σ : System β), (interleaved β).Run t σ →
      (∀ x ∈ t, cutsValid x.pre x.label = false) → ∀ q, (σ.runtime.validateRemoteAccess q).2.outcome = .allow →
        ∃ rec, σ.runtime.registrations.lookup q.sourceRegistration = some rec ∧
          (rec.lifecycle = .active ∨ rec.lifecycle = .registered)) ∧
    ∀ (σ : System β) (c : Nat) (q : RemoteAccessRequest),
      cutsValid σ (some (.deregisterBegin c q.sourceRegistration)) = true →
      (σ.runtime.validateRemoteAccess q).2.outcome = .allow →
      ((σ.exec (.deregisterBegin c q.sourceRegistration)).runtime.validateRemoteAccess q).2.outcome = .allow ∧
        ∃ rec, (σ.exec (.deregisterBegin c q.sourceRegistration)).runtime.registrations.lookup q.sourceRegistration =
          some rec ∧ rec.lifecycle = .deregistering := by
  refine ⟨fun t σ h hc q ha => ?_, fun σ c q hcut ha => allows_deregistering hcut ha⟩
  obtain ⟨rec, b, hq⟩ := (allow_iff _ _).1 ha
  refine ⟨rec, hq.registration, ?_⟩
  simpa [RegistrationLifecycle.isLive] using validLive_run h hc _ rec hq.registration hq.freshness

end

open Session

/-- The page is hard-revoked, and registered again while the revoked registration is being deregistered. -/
def revokedBeside : List (Action Backend) :=
  registration 0 page ++ [.atomic (.revoke ⟨1⟩ .hardRevoke), .deregisterBegin 0 ⟨1⟩] ++ registration 1 page ++
    [.deregisterCall 0]

/-- A hard-revoked registration may be deregistered without cutting off a VALID one, and another is allowed meanwhile. -/
theorem allow_only_while_live_revoked :
    ∃ t, (interleaved Backend).Run t (after revokedBeside) ∧ (∀ x ∈ t, cutsValid x.pre x.label = false) ∧
      ∃ q rec, ((after revokedBeside).runtime.validateRemoteAccess q).2.outcome = .allow ∧
        (after revokedBeside).runtime.registrations.lookup q.sourceRegistration = some rec ∧
        (rec.lifecycle = .active ∨ rec.lifecycle = .registered) := by
  have hr : (interleaved Backend).Run _ (after revokedBeside) := ⟨{}, rfl, System.path_run _ _⟩
  have hc : ∀ x ∈ System.trace {} (setup.map .atomic ++ revokedBeside), cutsValid x.pre x.label = false := by
    decide +kernel
  have ha : ((after revokedBeside).runtime.validateRemoteAccess (write ⟨2⟩)).2.outcome = .allow := by decide +kernel
  obtain ⟨rec, hrec⟩ := allow_only_while_live.1 _ _ hr hc _ ha
  exact ⟨_, hr, hc, _, rec, ha, hrec⟩

/-- A request on a registration that is DEREGISTERING is allowed. -/
theorem deregistering_allowed :
    ∃ t σ q rec, (interleaved Backend).Run t σ ∧ (σ.runtime.validateRemoteAccess q).2.outcome = .allow ∧
      σ.runtime.registrations.lookup q.sourceRegistration = some rec ∧ rec.lifecycle = .deregistering := by
  obtain ⟨t, h⟩ := run_after (registration 0 page ++ [.deregisterBegin 0 ⟨1⟩])
  exact ⟨t, _, write ⟨1⟩, _, h, by decide, rfl, by decide⟩

end RdmaBuffer
