/-
After a recovery. Every recovered record is dormant, and as long as no registration is committed every record
stays so: no request is allowed, and no lease, revocation, rotation or reuse succeeds.
-/
import RdmaBuffer.Persistence.RoundTrip
import RdmaBuffer.Registry.Access
import RdmaBuffer.Runtime.Execution
import RdmaBuffer.Runtime.RecordStep

namespace RdmaBuffer

open Rdmabuffer

/-- A record that cannot be used and holds no material of a backend. -/
structure RegistrationRecord.Dormant (rec : RegistrationRecord) : Prop where
  freshness : rec.freshness ≠ .valid
  lifecycle : rec.lifecycle.isLive = false
  revoked : rec.remoteKey.revoked = true
  remoteOpaque : rec.remoteKey.opaqueValue = 0
  localOpaque : rec.localKey.opaqueValue = 0
  backendHandle : rec.backendHandle = []
  memoryRegionId : rec.memoryRegionId = {}

def Dormant {β : Type} (s : Rdmabuffer β) : Prop := ∀ r rec, s.registrations.lookup r = some rec → rec.Dormant

theorem dormant_recovered (rec : RegistrationRecord) : (recoveredRecord rec).Dormant := by
  constructor <;> simp [recoveredRecord, RegistrationLifecycle.isLive]

/-! ## Dormant records are of no use -/

section

variable {β : Type} {s : Rdmabuffer β} (hi : Dormant s)

include hi

theorem Dormant.not_allowed [IBackend β] (q : RemoteAccessRequest) : (s.validateRemoteAccess q).2.outcome ≠ .allow := by
  intro ha
  obtain ⟨rec, b, hq⟩ := (allow_iff s q).1 ha
  exact (hi _ rec hq.registration).freshness hq.freshness

theorem Dormant.not_leased (r : RegistrationId) (env : AuthorityEnvelope) (needed : AccessMask) :
    (s.acquireLease r env needed).2.ok = false := by
  by_contra h
  obtain ⟨-, rec, hr, -, hv, -⟩ := acquireLease_granted (Bool.not_eq_false _ ▸ h)
  exact (hi r rec hr).freshness hv

theorem Dormant.not_revoked (r : RegistrationId) (mode : RevocationMode) : (s.revoke r mode).2.ok = false := by
  by_contra h
  obtain ⟨rec, hr, hl, -⟩ := revoke_ok (Bool.not_eq_false _ ▸ h)
  rw [(hi r rec hr).lifecycle] at hl
  cases hl

theorem Dormant.not_rotated [IBackend β] (r : RegistrationId) : (s.rotateKey r).2.1 = false := by
  by_contra h
  obtain ⟨rec, hr, hl, -⟩ := rotateKey_ok (Bool.not_eq_false _ ▸ h)
  rw [(hi r rec hr).lifecycle] at hl
  cases hl

theorem Dormant.not_reused (descriptor : BufferDescriptor) (backend : BackendId) (domain : ProtectionDomainId)
    (env : AuthorityEnvelope) : (s.registerBufferReuse descriptor backend domain env).2.ok = false := by
  by_contra h
  obtain ⟨-, r, rec, hr, hc, -⟩ := registerBufferReuse_hit (.inl (Bool.not_eq_false _ ▸ h))
  exact (hi r rec hr).freshness hc.valid

end

/-! ## Every step keeps the records dormant -/

section

variable {β : Type} [IBackend β] [Environment β]

/-- The step is the successful end of a `register_buffer`. -/
def commitsRegistration (σ : System β) : Option (Action β) → Bool
  | some (.registerCommit c) =>
    match σ.clients c with
    | some (.registered _ _) => true
    | _ => false
  | _ => false

theorem dormant_step {σ σ' : System β} {l : Option (Action β)} (h : (interleaved β).step σ l σ')
    (hc : commitsRegistration σ l = false) (hi : Dormant σ.runtime) : Dormant σ'.runtime := by
  intro r rec' hr'
  have hs := recordStep h r
  rw [hr'] at hs
  generalize ho : σ.runtime.registrations.lookup r = o at hs
  cases hs with
  | keep => exact hi r rec' ho
  | leases rec n => exact { hi r rec ho with }
  | destroyed d rec hl hit => exact { hi r rec ho with freshness := by simp [withdraw], lifecycle := rfl }
  | reallocated descriptor rec hl hit =>
    exact { hi r rec ho with freshness := by simp [withdraw], lifecycle := rfl }
  | hardRevoked rec hl hlive | softRevoked rec hl hlive | rotated rec hl hlive =>
    -- these need a live record
    rw [(hi r rec ho).lifecycle] at hlive
    cases hlive
  | recovered bytes state rec o hl hp hm hid => exact dormant_recovered rec
  | committed c p bout o hl hcl hid =>
    subst hl
    simp [commitsRegistration, hcl] at hc
  | deregistering c rec hl hcl hd hn => exact { hi r rec ho with lifecycle := rfl }
  | failed c d bo rec hl hcl hid => exact { hi r rec ho with lifecycle := rfl }

theorem dormant_path {σ σ' : System β} {t : List (Lts.Transition (System β) (Option (Action β)))}
    (h : (interleaved β).Path σ t σ') (hc : ∀ x ∈ t, commitsRegistration x.pre x.label = false)
    (hi : Dormant σ.runtime) :
    Dormant σ'.runtime :=
  h.inv_of (I := fun σ => Dormant σ.runtime) (fun _ _ _ hs hc hi => dormant_step hs hc hi) hc hi

/-! ## The recovered runtime -/

omit [IBackend β] [Environment β] in
theorem dormant_recover {bytes : Bytes} {state : PersistableState} (hp : Persistence.parse bytes = .ok state)
    (backends : Table BackendId β) : Dormant (recover { backends := backends } (some bytes)).1 := by
  intro r rec hr
  rw [recover_of_parse _ hp] at hr
  rcases (restore_spec { backends := backends } state).registration r with ⟨-, hlk⟩ | ⟨rec', -, -, hlk⟩
  · rw [hlk] at hr
    cases hr
  · rw [hlk] at hr
    cases hr
    exact dormant_recovered rec'

/-- A file recovered into a fresh runtime, and any operations after it that commit no registration: no request is
allowed, no lease, revocation, rotation or reuse succeeds, and no record is VALID or holds key or handle
material. -/
theorem nothing_live_after_recovery {bytes : Bytes} {state : PersistableState}
    (hp : Persistence.parse bytes = .ok state)
    (backends : Table BackendId β) {t : List (Lts.Transition (System β) (Option (Action β)))} {σ : System β}
    (h : (interleaved β).Path (idle (recover { backends := backends } (some bytes)).1) t σ)
    (hc : ∀ x ∈ t, commitsRegistration x.pre x.label = false) :
    (∀ q, (σ.runtime.validateRemoteAccess q).2.outcome ≠ .allow) ∧
    (∀ r env needed, (σ.runtime.acquireLease r env needed).2.ok = false) ∧
    (∀ r mode, (σ.runtime.revoke r mode).2.ok = false) ∧
    (∀ r, (σ.runtime.rotateKey r).2.1 = false) ∧
    (∀ descriptor backend domain env, (σ.runtime.registerBufferReuse descriptor backend domain env).2.ok = false) ∧
    ∀ r rec, σ.runtime.registrations.lookup r = some rec →
      rec.remoteKey.revoked = true ∧ rec.remoteKey.opaqueValue = 0 ∧ rec.localKey.opaqueValue = 0 ∧
        rec.backendHandle = [] ∧ rec.freshness ≠ .valid := by
  have hi : Dormant σ.runtime := dormant_path h hc (dormant_recover hp backends)
  refine ⟨hi.not_allowed, hi.not_leased, hi.not_revoked, hi.not_rotated, hi.not_reused, ?_⟩
  intro r rec hr
  have hrec := hi r rec hr
  exact ⟨hrec.revoked, hrec.remoteOpaque, hrec.localOpaque, hrec.backendHandle, hrec.freshness⟩

end

open Session Persistence

/-- A recovered page may be given a new generation and its registration be deregistered. -/
theorem nothing_live_after_recovery_saved :
    ∃ t σ, (interleaved Backend).Path (idle (recover {} (some (serialize Persistence.saved))).1) t σ ∧
      (∀ x ∈ t, commitsRegistration x.pre x.label = false) ∧
      ∀ q, (σ.runtime.validateRemoteAccess q).2.outcome ≠ .allow := by
  have hp := System.path_run (idle (recover ({} : Rdmabuffer Backend) (some (serialize Persistence.saved))).1)
    [.atomic (.setAuthority snapshot), .atomic (.createBuffer { page with generation := ⟨2⟩ }),
      .deregisterBegin 0 ⟨9⟩]
  have hc : ∀ x ∈ System.trace (idle (recover ({} : Rdmabuffer Backend) (some (serialize Persistence.saved))).1)
      [.atomic (.setAuthority snapshot), .atomic (.createBuffer { page with generation := ⟨2⟩ }),
        .deregisterBegin 0 ⟨9⟩], commitsRegistration x.pre x.label = false := by
    intro x hx
    simp only [System.trace, Lts.trace, List.mem_cons, List.not_mem_nil, or_false] at hx
    rcases hx with rfl | rfl | rfl <;> rfl
  exact ⟨_, _, hp, hc, (nothing_live_after_recovery parse_saved ∅ hp hc).1⟩

end RdmaBuffer
