/-
When the access check, a lease and a reuse succeed: each stated as the facts it needs.
-/
import RdmaBuffer.Registry.TwoPhase

namespace RdmaBuffer

open Rdmabuffer

variable {β : Type} [IBackend β]

/-- An expected value is absent, or the actual one. -/
def Expects {α : Type} (valid : α → Bool) (expected actual : α) : Prop := valid expected = true → expected = actual

/-- An invalid value expects nothing. -/
theorem Expects.of_invalid {α : Type} {valid : α → Bool} {expected actual : α} (h : valid expected = false) :
    Expects valid expected actual := by
  intro hv
  rw [h] at hv
  cases hv

/-- The facts under which the access check answers ALLOW from the record `rec` and the backend
`b`. -/
structure Allows (s : Rdmabuffer β) (q : RemoteAccessRequest) (rec : RegistrationRecord) (b : β) : Prop where
  registration : s.registrations.lookup q.sourceRegistration = some rec
  lifecycle : rec.lifecycle ≠ .revoked ∧ rec.lifecycle ≠ .deregistered ∧ rec.lifecycle ≠ .stale ∧
    rec.lifecycle ≠ .revoking
  freshness : rec.freshness = .valid
  authority : Authorized s.authority q.authority
  registrationGeneration : Expects (·.isValid) q.expectedRegistrationGeneration rec.registrationGeneration
  bufferGeneration : Expects (·.isValid) q.expectedBufferGeneration rec.bufferGeneration
  keyGeneration : Expects (·.isValid) q.expectedRemoteKeyGeneration rec.remoteKey.keyGeneration
  unrevoked : rec.remoteKey.revoked = false
  backendNamed : Expects (·.isValid) q.backend rec.backend
  backend : s.backends.lookup rec.backend = some b
  backendGeneration : IBackend.generation b = rec.backendGeneration
  transport : Expects (·.isValid) q.transport rec.transport
  domain : Expects (·.isValid) q.domain rec.domainId
  rights : accessSuperset rec.grantedAccess q.requiredRights = true
  intrinsic : accessHas rec.grantedAccess (intrinsicRight q.kind) = true
  atomic : q.kind = .atomicCompareSwap → accessHas q.requiredRights .remoteAtomic = true →
    capabilityAllows (IBackend.capabilities b).remoteAtomic = true
  range : rangeInside rec.descriptor q.offset q.length = true
  confirmed : (IBackend.queryRemoteAccess b ⟨rec.memoryRegionId, rec.backendHandle⟩ (backDummyRemoteKey rec)
    q.kind q.offset q.length).2.1 = .allow

omit [IBackend β] in
theorem decision_outcome (s : Rdmabuffer β) (o : AccessOutcome) (e : StdString) : (s.decision o e).2.outcome = o :=
  rfl

omit [IBackend β] in
/-- A check that rejects with another decision is passed by every request of the outcome. -/
theorem ite_decision_outcome {s : Rdmabuffer β} {o o' : AccessOutcome} {e : StdString} {c : Prop} [Decidable c]
    {x : Rdmabuffer β × AccessDecision} (ho : o ≠ o') :
    (if c then s.decision o e else x).2.outcome = o' ↔ ¬c ∧ x.2.outcome = o' := by
  split
  · rename_i h; simp [decision_outcome, ho, h]
  · rename_i h; simp [h]

theorem not_and_iff_expects {α : Type} {valid : α → Bool} {e a : α} :
    ¬(valid e = true ∧ e ≠ a) ↔ Expects valid e a := by
  unfold Expects
  constructor
  · intro h hv
    by_contra hne
    exact h ⟨hv, hne⟩
  · rintro h ⟨hv, hne⟩
    exact hne (h hv)

omit [IBackend β] in
/-- The backend's verdict decides when every other check is passed. -/
theorem ite_query_allow {s s' : Rdmabuffer β} {o : AccessOutcome} {e e' : StdString} :
    (if o ≠ .allow then s.decision o e else s'.decision .allow e').2.outcome = .allow ↔ o = .allow := by
  split
  · rename_i h; simp [decision_outcome, h]
  · rename_i h; simpa [decision_outcome] using h

theorem Allows.of_lookup {s : Rdmabuffer β} {q : RemoteAccessRequest} {rec rec' : RegistrationRecord} {b b' : β}
    (h : Allows s q rec' b') (hr : s.registrations.lookup q.sourceRegistration = some rec)
    (hb : s.backends.lookup rec.backend = some b) : Allows s q rec b := by
  obtain rfl : rec = rec' := Option.some.inj (hr.symm.trans h.registration)
  obtain rfl : b = b' := Option.some.inj (hb.symm.trans h.backend)
  exact h

/-- The access check answers ALLOW exactly when all its facts hold. -/
theorem allow_iff (s : Rdmabuffer β) (q : RemoteAccessRequest) :
    (s.validateRemoteAccess q).2.outcome = .allow ↔ ∃ rec b, Allows s q rec b := by
  unfold validateRemoteAccess
  rcases hr : s.registrations.lookup q.sourceRegistration with _ | rec
  · simp only [decision_outcome, reduceCtorEq, false_iff, not_exists]
    intro rec b h
    rw [h.registration] at hr
    cases hr
  · dsimp only
    -- every refusal in front of the verdict is turned into the negation of its test
    rw [ite_decision_outcome (by decide), ite_decision_outcome (by decide), ite_decision_outcome (by decide)]
    by_cases ha : (validateAuthority s.authority q.authority).outcome = .allow
    · rw [if_neg (not_not_intro ha), ite_decision_outcome (by decide), ite_decision_outcome (by decide),
        ite_decision_outcome (by decide), ite_decision_outcome (by decide), ite_decision_outcome (by decide)]
      rcases hb : s.backends.lookup rec.backend with _ | b
      · simp only [decision_outcome, reduceCtorEq, and_false, false_iff, not_exists]
        intro rec' b h
        rw [Option.some.inj (hr.symm.trans h.registration), h.backend] at hb
        cases hb
      · dsimp only
        rw [ite_decision_outcome (by decide), ite_decision_outcome (by decide), ite_decision_outcome (by decide),
          ite_decision_outcome (by decide), ite_decision_outcome (by decide), ite_decision_outcome (by decide),
          ite_decision_outcome (by decide), ite_query_allow]
        simp only [not_and_iff_expects, not_or, ne_eq, Decidable.not_not, Bool.not_eq_true', Bool.not_eq_false]
        constructor
        · rintro ⟨hl, hl', hf, hrg, hbg, hkg, hu, hbn, hg, ht, hd, hri, hi, hat, hra, hq⟩
          refine ⟨rec, b, hr, ⟨hl.1, hl.2.1, hl.2.2, hl'⟩, hf, ha, hrg, hbg, hkg, by simpa using hu, hbn, hb,
            hg, ht, hd, hri, hi, ?_,
            hra, hq⟩
          intro hk hm
          by_contra hc
          exact hat ⟨hk, hm, by simpa using hc⟩
        · rintro ⟨rec', b', h'⟩
          have h := h'.of_lookup hr hb
          refine ⟨⟨h.lifecycle.1, h.lifecycle.2.1, h.lifecycle.2.2.1⟩, h.lifecycle.2.2.2, h.freshness,
            h.registrationGeneration, h.bufferGeneration, h.keyGeneration, by simp [h.unrevoked], h.backendNamed,
            h.backendGeneration, h.transport, h.domain, h.rights, h.intrinsic, ?_, h.range, h.confirmed⟩
          rintro ⟨hk, hm, hc⟩
          simp [h.atomic hk hm] at hc
    · rw [if_pos ha]
      -- the authority's verdict is returned as it is
      refine iff_of_false (fun h => ha h.2.2.2) ?_
      rintro ⟨rec', b, h⟩
      exact ha h.authority

/-! ## Leases and reuse -/

omit [IBackend β] in
/-- A lease is on a live, VALID record with the rights, under a current authority, and counts in the record. -/
theorem acquireLease_granted {s : Rdmabuffer β} {r : RegistrationId} {env : AuthorityEnvelope} {needed : AccessMask}
    (h : (s.acquireLease r env needed).2.ok = true) :
    Authorized s.authority env ∧ ∃ rec, s.registrations.lookup r = some rec ∧ rec.lifecycle.isLive = true ∧
      rec.freshness = .valid ∧ accessSuperset rec.grantedAccess needed = true ∧
      (s.acquireLease r env needed).1.authority = s.authority ∧
      (s.acquireLease r env needed).1.backends = s.backends ∧
      (s.acquireLease r env needed).1.registrations =
        Table.put r { rec with leaseCount := rec.leaseCount + 1 } s.registrations := by
  unfold acquireLease at h ⊢
  dsimp only at h ⊢
  split at h
  · cases h
  · rename_i ha
    rw [if_neg ha]
    split at h
    · cases h
    · rename_i rec hr
      split at h
      · cases h
      · rename_i hl
        rw [if_neg hl]
        split at h
        · cases h
        · rename_i hn
          rw [if_neg hn]
          split at h
          · cases h
          · rename_i hv
            rw [if_neg hv]
            exact ⟨not_not.1 ha, rec, hr, by simpa using hl, not_not.1 hv, by simpa using hn, rfl, rfl, rfl⟩

/-- What a reuse compares. -/
structure Reusable (descriptor : BufferDescriptor) (cand : RegistrationRecord) (backend : BackendId)
    (domain : ProtectionDomainId) (env : AuthorityEnvelope) : Prop where
  buffer : cand.bufferId = descriptor.id
  bufferGeneration : cand.bufferGeneration = descriptor.generation
  memory : cand.domain = descriptor.domain
  backend : cand.backend = backend
  domain : cand.domainId = domain
  rights : accessSuperset cand.grantedAccess descriptor.requestedAccess = true
  live : cand.lifecycle.isLive = true
  boot : cand.boot = env.workerBoot
  valid : cand.freshness = .valid
  key : cand.remoteKey.revoked = true ∨ cand.remoteKey.id.isValid = true

theorem reuseMissReason_eq_nil {descriptor : BufferDescriptor} {cand : RegistrationRecord} {backend : BackendId}
    {domain : ProtectionDomainId} {env : AuthorityEnvelope} :
    reuseMissReason descriptor cand backend domain env = [] ↔ Reusable descriptor cand backend domain env := by
  unfold reuseMissReason
  rw [ite_reason_nil (by decide), ite_reason_nil (List.append_ne_nil_of_right_ne_nil _ (by decide)),
    ite_reason_nil (by decide), ite_reason_nil (by decide), ite_reason_nil (by decide), ite_reason_nil (by decide),
    ite_reason_nil (by decide), ite_reason_nil (by decide), ite_reason_nil (by decide), ite_reason_nil (by decide)]
  simp only [bne_iff_ne, ne_eq, not_not, Bool.not_eq_true', Bool.not_eq_false, Bool.and_eq_true, not_and, and_true]
  constructor
  · rintro ⟨hb, hg, hm, hbk, hd, hr, hl, hboot, hv, hk⟩
    exact ⟨hb, hg, hm, hbk, hd, hr, hl, hboot, hv, by by_cases h : cand.remoteKey.revoked = true <;> simp_all⟩
  · intro h
    refine ⟨h.buffer, h.bufferGeneration, h.memory, h.backend, h.domain, h.rights, h.live, h.boot, h.valid, ?_⟩
    intro hu
    exact h.key.resolve_left (by simp [hu])

omit [IBackend β] in
/-- A reuse that succeeds, or is a hit, is of a record that compares, under a current authority, and changes no more
than a counter. -/
theorem registerBufferReuse_hit {s : Rdmabuffer β} {descriptor : BufferDescriptor} {backend : BackendId}
    {domain : ProtectionDomainId} {env : AuthorityEnvelope}
    (h : (s.registerBufferReuse descriptor backend domain env).2.ok = true ∨
      (s.registerBufferReuse descriptor backend domain env).2.reuse = .reuseHit) :
    Authorized s.authority env ∧ ∃ k cand, s.registrations.lookup k = some cand ∧
      Reusable descriptor cand backend domain env ∧
      (s.registerBufferReuse descriptor backend domain env).2.registration = cand.id ∧
      ∃ acct, (s.registerBufferReuse descriptor backend domain env).1 = { s with acct := acct } := by
  unfold registerBufferReuse at h ⊢
  dsimp only at h ⊢
  split at h
  · rcases h with h | h <;> cases h
  · rename_i ha
    rw [if_neg ha]
    split at h
    · rcases h with h | h <;> cases h
    · rename_i k hk
      split at h
      · rcases h with h | h <;> cases h
      · rename_i cand hc
        split at h
        · rcases h with h | h <;> cases h
        · rename_i hm
          rw [if_neg hm]
          exact ⟨not_not.1 ha, k, cand, hc, reuseMissReason_eq_nil.1 (not_not.1 hm), rfl, _, rfl⟩

/-! ## Revocation and rotation -/

/-- What a revocation in the given mode makes of a record. -/
def revoked : RevocationMode → RegistrationRecord → RegistrationRecord
  | .hardRevoke => hardRevoked
  | .softRevoke => softRevoked

@[simp] theorem revoked_freshness (mode : RevocationMode) (rec : RegistrationRecord) :
    (revoked mode rec).freshness = .stale := by
  cases mode <;> rfl

theorem revoked_not_live (mode : RevocationMode) (rec : RegistrationRecord) :
    (revoked mode rec).lifecycle.isLive = false := by
  cases mode with
  | hardRevoke => rfl
  | softRevoke => exact softRevoked_not_live rec

omit [IBackend β] in
/-- A live record is revoked, and no backend is told. -/
theorem revoke_live {s : Rdmabuffer β} {r : RegistrationId} {rec : RegistrationRecord}
    (hr : s.registrations.lookup r = some rec) (hl : rec.lifecycle.isLive = true) (mode : RevocationMode) :
    (s.revoke r mode).2.ok = true ∧
      (s.revoke r mode).1.registrations = Table.put r (revoked mode rec) s.registrations ∧
      (s.revoke r mode).1.backends = s.backends := by
  unfold revoke
  simp only [hr, hl, Bool.not_true, Bool.false_eq_true, if_false]
  cases mode with
  | hardRevoke => exact ⟨rfl, rfl, rfl⟩
  | softRevoke => exact ⟨rfl, rfl, rfl⟩

omit [IBackend β] in
theorem revoke_ok {s : Rdmabuffer β} {r : RegistrationId} {mode : RevocationMode} (h : (s.revoke r mode).2.ok = true) :
    ∃ rec, s.registrations.lookup r = some rec ∧ rec.lifecycle.isLive = true ∧
      (s.revoke r mode).1.registrations = Table.put r (revoked mode rec) s.registrations := by
  unfold revoke at h
  split at h
  · cases h
  · rename_i rec hr
    split at h
    · cases h
    · rename_i hl
      have hlive : rec.lifecycle.isLive = true := by simpa using hl
      exact ⟨rec, hr, hlive, (revoke_live hr hlive mode).2.1⟩

/-- The rotation of a registration that is not live is refused. -/
theorem rotateKey_refused {s : Rdmabuffer β} {r : RegistrationId}
    (h : ∀ rec, s.registrations.lookup r = some rec → rec.lifecycle.isLive = false) :
    (s.rotateKey r).1 = s ∧ (s.rotateKey r).2.1 = false := by
  unfold rotateKey
  rcases hr : s.registrations.lookup r with _ | rec
  · exact ⟨rfl, rfl⟩
  · simp [h rec hr]

/-- The rotation of a live record succeeds, whatever its backend answers. -/
theorem rotateKey_live {s : Rdmabuffer β} {r : RegistrationId} {rec : RegistrationRecord}
    (hr : s.registrations.lookup r = some rec) (hl : rec.lifecycle.isLive = true) :
    (s.rotateKey r).2.1 = true ∧ (s.rotateKey r).1.registrations = Table.put r (rotated rec) s.registrations := by
  unfold rotateKey
  simp [hr, hl]

/-- The generation is handed down to the backend of a live record with a handle. -/
theorem rotateKey_backends {s : Rdmabuffer β} {r : RegistrationId} {rec : RegistrationRecord}
    (hr : s.registrations.lookup r = some rec) (hl : rec.lifecycle.isLive = true) {b : β}
    (hb : s.backends.lookup rec.backend = some b) (hh : rec.backendHandle ≠ []) :
    (s.rotateKey r).1.backends = Table.put rec.backend
      (IBackend.rotateKey b ⟨rec.memoryRegionId, rec.backendHandle⟩ rec.remoteKey.keyGeneration.next).1
      s.backends := by
  unfold rotateKey
  simp [hr, hl, rotated, hb, hh]

theorem rotateKey_ok {s : Rdmabuffer β} {r : RegistrationId} (h : (s.rotateKey r).2.1 = true) :
    ∃ rec, s.registrations.lookup r = some rec ∧ rec.lifecycle.isLive = true ∧
      (s.rotateKey r).1.registrations = Table.put r (rotated rec) s.registrations := by
  by_contra hno
  have hdead : ∀ rec, s.registrations.lookup r = some rec → rec.lifecycle.isLive = false := by
    intro rec hr
    by_contra hl
    rw [Bool.not_eq_false] at hl
    exact hno ⟨rec, hr, hl, (rotateKey_live hr hl).2⟩
  rw [(rotateKey_refused hdead).2] at h
  cases h

end RdmaBuffer
