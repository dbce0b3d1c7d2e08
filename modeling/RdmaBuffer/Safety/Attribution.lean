/-
Where an allowed access comes from: in every interleaving an ALLOW stands on one call of register_buffer that was
authorized, asked for at least what is accessed and has not been retired since.
-/
import RdmaBuffer.Runtime.Extents
import RdmaBuffer.Safety.Retirement
import RdmaBuffer.Safety.RotationOrbit

namespace RdmaBuffer

open Rdmabuffer

/-! ## Grants -/

/-- What a registration grants, under which key. -/
structure Grant where
  descriptor : BufferDescriptor
  bufferGeneration : BufferGeneration
  granted : AccessMask
  backend : BackendId
  domain : ProtectionDomainId

def RegistrationRecord.grant (rec : RegistrationRecord) : Grant :=
  { descriptor := rec.descriptor, bufferGeneration := rec.bufferGeneration, granted := rec.grantedAccess
    backend := rec.backend, domain := rec.domainId }

/-! ## Calls -/

/-- A call of `register_buffer`: the client and the arguments. -/
structure RegisterCall where
  client : Nat
  descriptor : BufferDescriptor
  backend : BackendId
  domain : ProtectionDomainId
  env : AuthorityEnvelope

namespace RegisterCall

variable {β : Type} [IBackend β] [Environment β]

/-- The first section of the call draws `r`: the authority is current, the domain is active, the buffer exists at the
generation and the backend may register it. -/
structure Begins (k : RegisterCall) (x : Lts.Transition (System β) (Option (Action β))) (r : RegistrationId) : Prop where
  label : x.label = some (.registerBegin k.client k.descriptor k.backend k.domain k.env)
  drawn : r = ⟨x.pre.runtime.nextRegistration⟩
  validated : ∃ b, Validated x.pre.runtime k.descriptor k.backend k.domain k.env b

/-- The last section of the call returns `r`. -/
structure Returns (k : RegisterCall) (y : Lts.Transition (System β) (Option (Action β))) (r : RegistrationId) : Prop where
  label : y.label = some (.registerCommit k.client)
  returned : ∃ p bout, y.pre.clients k.client = some (.registered p bout) ∧
    (y.pre.runtime.registerCommit p bout).2.registration = r

/-- The call asked for at least what is accessed. -/
structure Covers (k : RegisterCall) (q : RemoteAccessRequest) : Prop where
  range : q.offset.toNat + q.length.toNat ≤ k.descriptor.byteLength.toNat
  rights : accessSuperset k.descriptor.requestedAccess q.requiredRights = true
  kind : accessHas k.descriptor.requestedAccess (intrinsicRight q.kind) = true
  backend : Expects (·.isValid) q.backend k.backend
  domain : Expects (·.isValid) q.domain k.domain
  buffer : Expects (·.isValid) q.expectedBufferGeneration k.descriptor.generation

end RegisterCall

/-! ## Registrations in flight -/

section

variable {β : Type} [IBackend β] [Environment β]

/-- A registration in flight was begun by its client. -/
theorem pending_since {t : List (Lts.Transition (System β) (Option (Action β)))} {σ : System β}
    (h : (interleaved β).Run t σ) {c : Nat} {p : PendingRegistration} (hp : σ.HasPending c p) :
    ∃ k : RegisterCall, k.client = c ∧ p.record.descriptor = k.descriptor ∧ p.record.backend = k.backend ∧
      p.record.domainId = k.domain ∧ p.record.bufferGeneration = k.descriptor.generation ∧
      ∃ t₁ x t₂, t = t₁ ++ x :: t₂ ∧ k.Begins x p.record.id := by
  obtain ⟨t₁, x, t₂, ht, -, -, -, ⟨descriptor, backend, domain, env, b, hl, hv, rfl⟩, -⟩ :=
    h.since (P := fun σ => σ.HasPending c p)
      (E := fun x => ∃ descriptor backend domain env b, x.label = some (.registerBegin c descriptor backend domain env) ∧
        Validated x.pre.runtime descriptor backend domain env b ∧ p = pending x.pre.runtime b descriptor backend domain env)
      (by
        rintro _ rfl (hp | ⟨bout, hp⟩) <;> cases hp)
      (fun _ _ _ hs hp => (hasPending_step hs hp).symm) hp
  exact ⟨⟨c, descriptor, backend, domain, env⟩, rfl, rfl, rfl, rfl, rfl, t₁, x, t₂, ht, hl, rfl, b, hv⟩

/-! ## Valid records -/

/-- The record of `r` is VALID. -/
def Fresh (r : RegistrationId) (σ : System β) : Prop :=
  ∃ rec, σ.runtime.registrations.lookup r = some rec ∧ rec.freshness = .valid

theorem rotations_snoc (r : RegistrationId) (t : List (Lts.Transition (System β) (Option (Action β))))
    (x : Lts.Transition (System β) (Option (Action β))) :
    rotations r (t ++ [x]) =
      match keyEvent r x with
      | some .registered => 0
      | some .rotated => rotations r t + 1
      | none => rotations r t :=
  List.foldl_concat ..

/-- What a step leaves of a record that is VALID after it, where the step does not register it. -/
theorem fresh_step {σ σ' : System β} {l : Option (Action β)} (h : (interleaved β).step σ l σ') {r : RegistrationId}
    {rec' : RegistrationRecord} (hr' : σ'.runtime.registrations.lookup r = some rec') (hv : rec'.freshness = .valid)
    (hno : keyEvent r ⟨σ, l, σ'⟩ ≠ some .registered) :
    ∃ rec, σ.runtime.registrations.lookup r = some rec ∧ rec.freshness = .valid ∧ rec'.grant = rec.grant ∧
      rec'.remoteKey.keyGeneration.value =
        match keyEvent r ⟨σ, l, σ'⟩ with
        | some .rotated => rec.remoteKey.keyGeneration.value + 1
        | _ => rec.remoteKey.keyGeneration.value := by
  rcases he : keyEvent r ⟨σ, l, σ'⟩ with _ | ⟨_ | _⟩
  · have hs := recordStep h r
    rw [hr'] at hs
    generalize ho : σ.runtime.registrations.lookup r = o at hs
    cases hs with
    | keep => exact ⟨rec', rfl, hv, rfl, rfl⟩
    | leases rec | deregistering c rec | failed c d bo rec => exact ⟨rec, rfl, hv, rfl, rfl⟩
    | destroyed | reallocated | hardRevoked | softRevoked | recovered => cases hv
    | rotated rec hl hlive => cases he.symm.trans (keyEvent_rotateKey hl ho hlive)
    | committed c p bout o hl hc hid => cases he.symm.trans (keyEvent_commit hl hc hid)
  · exact absurd he hno
  · obtain ⟨hl, hok⟩ := keyEvent_rotated he
    obtain ⟨rec, hr, -, hregs⟩ := rotateKey_ok hok
    have hpost : σ'.runtime.registrations = Table.put r (rotated rec) σ.runtime.registrations :=
      (congrArg (·.runtime.registrations) (step_exec (x := ⟨σ, l, σ'⟩) h hl)).trans hregs
    rw [hpost, Table.lookup_put_self] at hr'
    obtain rfl := Option.some.inj hr'
    exact ⟨rec, hr, hv, rfl, rfl⟩

/-- A VALID record is that of its last registration, and has been VALID ever since. -/
theorem fresh_since {t : List (Lts.Transition (System β) (Option (Action β)))} {σ : System β}
    (h : (interleaved β).Run t σ) {r : RegistrationId} (hf : Fresh r σ) :
    ∃ t₁ y t₂, t = t₁ ++ y :: t₂ ∧ (interleaved β).Run t₁ y.pre ∧ (interleaved β).step y.pre y.label y.post ∧
      (interleaved β).Path y.post t₂ σ ∧ keyEvent r y = some .registered ∧
      ∀ z ∈ t₂, keyEvent r z ≠ some .registered ∧ Fresh r z.post := by
  refine h.since (P := Fresh r) (E := fun y => keyEvent r y = some .registered) ?_ ?_ hf
  · rintro _ rfl ⟨rec, hr, -⟩
    cases hr
  · rintro σ l σ' hs ⟨rec', hr', hv⟩
    by_cases hc : keyEvent r ⟨σ, l, σ'⟩ = some .registered
    · exact .inl hc
    · obtain ⟨rec, hr, hv, -⟩ := fresh_step hs hr' hv hc
      exact .inr ⟨rec, hr, hv⟩

/-- While a record is VALID its grant stays, and its key generation counts the rotations. -/
theorem fresh_path {σ σ' : System β} {t₀ t : List (Lts.Transition (System β) (Option (Action β)))}
    (h : (interleaved β).Path σ t σ') {r : RegistrationId}
    (hheld : ∀ z ∈ t, keyEvent r z ≠ some .registered ∧ Fresh r z.post) {rec₀ : RegistrationRecord}
    (hr₀ : σ.runtime.registrations.lookup r = some rec₀)
    (hkey₀ : rec₀.remoteKey.keyGeneration.value = UInt64.ofNat (rotations r t₀ + 1)) :
    ∃ rec, σ'.runtime.registrations.lookup r = some rec ∧ rec.grant = rec₀.grant ∧
      rec.remoteKey.keyGeneration.value = UInt64.ofNat (rotations r (t₀ ++ t) + 1) := by
  induction h with
  | nil => exact ⟨rec₀, hr₀, rfl, by rwa [List.append_nil]⟩
  | @snoc u v t l hp hs ih =>
    obtain ⟨rec, hr, hgrant, hkey⟩ := ih fun z hz => hheld z (List.mem_append_left _ hz)
    obtain ⟨hno, rec', hr', hv'⟩ := hheld ⟨u, l, v⟩ (List.mem_append_right _ (List.mem_singleton_self _))
    obtain ⟨rec₁, hr₁, -, hgrant', hkey'⟩ := fresh_step hs hr' hv' hno
    obtain rfl : rec₁ = rec := Option.some.inj (hr₁.symm.trans hr)
    refine ⟨rec', hr', hgrant'.trans hgrant, ?_⟩
    rw [hkey', ← List.append_assoc, rotations_snoc, hkey]
    rcases he : keyEvent r ⟨u, l, v⟩ with _ | ⟨_ | _⟩
    · rfl
    · exact absurd he hno
    · exact (UInt64.ofNat_add _ 1).symm

/-- A step that leaves the record VALID retires nothing. -/
theorem not_retires {x : Lts.Transition (System β) (Option (Action β))} (h : (interleaved β).step x.pre x.label x.post)
    {r : RegistrationId} (hf : Fresh r x.post) : ¬Retires x r := by
  intro hx
  obtain ⟨rec, hr, hv⟩ := hf
  have hlife := hx.life h
  rw [hr, life_of_valid hv] at hlife
  exact WithTop.coe_ne_top hlife

end

/-! ## The headline -/

/-- A backend issues a key under its first generation. -/
theorem answered_first {t : List (Lts.Transition (System Backend) (Option (Action Backend)))} {σ : System Backend}
    (h : (interleaved Backend).Run t σ) {c : Nat} {p : PendingRegistration} {bout : BackendRegistration}
    (hc : σ.clients c = some (.registered p bout)) : bout.keys.remoteKeyGeneration = ⟨1⟩ := by
  refine h.inv (I := fun σ => ∀ c p bout, σ.clients c = some (.registered p bout) →
    bout.keys.remoteKeyGeneration = ⟨1⟩) ?_ ?_ c p bout hc
  · rintro _ rfl c p bout hc
    cases hc
  · intro σ l σ' hs hi c p bout hc
    rcases registered_step hs hc with hold | ⟨-, b, b', -, -, hreg, -⟩
    · exact hi c p bout hold
    · exact hreg.keyGeneration

/-- In every interleaving, an access is allowed only where one call of `register_buffer` was authorized, returned the
registration, asked for all that is accessed, and was not retired since; and a request that names a key generation names
the one that the rotations since then have led to. -/
theorem allow_traced {t : List (Lts.Transition (System Backend) (Option (Action Backend)))} {σ : System Backend}
    (h : (interleaved Backend).Run t σ) {q : RemoteAccessRequest}
    (hq : (σ.runtime.validateRemoteAccess q).2.outcome = .allow) :
    ∃ (k : RegisterCall) (t₁ t₂ t₃ : List (Lts.Transition (System Backend) (Option (Action Backend))))
      (x y : Lts.Transition (System Backend) (Option (Action Backend))), t = t₁ ++ x :: t₂ ++ y :: t₃ ∧
      k.Begins x q.sourceRegistration ∧ k.Returns y q.sourceRegistration ∧ k.Covers q ∧
      (∀ z ∈ t₃, ¬Retires z q.sourceRegistration) ∧
      Expects (·.isValid) q.expectedRemoteKeyGeneration ⟨UInt64.ofNat (rotations q.sourceRegistration t + 1)⟩ := by
  obtain ⟨rec, b, ha⟩ := (allow_iff _ _).1 hq
  obtain ⟨t', y, t₃, rfl, hrun, hs, hp, hy, hheld⟩ := fresh_since h ⟨rec, ha.registration, ha.freshness⟩
  obtain ⟨c, p, bout, hl, hc, hid⟩ := keyEvent_registered hy
  -- the record is what the commit stored, but for rotations
  have hcommitted : y.post.runtime.registrations.lookup q.sourceRegistration =
      some (commitRecord y.pre.runtime.authority p bout) := by
    rw [step_exec hs hl, ← hid]
    exact committed_lookup hc
  have hfirst : (commitRecord y.pre.runtime.authority p bout).remoteKey.keyGeneration.value =
      UInt64.ofNat (rotations q.sourceRegistration (t' ++ [y]) + 1) := by
    rw [rotations_snoc, hy, commitRecord, answered_first hrun hc]
    rfl
  obtain ⟨rec', hr', hgrant, hkey⟩ := fresh_path hp hheld hcommitted hfirst
  obtain rfl : rec' = rec := Option.some.inj (hr'.symm.trans ha.registration)
  have hmade := (extents_run hrun).made c p bout hc
  have hdescriptor := (extents_run hrun).pending c p (.inr ⟨bout, hc⟩)
  obtain ⟨k, rfl, hkd, hkb, hkdom, hkg, t₁, x, t₂, rfl, hbegins⟩ := pending_since hrun (.inr ⟨bout, hc⟩)
  have hrecord : rec'.descriptor = k.descriptor := (congrArg Grant.descriptor hgrant).trans hkd
  have hgranted : rec'.grantedAccess = k.descriptor.requestedAccess :=
    (congrArg Grant.granted hgrant).trans (hmade.granted.trans (congrArg _ (hdescriptor.symm.trans hkd)))
  refine ⟨k, t₁, t₂, t₃, x, y, rfl, hid ▸ hbegins, ⟨hl, p, bout, hc, hid⟩, ?_, ?_, ?_⟩
  · exact
      { range := hrecord ▸ rangeInside_iff.1 ha.range
        rights := hgranted ▸ ha.rights
        kind := hgranted ▸ ha.intrinsic
        backend := ((congrArg Grant.backend hgrant).trans hkb) ▸ ha.backendNamed
        domain := ((congrArg Grant.domain hgrant).trans hkdom) ▸ ha.domain
        buffer := ((congrArg Grant.bufferGeneration hgrant).trans hkg) ▸ ha.bufferGeneration }
  · exact fun z hz => not_retires (hp.step_mem hz) (hheld z hz).2
  · intro hvalid
    rw [List.append_assoc, List.singleton_append] at hkey
    exact (ha.keyGeneration hvalid).trans (congrArg StrongGeneration.mk hkey)

open Session

/-- A write that names the generation after a rotation. -/
def rotatedWrite : RemoteAccessRequest := { write ⟨1⟩ with expectedRemoteKeyGeneration := ⟨2⟩ }

theorem allow_traced_rotated :
    ∃ t, (interleaved Backend).Run t (after (registration 0 page ++ [.atomic (.rotateKey ⟨1⟩)])) ∧
      (⟨2⟩ : RemoteKeyGeneration) = ⟨UInt64.ofNat (rotations ⟨1⟩ t + 1)⟩ ∧
      ∃ k t₁ t₂ t₃ x y, t = t₁ ++ x :: t₂ ++ y :: t₃ ∧ RegisterCall.Begins k x ⟨1⟩ ∧ k.Returns y ⟨1⟩ ∧
        k.Covers rotatedWrite := by
  obtain ⟨t, ht⟩ := run_after (registration 0 page ++ [.atomic (.rotateKey ⟨1⟩)])
  have hallow : ((after (registration 0 page ++ [.atomic (.rotateKey ⟨1⟩)])).runtime.validateRemoteAccess
      rotatedWrite).2.outcome = .allow := by decide
  obtain ⟨k, t₁, t₂, t₃, x, y, he, hbegins, hreturns, hcovers, -, hkey⟩ := allow_traced ht hallow
  exact ⟨t, ht, hkey rfl, k, t₁, t₂, t₃, x, y, he, hbegins, hreturns, hcovers⟩

end RdmaBuffer
