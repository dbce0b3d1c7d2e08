/-
The fences of the coordinator: what its runtime answers whatever the frames of the workers say. A boot that was never given
and the authority of the killed worker are refused, and an allowed access was earned.
-/
import RdmaBuffer.Backend.View
import RdmaBuffer.Registry.Access
import RdmaBuffer.Runtime.Sequential
import RdmaBuffer.Tools.Coordinator

namespace RdmaBuffer

namespace Tools

open Rdmabuffer Backend Protocol Wire

/-! ## Authority -/

theorem registerBuffer_authority (rt : Rdmabuffer Backend) (d : BufferDescriptor) (backend : BackendId)
    (domain : ProtectionDomainId) (env : AuthorityEnvelope) :
    (rt.registerBuffer d backend domain env).1.authority = rt.authority := by
  rcases registerBuffer_cases rt d backend domain env with
    ⟨rr, -, he⟩ | ⟨b, b', bo, bout, -, -, ⟨rr, -, -, he⟩ | ⟨-, he⟩⟩
  · rw [he]
  · rw [he]; rfl
  · rw [he]; rfl

theorem serveRegister_authority (rt : Rdmabuffer Backend) (s : AuthoritySnapshot) (payload : Bytes) :
    (serveRegister rt s payload).1.authority = rt.authority :=
  (registerBuffer_authority _ _ _ _ _).trans (run_authority rt (.createBuffer _))

theorem validateRemoteAccess_authority (rt : Rdmabuffer Backend) (q : RemoteAccessRequest) :
    (rt.validateRemoteAccess q).1.authority = rt.authority :=
  run_authority rt (.validateRemoteAccess q)

theorem noteParticipantRestart_epoch (rt : Rdmabuffer Backend) :
    rt.noteParticipantRestart.authority.coordinatorEpoch = rt.authority.coordinatorEpoch.next := rfl

namespace Served

theorem registerA_rt (s : Served) (payload : Bytes) :
    (s.registerA payload).1.rt = (serveRegister s.rt snap payload).1 := by
  unfold registerA
  generalize serveRegister s.rt snap payload = r
  dsimp only
  split
  · rfl
  · rfl

theorem registerA_nextBoot (s : Served) (payload : Bytes) : (s.registerA payload).1.nextBoot = s.nextBoot := by
  unfold registerA
  generalize serveRegister s.rt snap payload = r
  dsimp only
  split
  · rfl
  · rfl

theorem registerA_result (s : Served) (payload : Bytes) :
    (s.registerA payload).2 = (serveRegister s.rt snap payload).2 := by
  unfold registerA
  generalize serveRegister s.rt snap payload = r
  rfl

theorem registerA_authority (s : Served) (payload : Bytes) : (s.registerA payload).1.rt.authority = s.rt.authority := by
  rw [registerA_rt, serveRegister_authority]

theorem accessB_authority (s : Served) (payload : Bytes) : (s.accessB payload).1.rt.authority = s.rt.authority :=
  (validateRemoteAccess_authority _ _).trans (validateRemoteAccess_authority _ _)

theorem accessB_current (s : Served) (payload : Bytes) :
    (s.accessB payload).2.1 = (s.rt.validateRemoteAccess (requestB payload)).2 := rfl

theorem bump_accessB (s : Served) (payload : Bytes) : (s.bump.accessB payload).2 = (s.accessB payload).2 := rfl

theorem fresh_epoch (s : Served) : s.fresh.coordinatorEpoch = s.rt.authority.coordinatorEpoch := rfl

theorem bump_rt (s : Served) : s.bump.rt = s.rt := rfl

theorem bump_nextBoot (s : Served) : s.bump.nextBoot = s.nextBoot + 1 := rfl

theorem accessB_nextBoot (s : Served) (payload : Bytes) : (s.accessB payload).1.nextBoot = s.nextBoot := rfl

theorem loseA_nextBoot (s : Served) : s.loseA.1.nextBoot = s.nextBoot := rfl

theorem loseA_authority (s : Served) : s.loseA.1.rt.authority = s.rt.noteParticipantRestart.authority :=
  (run_authority _ (.revoke s.regA .hardRevoke)).trans (validateRemoteAccess_authority _ _)

end Served

/-! ## Refusals -/

/-- Nobody is allowed an access under a boot or an epoch that is not the current one. -/
theorem not_allowed_of_incarnation {rt : Rdmabuffer Backend} {q : RemoteAccessRequest}
    (h : ¬(q.authority.coordinatorEpoch = rt.authority.coordinatorEpoch ∧
      q.authority.workerBoot = rt.authority.workerBoot)) : (rt.validateRemoteAccess q).2.outcome ≠ .allow := by
  intro ha
  obtain ⟨rec, b, hallows⟩ := (allow_iff rt q).1 ha
  exact h hallows.authority.incarnation

/-- The boot that was never given is refused. -/
theorem Served.staleBoot_refused {s : Served} (h : s.rt.authority = snap) (payload : Bytes) :
    (s.accessB payload).2.2.outcome ≠ .allow := by
  refine @not_allowed_of_incarnation (s.rt.validateRemoteAccess (requestB payload)).1 _ ?_
  rw [validateRemoteAccess_authority, h]
  rintro ⟨-, hboot⟩
  cases hboot

/-- Once the restart was noted, the authority of worker A is refused. -/
theorem Served.oldAuthority_refused {s : Served} (h : s.rt.authority = snap) : s.loseA.2.outcome ≠ .allow := by
  refine not_allowed_of_incarnation ?_
  rw [noteParticipantRestart_epoch, h]
  rintro ⟨hepoch, -⟩
  cases hepoch

/-! ## What is earned -/

/-- The buffer of a register frame. -/
abbrev described (payload : Bytes) : BufferDescriptor := (fillRegister {} payload).1.d

/-- The runtime with the buffer of a register frame. -/
abbrev created (rt : Rdmabuffer Backend) (payload : Bytes) : Rdmabuffer Backend := (rt.createBuffer (described payload)).1

/-- The register frame is committed: the backend goes from `b` to `b'` and answers `bout`. -/
structure Committed (rt : Rdmabuffer Backend) (s : AuthoritySnapshot) (payload : Bytes) (b b' : Backend)
    (bout : BackendRegistration) : Prop where
  backend : (created rt payload).backends.lookup (IBackend.id syn) = some b
  registered : Registered b (described payload) b' bout
  supports : ∀ kind, b'.supports kind = b.supports kind
  served : serveRegister rt s payload =
    (called (created rt payload) (IBackend.id syn) b').registerCommit
      (pending (created rt payload) b (described payload) (IBackend.id syn) dom (envelope s)) bout

/-- A backend serves after a registration what it served before. -/
theorem registerBuffer_supports {b b' : Backend} {d : BufferDescriptor} {ctx : RegistrationContext}
    {bo : RegisterOutcome} {bout : BackendRegistration} (h : IBackend.registerBuffer b d ctx = (b', bo, bout))
    (kind : OperationKind) : b'.supports kind = b.supports kind := by
  cases b with
  | synthetic b =>
    have h : onSynthetic (b.registerBuffer d ctx) = (b', bo, bout) := h
    unfold SyntheticBackend.registerBuffer at h
    dsimp only at h
    split at h
    · cases h; rfl
    · cases h; cases kind <;> rfl
  | reference b =>
    have h : onReference (b.registerBuffer d ctx) = (b', bo, bout) := h
    unfold ReferenceBackend.registerBuffer at h
    dsimp only at h
    split at h
    · cases h; rfl
    · cases h; cases kind <;> rfl

theorem called_registrations (rt : Rdmabuffer Backend) (backend : BackendId) (b : Backend) :
    (called rt backend b).registrations = rt.registrations := rfl

theorem registerCommit_lookup (rt : Rdmabuffer Backend) (p : PendingRegistration) (bout : BackendRegistration)
    (r : RegistrationId) :
    (rt.registerCommit p bout).1.registrations.lookup r =
      if r = p.record.id then some (commitRecord rt.authority p bout) else rt.registrations.lookup r :=
  Table.lookup_put _ _ _ _

/-- A register frame is refused and registers nothing, or it is committed. -/
theorem serveRegister_cases (rt : Rdmabuffer Backend) (s : AuthoritySnapshot) (payload : Bytes) :
    ((serveRegister rt s payload).2.ok = false ∧
      (serveRegister rt s payload).1.registrations = (created rt payload).registrations) ∨
    ∃ b b' bout, Committed rt s payload b b' bout := by
  have hserve : serveRegister rt s payload =
    (created rt payload).registerBuffer (described payload) (IBackend.id syn) dom (envelope s) := rfl
  rcases registerBuffer_cases (created rt payload) (described payload) (IBackend.id syn) dom (envelope s) with
    ⟨rr, hf, he⟩ | ⟨b, b', bo, bout, hv, hr, ⟨rr, hf, -, he⟩ | ⟨ho, he⟩⟩
  · rw [hserve, he]
    exact .inl ⟨hf, rfl⟩
  · rw [hserve, he]
    exact .inl ⟨hf, called_registrations _ _ b'⟩
  · rcases registerBuffer_spec hr with ⟨ho', -⟩ | ⟨-, hreg⟩
    · cases ho.symm.trans ho'
    · exact .inr ⟨b, b', bout, hv.backend, hreg, registerBuffer_supports hr, hserve.trans he⟩

/-- A new buffer leaves the backends, and no registrations where there were none. -/
theorem created_spec (rt : Rdmabuffer Backend) (payload : Bytes) :
    (created rt payload).backends = rt.backends ∧
      ((∀ r, rt.registrations.lookup r = none) → ∀ r, (created rt payload).registrations.lookup r = none) := by
  generalize hs : created rt payload = rt'
  have he : Effect rt (.createBuffer (described payload)) rt' :=
    hs ▸ AtomicOp.effect rt (.createBuffer (described payload))
  cases he with
  | bufferReallocated =>
    refine ⟨rfl, fun h r => ?_⟩
    rw [withdrawn, Table.lookup_mapVals, h]
    rfl
  | _ => exact ⟨rfl, fun h => h⟩

/-- The record of a committed register frame. -/
abbrev Committed.record {rt : Rdmabuffer Backend} {s : AuthoritySnapshot} {payload : Bytes} {b b' : Backend}
    {bout : BackendRegistration} (_ : Committed rt s payload b b' bout) : RegistrationRecord :=
  commitRecord (created rt payload).authority
    (pending (created rt payload) b (described payload) (IBackend.id syn) dom (envelope s)) bout

theorem Committed.lookup {rt : Rdmabuffer Backend} {s : AuthoritySnapshot} {payload : Bytes} {b b' : Backend}
    {bout : BackendRegistration} (h : Committed rt s payload b b' bout) (r : RegistrationId) :
    (serveRegister rt s payload).1.registrations.lookup r =
      if r = h.record.id then some h.record else (created rt payload).registrations.lookup r := by
  rw [h.served, registerCommit_lookup, called_registrations]
  rfl

/-- A request that worker B may make for the buffer `d` of the registration `r`. Whatever range, kind and rights its frame
asks for, the coordinator checks a write of the first 4 bytes; a frame without a key generation fits any. -/
structure Fits (d : BufferDescriptor) (r : RegistrationId) (request : Bytes) : Prop where
  generation : d.generation = ⟨1⟩
  rights : accessSuperset d.requestedAccess (accessMask .remoteWrite) = true
  range : 4 ≤ d.byteLength.toNat
  reg : (fillAccess {} request).1.reg = r.value
  boot : (fillAccess {} request).1.boot = 1
  key : (fillAccess {} request).1.expkeygen = 0 ∨ (fillAccess {} request).1.expkeygen = 1

theorem expects_one {v : RemoteKeyGeneration} : Expects (·.isValid) v ⟨1⟩ ↔ v.value = 0 ∨ v.value = 1 := by
  unfold Expects StrongGeneration.isValid
  rw [bne_iff_ne]
  by_cases h : v.value = 0
  · simp [h]
  · simp only [h, not_false_eq_true, forall_const, false_or, ne_eq]
    exact ⟨fun h => congrArg (·.value) h, fun h => by cases v; cases h; rfl⟩

section

variable {rt : Rdmabuffer Backend} {payload : Bytes} {b b' : Backend} {bout : BackendRegistration}

/-- Every field of worker B's request against the record of worker A's buffer. -/
theorem Committed.allow_iff (h : Committed rt snap payload b b' bout) (hauth : rt.authority = snap)
    (hsupports : b.supports .write = true) (hnone : ∀ r, (created rt payload).registrations.lookup r = none)
    (request : Bytes) :
    ((serveRegister rt snap payload).1.validateRemoteAccess (Served.requestB request)).2.outcome = .allow ↔
      Fits (described payload) h.record.id request := by
  have hgranted : h.record.grantedAccess = (described payload).requestedAccess := h.registered.granted
  have hkey : h.record.remoteKey.keyGeneration = ⟨1⟩ := h.registered.keyGeneration
  have hrange : rangeInside h.record.descriptor (Served.requestB request).offset (Served.requestB request).length = true ↔
      4 ≤ (described payload).byteLength.toNat := rangeInside_iff
  have hauthority : (serveRegister rt snap payload).1.authority = snap := by rw [serveRegister_authority, hauth]
  have hbackend : (serveRegister rt snap payload).1.backends.lookup h.record.backend = some b' := by
    rw [h.served]
    exact Table.lookup_put_self _ _ _
  have hself : (serveRegister rt snap payload).1.registrations.lookup h.record.id = some h.record := by
    rw [h.lookup, if_pos rfl]
  rw [RdmaBuffer.allow_iff]
  constructor
  · rintro ⟨rec, bq, ha⟩
    have hreg : (Served.requestB request).sourceRegistration = h.record.id := by
      by_contra hne
      have hr := ha.registration
      rw [h.lookup, if_neg hne, hnone] at hr
      cases hr
    obtain rfl : rec = h.record := Option.some.inj (ha.registration.symm.trans (hreg ▸ hself))
    have hboot := ha.authority.incarnation.2
    rw [hauthority] at hboot
    have hexpects := ha.keyGeneration
    rw [hkey] at hexpects
    exact
      { generation := (ha.bufferGeneration rfl).symm
        rights := hgranted ▸ ha.rights
        range := hrange.1 ha.range
        reg := congrArg (·.value) hreg
        boot := congrArg (·.value) hboot
        key := expects_one.1 hexpects }
  · intro hf
    have hreg : (Served.requestB request).sourceRegistration = h.record.id := by
      show (⟨(fillAccess {} request).1.reg⟩ : RegistrationId) = _
      rw [hf.reg]
    have hboot : (Served.requestB request).authority = envelope snap := by
      show { envelope snap with workerBoot := ⟨(fillAccess {} request).1.boot⟩ } = envelope snap
      rw [hf.boot]
      rfl
    have hentry : b'.live h.record.backendHandle = some (described payload).liveEntry := by
      have hhandle : h.record.backendHandle = b.handleAt b.nextSeq.toNat := h.registered.handle
      rw [h.registered.live, hhandle, Function.update_self]
    have hrights : accessSuperset (described payload).requestedAccess (Served.requestB request).requiredRights = true :=
      hf.rights
    have hintrinsic : accessHas (Served.requestB request).requiredRights (intrinsicRight (Served.requestB request).kind) =
        true := by
      show accessHas (accessMask .remoteWrite) .remoteWrite = true
      decide
    refine ⟨h.record, b', ?_⟩
    exact
      { registration := by rw [hreg, hself]
        lifecycle := ⟨nofun, nofun, nofun, nofun⟩
        freshness := rfl
        authority := by rw [hauthority, hboot]; decide
        registrationGeneration := fun _ => rfl
        bufferGeneration := fun _ => hf.generation.symm
        keyGeneration := by rw [hkey]; exact expects_one.2 hf.key
        unrevoked := rfl
        backendNamed := fun _ => rfl
        backend := hbackend
        backendGeneration := h.registered.generation
        transport := Expects.of_invalid rfl
        domain := fun _ => rfl
        rights := by rw [hgranted]; exact hrights
        intrinsic := by rw [hgranted]; exact accessHas_of_superset hrights hintrinsic
        atomic := nofun
        range := hrange.2 hf.range
        confirmed := by
          refine (queryRemoteAccess_allow _ _ _ _ _ _).2 ⟨_, hentry, ?_⟩
          exact
            { revalidated := rfl, unrevoked := rfl, key := hkey, range := hf.range
              granted := accessHas_of_superset hrights hintrinsic
              supported := by rw [h.supports]; exact hsupports } }

end

/-- What worker A has to have registered, and worker B to ask for. -/
structure Earned (registration request : Bytes) : Prop where
  registered : (Served.registerA {} registration).2.ok = true
  fits : Fits (described registration) (Served.registerA {} registration).2.registration request

/-- Worker B is allowed its access exactly if the access was earned. -/
theorem accessB_allow_iff (registration request : Bytes) :
    ((Served.registerA {} registration).1.accessB request).2.1.outcome = .allow ↔ Earned registration request := by
  have hrt : (Served.registerA {} registration).1.rt = (serveRegister rtDom.1 snap registration).1 :=
    Served.registerA_rt {} registration
  have hrr : (Served.registerA {} registration).2 = (serveRegister rtDom.1 snap registration).2 :=
    Served.registerA_result {} registration
  have hbase := created_spec rtDom.1 registration
  have hnone := hbase.2 fun _ => rfl
  rw [Served.accessB_current, hrt]
  rcases serveRegister_cases rtDom.1 snap registration with ⟨hf, hregs⟩ | ⟨b, b', bout, hc⟩
  · -- nothing is registered
    constructor
    · intro ha
      obtain ⟨rec, b, ha⟩ := (allow_iff _ _).1 ha
      cases (hnone _).symm.trans (hregs ▸ ha.registration)
    · intro he
      have hok := he.registered
      rw [hrr] at hok
      cases hf.symm.trans hok
  · have hb : b.supports .write = true := by
      have hb := hc.backend
      rw [hbase.1] at hb
      rw [← Option.some.inj hb]
      rfl
    have hok : (Served.registerA {} registration).2.ok = true := by rw [hrr, hc.served]; rfl
    have hid : (Served.registerA {} registration).2.registration = hc.record.id := by rw [hrr, hc.served]; rfl
    rw [hc.allow_iff rfl hb hnone]
    constructor
    · exact fun h => ⟨hok, hid ▸ h⟩
    · exact fun h => hid ▸ h.fits

end Tools

end RdmaBuffer
