/-
Registration and deregistration, each as its sections: a first locked section, the backend call
with the lock released, and a second locked section; and recovery from a saved file.
-/
import RdmaBuffer.Persistence.Format
import RdmaBuffer.Registry.State

namespace RdmaBuffer

/-- What `register_buffer` carries from its first locked section to its second. -/
structure PendingRegistration where
  descriptor : BufferDescriptor
  backend : BackendId
  env : AuthorityEnvelope
  record : RegistrationRecord
  ctx : RegistrationContext

/-- What `deregister` carries from its first locked section to its second. -/
structure PendingDeregistration where
  registration : RegistrationId
  handle : StdString
  region : MemoryRegionId
  backend : BackendId

namespace Rdmabuffer

variable {β : Type} [IBackend β]

/-! ## Registration -/

/-- The record as the first section fills it in. -/
def pendingRecord (s : Rdmabuffer β) (b : β) (descriptor : BufferDescriptor) (backend : BackendId)
    (domain : ProtectionDomainId) (env : AuthorityEnvelope) : RegistrationRecord :=
  { id := ⟨s.nextRegistration⟩
    bufferId := descriptor.id
    bufferGeneration := descriptor.generation
    registrationGeneration := ⟨1⟩
    descriptor := descriptor
    backend := backend
    domainId := domain
    domain := descriptor.domain
    start := descriptor.base.address
    length := descriptor.byteLength
    pageAlignment := descriptor.alignment
    -- owner and boot are the caller's, the rest of the incarnation is the snapshot's
    owner := env.owner
    process := s.authority.process
    worker := s.authority.worker
    boot := env.workerBoot
    epoch := s.authority.coordinatorEpoch
    device := descriptor.device
    provenance := IBackend.provenance b
    grantedAccess := 0
    lifecycle := .registering
    freshness := .unknown
    backendGeneration := IBackend.generation b
    policyGeneration := s.authority.policyGeneration }

def registrationContext (s : Rdmabuffer β) (b : β) (descriptor : BufferDescriptor) (domain : ProtectionDomainId)
    (env : AuthorityEnvelope) : RegistrationContext :=
  { domain := domain
    node := s.authority.node
    process := s.authority.process
    worker := s.authority.worker
    workerBoot := env.workerBoot
    epoch := s.authority.coordinatorEpoch
    owner := env.owner
    ownerGeneration := env.ownerGeneration
    registrationGeneration := ⟨1⟩
    backendGeneration := IBackend.generation b
    requestedAccess := descriptor.requestedAccess
    mode := descriptor.registrationMode }

/-- The first locked section of `register_buffer`: the checks, and the new record. -/
def registerBegin (s : Rdmabuffer β) (descriptor : BufferDescriptor) (backend : BackendId)
    (domain : ProtectionDomainId) (env : AuthorityEnvelope) :
    Rdmabuffer β × Except RegisterResult PendingRegistration :=
  let ad := validateAuthority s.authority env
  let vr := validateRange descriptor
  if ad.outcome ≠ .allow then
    (s, .error { result := .rejected, explanation := ad.explanation, missReason := ad.code })
  else match s.backends.lookup backend with
  | none => (s, .error { explanation := lit "unknown backend", missReason := lit "UNKNOWN_BACKEND" })
  | some b =>
    if (s.domains.lookup domain).map (·.state) ≠ some .active then
      (s, .error
        { explanation := lit "protection domain missing or not active", missReason := lit "DOMAIN_INVALID" })
    else if !vr.ok then
      (s, .error { explanation := lit "invalid buffer range: " ++ vr.code, missReason := vr.code })
    else match s.buffers.lookup descriptor.id with
    | none =>
      (s, .error
        { explanation := lit "buffer not created; call create_buffer first", missReason := lit "BUFFER_NOT_FOUND" })
    | some be =>
      -- the caller's descriptor is compared with the stored one in its generation only
      if be.descriptor.generation ≠ descriptor.generation then
        (s, .error { explanation := lit "buffer generation mismatch", missReason := lit "GENERATION_MISMATCH" })
      else if (s.activeRegistrationForBuffer.lookup descriptor.id).isSome then
        (s, .error
          { explanation := lit "buffer already has an active registration"
            missReason := lit "REGISTRATION_IN_FLIGHT" })
      else
        let can := IBackend.canRegister b descriptor
        if can ≠ [] then
          (s, .error { explanation := lit "backend rejects registration: " ++ can, missReason := can })
        else
          -- the id is drawn; the tables are written when the registration commits
          ({ s with nextRegistration := s.nextRegistration + 1 },
            .ok
              { descriptor := descriptor
                backend := backend
                env := env
                record := pendingRecord s b descriptor backend domain env
                ctx := registrationContext s b descriptor domain env })

/-- The backend call of `register_buffer`, outside the lock. -/
def registerCall (s : Rdmabuffer β) (p : PendingRegistration) :
    Rdmabuffer β × Except RegisterResult BackendRegistration :=
  match s.backends.lookup p.backend with
  | none =>
    (s, .error
      { explanation := lit "backend vanished during registration", missReason := lit "UNKNOWN_BACKEND" })
  | some b =>
    let (b', bo, bout) := IBackend.registerBuffer b p.descriptor p.ctx
    -- the backend has changed whatever it answered
    let s := { s with backends := Table.put p.backend b' s.backends }
    if !bo.ok then
      (s, .error
        { result := .partialFailure, explanation := lit "backend registration failed: " ++ bo.message
          missReason := bo.code })
    else (s, .ok bout)

/-- The record as the second section completes it, under the snapshot of that moment. -/
def commitRecord (authority : AuthoritySnapshot) (p : PendingRegistration) (bout : BackendRegistration) :
    RegistrationRecord :=
  { p.record with
    memoryRegionId := bout.memoryRegionId
    backendHandle := bout.handle
    start := bout.registeredBase
    length := bout.registeredLength
    grantedAccess := bout.grantedAccess
    -- the keys take boot and process from the snapshot at the commit
    localKey :=
      { id := bout.keys.localKeyId
        registration := p.record.id
        registrationGeneration := p.record.registrationGeneration
        boot := authority.workerBoot
        backend := p.backend
        transport := .tcpReference
        access := bout.grantedAccess
        opaqueValue := bout.keys.opaqueValue
        provenance := .synthetic }
    remoteKey :=
      { id := bout.keys.remoteKeyId
        registration := p.record.id
        registrationGeneration := p.record.registrationGeneration
        keyGeneration := bout.keys.remoteKeyGeneration
        bufferGeneration := p.record.bufferGeneration
        boot := authority.workerBoot
        process := authority.process
        backend := p.backend
        transport := .tcpReference
        access := bout.grantedAccess
        start := bout.registeredBase
        length := bout.registeredLength
        opaqueValue := bout.keys.opaqueValue
        revoked := false
        provenance := .synthetic }
    provenance := bout.provenance
    freshness := .valid
    lifecycle := .active }

/-- The second locked section of `register_buffer`: the record is committed. -/
def registerCommit (s : Rdmabuffer β) (p : PendingRegistration) (bout : BackendRegistration) :
    Rdmabuffer β × RegisterResult :=
  let record := commitRecord s.authority p bout
  ({ s with
      acct := accountRegistrationCommit s.acct record
      registrations := Table.put record.id record s.registrations
      activeRegistrationForBuffer := Table.put record.bufferId record.id s.activeRegistrationForBuffer },
    { ok := true, result := .registered, registration := record.id, reuse := .reuseMiss
      explanation := explainRegistration record })

def registerBuffer (s : Rdmabuffer β) (descriptor : BufferDescriptor) (backend : BackendId)
    (domain : ProtectionDomainId) (env : AuthorityEnvelope) : Rdmabuffer β × RegisterResult :=
  match registerBegin s descriptor backend domain env with
  | (s, .error rr) => (s, rr)
  | (s, .ok p) =>
    match registerCall s p with
    | (s, .error rr) => (s, rr)
    | (s, .ok bout) => registerCommit s p bout

/-! ## Deregistration -/

/-- The lifecycles from which `deregister` may start. -/
def deregisterable : RegistrationLifecycle → Bool
  | .active | .registered | .revoked | .stale | .revalidationRequired => true
  | _ => false

/-- The first locked section of `deregister`. -/
def deregisterBegin (s : Rdmabuffer β) (registration : RegistrationId) :
    Rdmabuffer β × Except StdString PendingDeregistration :=
  match s.registrations.lookup registration with
  | none => (s, .error (lit "registration not found"))
  | some rec =>
    if rec.leaseCount > 0 then
      (s, .error (lit "registration has active leases; revoke first or force-revoke"))
    else if !deregisterable rec.lifecycle then (s, .error (lit "registration not in deregisterable state"))
    else
      ({ s with registrations := Table.put registration { rec with lifecycle := .deregistering } s.registrations },
        .ok
          { registration := registration, handle := rec.backendHandle, region := rec.memoryRegionId
            backend := rec.backend })

/-- The backend call of `deregister`, outside the lock; the result is the backend's refusal, if it
refused. -/
def deregisterCall (s : Rdmabuffer β) (d : PendingDeregistration) : Rdmabuffer β × Option RegisterOutcome :=
  if !d.backend.isValid then (s, none)
  else match s.backends.lookup d.backend with
  | none => (s, none)
  | some b =>
    let (b', bo) := IBackend.deregisterBuffer b ⟨d.region, d.handle⟩
    ({ s with backends := Table.put d.backend b' s.backends }, if !bo.ok then some bo else none)

/-- The second locked section of `deregister`: the record is removed, or failed when the backend
refused. -/
def deregisterFinish (s : Rdmabuffer β) (d : PendingDeregistration) (refusal : Option RegisterOutcome) :
    Rdmabuffer β × Bool × StdString :=
  match refusal, s.registrations.lookup d.registration with
  | some bo, none => (s, false, lit "backend deregister failed: " ++ bo.message)
  | some bo, some rec =>
    ({ s with registrations := Table.put d.registration { rec with lifecycle := .failed } s.registrations },
      false, lit "backend deregister failed: " ++ bo.message)
  | none, none => (s, false, lit "registration vanished during deregister")
  | none, some rec =>
    let acct := accountRegistrationInvalidate s.acct rec
    ({ s with
        acct := { acct with deregistrations := acct.deregistrations.increment }
        registrations := s.registrations.erase d.registration
        activeRegistrationForBuffer := Table.eraseIf (fun _ r => r == d.registration) s.activeRegistrationForBuffer
        leases := Table.eraseIf (fun _ ls => ls.registration == d.registration) s.leases },
      true, lit "registration deregistered")

def deregister (s : Rdmabuffer β) (registration : RegistrationId) : Rdmabuffer β × Bool × StdString :=
  match deregisterBegin s registration with
  | (s, .error explanation) => (s, false, explanation)
  | (s, .ok d) =>
    let (s, refusal) := deregisterCall s d
    deregisterFinish s d refusal

/-! ## Recovery -/

/-- A buffer of the file is added unless its identity is present. -/
def recoverBuffer (sr : Rdmabuffer β × RecoveryReport) (b : BufferDescriptor) : Rdmabuffer β × RecoveryReport :=
  let (s, report) := sr
  if (s.buffers.lookup b.id).isSome then (s, report)
  else
    ({ s with
        buffers := Table.put b.id { descriptor := b, registered := false } s.buffers
        acct :=
          { s.acct with
            logicalBuffers := s.acct.logicalBuffers.increment
            liveBufferBytes := s.acct.liveBufferBytes.increment b.byteLength } },
      { report with recoveredBuffers := report.recoveredBuffers + 1 })

/-- A protection domain of the file is added unless its identity is present. -/
def recoverDomain (sr : Rdmabuffer β × RecoveryReport) (d : ProtectionDomainId) : Rdmabuffer β × RecoveryReport :=
  let (s, report) := sr
  if (s.domains.lookup d).isSome then (s, report)
  else
    ({ s with
        domains := Table.put d { state := .active, generation := ⟨1⟩ } s.domains
        acct := { s.acct with protectionDomains := s.acct.protectionDomains.increment } },
      { report with recoveredDomains := report.recoveredDomains + 1 })

/-- A registration of the file as it is taken over: not live, without key or handle material. -/
def recoveredRecord (rec : RegistrationRecord) : RegistrationRecord :=
  { rec with
    lifecycle := .revalidationRequired
    freshness := .revalidationRequired
    remoteKey := { rec.remoteKey with revoked := true, opaqueValue := 0 }
    localKey := { rec.localKey with opaqueValue := 0 }
    backendHandle := []
    memoryRegionId := {} }

/-- A registration of the file replaces whatever record has its identity. -/
def recoverRegistration (sr : Rdmabuffer β × RecoveryReport) (rec : RegistrationRecord) :
    Rdmabuffer β × RecoveryReport :=
  let (s, report) := sr
  ({ s with registrations := Table.put rec.id (recoveredRecord rec) s.registrations },
    { report with recoveredRegistrations := report.recoveredRegistrations + 1 })

/-- The locked section of `recover`, over the parsed file. -/
def restore (s : Rdmabuffer β) (state : PersistableState) : Rdmabuffer β × RecoveryReport :=
  let sr := state.buffers.foldl recoverBuffer (s, {})
  let sr := state.domains.foldl recoverDomain sr
  let (s, report) := state.registrations.foldl recoverRegistration sr
  ({ s with authority := state.authoritySnapshot },
    { report with persistenceOk := true, semanticDigest := Persistence.semanticDigest state })

/-- The argument is the content of the file, `none` when it cannot be opened. -/
def recover (s : Rdmabuffer β) (file : Option Bytes) : Rdmabuffer β × Except StdString RecoveryReport :=
  match file with
  | none => (s, .error (lit "IO_ERROR_OPEN"))
  | some bytes =>
    match Persistence.parse bytes with
    | .error err => (s, .error err)
    | .ok state => let (s, report) := restore s state; (s, .ok report)

/-! ## Queries -/

def currentEpoch (s : Rdmabuffer β) : CoordinatorEpoch := s.authority.coordinatorEpoch

def hasBuffer (s : Rdmabuffer β) (id : BufferId) : Bool := (s.buffers.lookup id).isSome

def getRegistration (s : Rdmabuffer β) (id : RegistrationId) : Option RegistrationRecord := s.registrations.lookup id

def accountingClean (s : Rdmabuffer β) : Bool := !s.acct.isOpen

end Rdmabuffer

end RdmaBuffer
