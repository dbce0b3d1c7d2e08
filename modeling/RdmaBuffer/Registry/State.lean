/-
The runtime's state, and the operations that are one locked section: authority, backends,
protection domains, buffers, reuse, leases, the access check, revocation and key rotation. Each
returns the state after it and its result.
-/
import RdmaBuffer.Backend.Interface
import RdmaBuffer.Lib.Table
import RdmaBuffer.Model.Accounting
import RdmaBuffer.Model.Explain

namespace RdmaBuffer

structure DomainEntry where
  domain : MemoryDomain := .unknown
  state : DomainState := .created
  generation : ProtectionDomainGeneration := {}
  node : NodeId := {}
  process : ProcessId := {}

structure BufferEntry where
  descriptor : BufferDescriptor := {}
  registered : Bool := false

/-- `Rdmabuffer::Impl`. -/
structure Rdmabuffer (β : Type) where
  authority : AuthoritySnapshot := {}
  backends : Table BackendId β := ∅
  domains : Table ProtectionDomainId DomainEntry := ∅
  buffers : Table BufferId BufferEntry := ∅
  registrations : Table RegistrationId RegistrationRecord := ∅
  activeRegistrationForBuffer : Table BufferId RegistrationId := ∅
  leases : Table RegistrationLeaseId Lease := ∅
  acct : Accounting := {}
  nextBuffer : UInt64 := 1
  nextRegistration : UInt64 := 1
  nextDomain : UInt64 := 1
  nextLease : UInt64 := 1

/-- `ACTIVE` or `REGISTERED`: the lifecycles in which a registration may be used. -/
def RegistrationLifecycle.isLive (l : RegistrationLifecycle) : Bool := l == .active || l == .registered

namespace Rdmabuffer

variable {β : Type} [IBackend β]

/-! ## Authority -/

def setAuthority (s : Rdmabuffer β) (snap : AuthoritySnapshot) : Rdmabuffer β := { s with authority := snap }

def advanceEpoch (s : Rdmabuffer β) : Rdmabuffer β :=
  { s with authority := { s.authority with coordinatorEpoch := s.authority.coordinatorEpoch.next } }

def noteParticipantRestart (s : Rdmabuffer β) : Rdmabuffer β :=
  { s with
    authority :=
      { s.authority with
        coordinatorEpoch := s.authority.coordinatorEpoch.next
        workerBoot := ⟨s.authority.workerBoot.value + 1⟩ }
    acct := { s.acct with participantRestarts := s.acct.participantRestarts.increment } }

/-! ## Backends -/

/-- The argument is `none` for a null pointer. -/
def addBackend (s : Rdmabuffer β) (b : Option β) : Rdmabuffer β × Bool :=
  match b with
  | none => (s, false)
  | some b =>
    if (s.backends.lookup (IBackend.id b)).isSome then (s, false)
    else ({ s with backends := Table.put (IBackend.id b) b s.backends }, true)

/-! ## Protection domains -/

def createProtectionDomain (s : Rdmabuffer β) (node : NodeId) (process : ProcessId) :
    Rdmabuffer β × ProtectionDomainId :=
  let id : ProtectionDomainId := ⟨s.nextDomain⟩
  let de : DomainEntry :=
    { domain := .unknown, state := .active, generation := ⟨1⟩, node := node, process := process }
  ({ s with
      nextDomain := s.nextDomain + 1
      domains := Table.put id de s.domains
      acct := { s.acct with protectionDomains := s.acct.protectionDomains.increment } }, id)

/-- A registration withdrawn by a loop over the table. -/
def withdraw (lifecycle : RegistrationLifecycle) (reason : StdString) (rec : RegistrationRecord) :
    RegistrationRecord :=
  { rec with lifecycle := lifecycle, freshness := .stale, invalidationReason := reason }

/-- The loop that withdraws every registration that `hit` selects and invalidates its accounting. -/
def withdrawAll (hit : RegistrationRecord → Bool) (lifecycle : RegistrationLifecycle) (reason : StdString)
    (s : Rdmabuffer β) : Rdmabuffer β :=
  { s with
    registrations := Table.mapVals (fun _ rec => if hit rec then withdraw lifecycle reason rec else rec) s.registrations
    acct := s.registrations.entries.foldl
      (fun a e => if hit e.2 then accountRegistrationInvalidate a e.2 else a) s.acct }

def destroyProtectionDomain (s : Rdmabuffer β) (d : ProtectionDomainId) : Rdmabuffer β × Bool :=
  match s.domains.lookup d with
  | none => (s, false)
  | some de =>
    let s := withdrawAll (fun rec => rec.domainId == d && rec.lifecycle.isLive) .revoked
      (lit "protection domain destroyed") s
    ({ s with
        domains := Table.put d { de with state := .destroyed, generation := de.generation.next } s.domains
        acct := { s.acct with protectionDomains := s.acct.protectionDomains.decrement.2 } }, true)

/-! ## Buffers -/

/-- The change of the live bytes when a buffer of length `old` becomes one of length `new`. -/
def adjustLiveBytes (c : Counter) (old new : UInt64) : Counter :=
  if new ≥ old then c.increment (new - old) else (c.decrement (old - new)).2

/-- The zero id is the refusal. -/
def createBuffer (s : Rdmabuffer β) (descriptor : BufferDescriptor) : Rdmabuffer β × BufferId :=
  let id : BufferId := if descriptor.id.isValid then descriptor.id else ⟨s.nextBuffer⟩
  let s := if descriptor.id.isValid then s else { s with nextBuffer := s.nextBuffer + 1 }
  match s.buffers.lookup id with
  | some be =>
    if descriptor.generation.value == be.descriptor.generation.value then (s, {})
    else if descriptor.generation.value < be.descriptor.generation.value then (s, {})
    else
      let s := withdrawAll
        (fun rec => rec.bufferId == id && (rec.lifecycle.isLive || rec.lifecycle == .registering)) .stale
        (lit "memory reallocated under new generation") s
      ({ s with
          acct :=
            { s.acct with
              liveBufferBytes :=
                adjustLiveBytes s.acct.liveBufferBytes be.descriptor.byteLength descriptor.byteLength }
          buffers := Table.put id { be with descriptor := descriptor, registered := false } s.buffers }, id)
  | none =>
    ({ s with
        buffers := Table.put id { descriptor := descriptor, registered := false } s.buffers
        acct :=
          { s.acct with
            logicalBuffers := s.acct.logicalBuffers.increment
            liveBufferBytes := s.acct.liveBufferBytes.increment descriptor.byteLength } }, id)

omit [IBackend β] in
/-- The state in which a descriptor is looked up: the counter has moved on where it drew the id. -/
theorem draws_next (s : Rdmabuffer β) (descriptor : BufferDescriptor) :
    (if descriptor.id.isValid then s else { s with nextBuffer := s.nextBuffer + 1 }) =
      { s with nextBuffer := if descriptor.id.isValid then s.nextBuffer else s.nextBuffer + 1 } := by
  split <;> rfl

/-! ## Reuse -/

/-- Why the candidate may not be reused; empty when it may. -/
def reuseMissReason (descriptor : BufferDescriptor) (cand : RegistrationRecord) (backend : BackendId)
    (domain : ProtectionDomainId) (env : AuthorityEnvelope) : StdString :=
  if cand.bufferId != descriptor.id then lit "BufferId mismatch"
  else if cand.bufferGeneration != descriptor.generation then
    lit "BufferGeneration changed from " ++ intToStr cand.bufferGeneration.value ++
      lit " to " ++ intToStr descriptor.generation.value ++ lit " after memory reallocation"
  else if cand.domain != descriptor.domain then lit "MemoryDomain mismatch"
  else if cand.backend != backend then lit "Backend mismatch"
  else if cand.domainId != domain then lit "ProtectionDomain mismatch"
  else if !accessSuperset cand.grantedAccess descriptor.requestedAccess then
    lit "Requested access rights not a subset of granted access"
  else if !cand.lifecycle.isLive then lit "Candidate registration not active"
  else if cand.boot != env.workerBoot then lit "WorkerBootId mismatch"
  else if cand.freshness != .valid then lit "Candidate freshness not valid"
  else if !cand.remoteKey.revoked && !cand.remoteKey.id.isValid then lit "Candidate remote key absent"
  else []

def registerBufferReuse (s : Rdmabuffer β) (descriptor : BufferDescriptor) (backend : BackendId)
    (domain : ProtectionDomainId) (env : AuthorityEnvelope) : Rdmabuffer β × RegisterResult :=
  let ad := validateAuthority s.authority env
  if ad.outcome ≠ .allow then (s, { explanation := ad.explanation, missReason := ad.code })
  else match s.activeRegistrationForBuffer.lookup descriptor.id with
  | none =>
    (s, { explanation := lit "no registration available for reuse", missReason := lit "NO_CANDIDATE" })
  | some r =>
    match s.registrations.lookup r with
    | none => (s, { explanation := lit "candidate registration missing", missReason := lit "NO_CANDIDATE" })
    | some cand =>
      let miss := reuseMissReason descriptor cand backend domain env
      if miss ≠ [] then
        ({ s with acct := { s.acct with registrationMisses := s.acct.registrationMisses.increment } },
          { result := .rejected, reuse := .reuseMiss, explanation := explainReuse descriptor cand false miss,
            missReason := miss })
      else
        ({ s with acct := { s.acct with registrationReuseHits := s.acct.registrationReuseHits.increment } },
          { ok := true, result := .reused, reuse := .reuseHit, registration := cand.id,
            explanation := explainReuse descriptor cand true [] })

/-! ## Leases -/

def acquireLease (s : Rdmabuffer β) (registration : RegistrationId) (env : AuthorityEnvelope) (needed : AccessMask) :
    Rdmabuffer β × LeaseAcquireResult :=
  let ad := validateAuthority s.authority env
  if ad.outcome ≠ .allow then (s, { explanation := ad.explanation })
  else match s.registrations.lookup registration with
  | none => (s, { explanation := lit "registration not found" })
  | some rec =>
    if !rec.lifecycle.isLive then
      (s, { explanation := lit "registration lifecycle does not permit leasing: " ++ lifecycleName rec.lifecycle })
    else if !accessSuperset rec.grantedAccess needed then
      (s, { explanation := lit "registration does not grant requested access rights" })
    else if rec.freshness ≠ .valid then (s, { explanation := lit "registration freshness is not VALID" })
    else
      let ls : Lease :=
        { id := ⟨s.nextLease⟩
          registration := registration
          registrationGeneration := rec.registrationGeneration
          leaseGeneration := ⟨rec.leaseCount + 1⟩
          bufferGeneration := rec.bufferGeneration
          boot := env.workerBoot
          owner := env.owner
          domain := rec.domainId
          access := needed
          state := .active
          provenance := rec.provenance }
      ({ s with
          nextLease := s.nextLease + 1
          leases := Table.put ls.id ls s.leases
          registrations := Table.put registration { rec with leaseCount := rec.leaseCount + 1 } s.registrations
          acct := { s.acct with activeLeases := s.acct.activeLeases.increment } },
        { ok := true, lease := ls
          explanation := lit "lease acquired on registration " ++ intToStr registration.value })

def releaseLease (s : Rdmabuffer β) (lease : RegistrationLeaseId) : Rdmabuffer β × Bool :=
  match s.leases.lookup lease with
  | none => (s, false)
  | some ls =>
    if ls.state = .released then (s, false)
    else
      let registrations :=
        match s.registrations.lookup ls.registration with
        | none => s.registrations
        | some rec =>
          if rec.leaseCount > 0 then
            Table.put ls.registration { rec with leaseCount := rec.leaseCount - 1 } s.registrations
          else s.registrations
      ({ s with
          leases := Table.put lease { ls with state := .released } s.leases
          registrations := registrations
          acct := { s.acct with activeLeases := s.acct.activeLeases.decrement.2 } }, true)

/-! ## The access check -/

/-- The outcomes counted as stale rejections. -/
def isStale : AccessOutcome → Bool
  | .rejectStaleEpoch | .rejectStaleBoot | .rejectStaleBuffer | .rejectStaleRegistration | .rejectStaleKey => true
  | _ => false

/-- A verdict, counted unless it is ALLOW. -/
def decision (s : Rdmabuffer β) (o : AccessOutcome) (e : StdString) : Rdmabuffer β × AccessDecision :=
  (if o = .allow then s
    else
      { s with
        acct :=
          { s.acct with
            failedAccessAttempts := s.acct.failedAccessAttempts.increment
            staleAccessRejections :=
              if isStale o then s.acct.staleAccessRejections.increment else s.acct.staleAccessRejections } },
    makeDecision o e)

def backDummyRemoteKey (rec : RegistrationRecord) : BackendKey :=
  { remoteKeyId := rec.remoteKey.id
    localKeyId := rec.localKey.id
    remoteKeyGeneration := rec.remoteKey.keyGeneration
    opaqueValue := rec.remoteKey.opaqueValue
    grantedAccess := rec.remoteKey.access
    provenance := rec.provenance }

/-- The bytes or operations an allowed request adds to the counters. -/
def observe (a : Accounting) (kind : OperationKind) (length : UInt64) : Accounting :=
  match kind with
  | .write => { a with remoteWriteBytes := a.remoteWriteBytes.increment length }
  | .read => { a with remoteReadBytes := a.remoteReadBytes.increment length }
  | .atomicCompareSwap => { a with atomicOperations := a.atomicOperations.increment }

def intrinsicRightName : OperationKind → StdString
  | .write => lit "REMOTE_WRITE"
  | .read => lit "REMOTE_READ"
  | .atomicCompareSwap => lit "REMOTE_ATOMIC"

def validateRemoteAccess (s : Rdmabuffer β) (request : RemoteAccessRequest) : Rdmabuffer β × AccessDecision :=
  match s.registrations.lookup request.sourceRegistration with
  | none => decision s .rejectNotRegistered (lit "registration not found")
  | some rec =>
    if rec.lifecycle = .revoked ∨ rec.lifecycle = .deregistered ∨ rec.lifecycle = .stale then
      decision s .rejectRevoked
        (lit "registration lifecycle " ++ lifecycleName rec.lifecycle ++ lit " does not permit remote access")
    else if rec.lifecycle = .revoking then decision s .rejectRevoked (lit "registration is being revoked")
    else if rec.freshness ≠ .valid then
      decision s .rejectStaleRegistration (lit "registration freshness is " ++ freshnessName rec.freshness)
    else if (validateAuthority s.authority request.authority).outcome ≠ .allow then
      -- returned as it is, not through the counting decision
      (s, validateAuthority s.authority request.authority)
    else if request.expectedRegistrationGeneration.isValid ∧
        request.expectedRegistrationGeneration ≠ rec.registrationGeneration then
      decision s .rejectStaleRegistration
        (lit "registration generation " ++ intToStr request.expectedRegistrationGeneration.value ++
          lit " is stale; current " ++ intToStr rec.registrationGeneration.value)
    else if request.expectedBufferGeneration.isValid ∧ request.expectedBufferGeneration ≠ rec.bufferGeneration then
      decision s .rejectStaleBuffer
        (lit "buffer generation " ++ intToStr request.expectedBufferGeneration.value ++
          lit " is stale; current " ++ intToStr rec.bufferGeneration.value)
    else if request.expectedRemoteKeyGeneration.isValid ∧
        request.expectedRemoteKeyGeneration ≠ rec.remoteKey.keyGeneration then
      decision s .rejectStaleKey
        (lit "RemoteKeyGeneration " ++ intToStr request.expectedRemoteKeyGeneration.value ++
          lit " is stale; current " ++ intToStr rec.remoteKey.keyGeneration.value)
    else if rec.remoteKey.revoked then decision s .rejectStaleKey (lit "remote key has been revoked")
    else if request.backend.isValid ∧ request.backend ≠ rec.backend then
      decision s .rejectBackend (lit "backend mismatch")
    else match s.backends.lookup rec.backend with
    | none => decision s .rejectBackend (lit "backend generation changed")
    | some b =>
      if IBackend.generation b ≠ rec.backendGeneration then
        decision s .rejectBackend (lit "backend generation changed")
      else if request.transport.isValid ∧ request.transport ≠ rec.transport then
        decision s .rejectTransport (lit "transport mismatch")
      else if request.domain.isValid ∧ request.domain ≠ rec.domainId then
        decision s .rejectDomain (lit "protection domain mismatch")
      else if !accessSuperset rec.grantedAccess request.requiredRights then
        decision s .rejectPermission
          (lit "required rights 0x" ++ intToStr request.requiredRights.toUInt64 ++
            lit " not granted (granted 0x" ++ intToStr rec.grantedAccess.toUInt64 ++ lit ")")
      else if !accessHas rec.grantedAccess (intrinsicRight request.kind) then
        decision s .rejectPermission
          (operationKindName request.kind ++ lit " requires " ++ intrinsicRightName request.kind ++
            lit " which is not granted")
      else if request.kind = .atomicCompareSwap ∧ accessHas request.requiredRights .remoteAtomic ∧
          !capabilityAllows (IBackend.capabilities b).remoteAtomic then
        decision s .rejectUnknownCapability (lit "backend does not explicitly support REMOTE_ATOMIC")
      else if !rangeInside rec.descriptor request.offset request.length then
        decision s .rejectRange
          (lit "requested range [" ++ intToStr request.offset ++ lit ", " ++ intToStr request.length ++
            lit "] outside registered range")
      else
        let (b', bo, ex) := IBackend.queryRemoteAccess b ⟨rec.memoryRegionId, rec.backendHandle⟩
          (backDummyRemoteKey rec) request.kind request.offset request.length
        let s := { s with backends := Table.put rec.backend b' s.backends }
        if bo ≠ .allow then decision s bo ex
        else
          decision { s with acct := observe s.acct request.kind request.length } .allow
            (lit "remote " ++ operationKindName request.kind ++ lit " allowed")

/-! ## Revocation and key rotation -/

/-- A record after a hard revoke. -/
def hardRevoked (rec : RegistrationRecord) : RegistrationRecord :=
  { rec with
    invalidationReason := lit "hard revoke"
    remoteKey := { rec.remoteKey with keyGeneration := rec.remoteKey.keyGeneration.next, revoked := true }
    freshness := .stale
    lifecycle := .revoked }

/-- A record after a soft revoke: `REVOKING` while leases are outstanding. -/
def softRevoked (rec : RegistrationRecord) : RegistrationRecord :=
  { rec with
    invalidationReason := lit "soft revoke"
    freshness := .stale
    lifecycle := if rec.leaseCount = 0 then .revoked else .revoking }

theorem softRevoked_lifecycle (rec : RegistrationRecord) :
    (softRevoked rec).lifecycle = .revoked ∨ (softRevoked rec).lifecycle = .revoking := by
  unfold softRevoked
  dsimp only
  split
  · exact .inl rfl
  · exact .inr rfl

theorem softRevoked_not_live (rec : RegistrationRecord) : (softRevoked rec).lifecycle.isLive = false := by
  rcases softRevoked_lifecycle rec with h | h <;> rw [h] <;> rfl

/-- The loop over the leases in a hard revoke. -/
def revokesLease (registration : RegistrationId) (ls : Lease) : Bool :=
  ls.registration == registration && ls.state == .active

def revoke (s : Rdmabuffer β) (registration : RegistrationId) (mode : RevocationMode) : Rdmabuffer β × RevokeResult :=
  match s.registrations.lookup registration with
  | none => (s, { explanation := lit "registration not found" })
  | some rec =>
    if !rec.lifecycle.isLive then (s, { explanation := lit "registration not in revocable state" })
    else match mode with
    | .hardRevoke =>
      let rec' := hardRevoked rec
      ({ s with
          registrations := Table.put registration rec' s.registrations
          leases := Table.mapVals
            (fun _ ls => if revokesLease registration ls then { ls with state := .revoked } else ls) s.leases
          activeRegistrationForBuffer := s.activeRegistrationForBuffer.erase rec.bufferId
          acct :=
            { s.acct with
              activeLeases := s.leases.entries.foldl
                (fun c e => if revokesLease registration e.2 then c.decrement.2 else c) s.acct.activeLeases
              revocations := s.acct.revocations.increment } },
        { ok := true, lifecycle := rec'.lifecycle, keysInvalidated := true
          explanation := explainRevocation rec' mode true })
    | .softRevoke =>
      let rec' := softRevoked rec
      ({ s with
          registrations := Table.put registration rec' s.registrations
          acct :=
            { s.acct with
              revocations := if rec.leaseCount = 0 then s.acct.revocations.increment else s.acct.revocations } },
        { ok := true, lifecycle := rec'.lifecycle, keysInvalidated := false
          explanation := explainRevocation rec' mode false })

/-- A record after a key rotation. -/
def rotated (rec : RegistrationRecord) : RegistrationRecord :=
  { rec with
    remoteKey :=
      { rec.remoteKey with
        keyGeneration := rec.remoteKey.keyGeneration.next
        revoked := false
        opaqueValue := rec.remoteKey.opaqueValue ^^^ 0x0101010101010101 } }

def rotateKey (s : Rdmabuffer β) (registration : RegistrationId) : Rdmabuffer β × Bool × StdString :=
  match s.registrations.lookup registration with
  | none => (s, false, lit "registration not found")
  | some rec =>
    if !rec.lifecycle.isLive then (s, false, lit "registration not active")
    else
      let rec' := rotated rec
      -- the backend's answer is ignored
      let backends :=
        match s.backends.lookup rec'.backend with
        | none => s.backends
        | some b =>
          if rec'.backendHandle = [] then s.backends
          else Table.put rec'.backend
            (IBackend.rotateKey b ⟨rec'.memoryRegionId, rec'.backendHandle⟩ rec'.remoteKey.keyGeneration).1 s.backends
      ({ s with registrations := Table.put registration rec' s.registrations, backends := backends },
        true, lit "remote key rotated to generation " ++ intToStr rec'.remoteKey.keyGeneration.value)

end Rdmabuffer

end RdmaBuffer
