/-
The reference host-memory backend: fixed capabilities, its table of live entries and the backend
contract over them.
-/
import RdmaBuffer.Backend.Interface
import RdmaBuffer.Lib.Table

namespace RdmaBuffer

/-- `ReferenceBackend::Entry`. -/
structure ReferenceEntry where
  ctx : RegistrationContext := {}
  reg : BackendRegistration := {}
  revoked : Bool := false

structure ReferenceBackend where
  id : BackendId := ⟨0x524546⟩
  backendGen : BackendGeneration := ⟨1⟩
  state : BackendState := .ready
  nextSeq : UInt64 := 1
  entries : Table StdString ReferenceEntry := ∅

namespace ReferenceBackend

def new (id : BackendId) : ReferenceBackend := { id := id }

/-- `windows_os::page_size` where the platform does not report one. -/
def pageSize : UInt64 := 4096

def capabilities (_ : ReferenceBackend) : BackendCapabilities :=
  { supportedDomains := [.hostPageable, .hostPinned, .sharedMemory, .fileBacked]
    maxRegistrationLength := 0
    requiredAlignment := pageSize
    remoteRead := .supported
    remoteWrite := .supported
    remoteAtomic := .notSupported
    hostPinned := .supported
    pageableRegistration := .supported
    cudaDevice := .notSupported
    cudaManaged := .notSupported
    onDemandPaging := .unknown
    oneSided := .notSupported
    multiprocess := .supported
    multinode := .supported
    keyRotation := .supported
    revocation := .supported
    provenance := .real }

/-- The empty text when the descriptor may be registered, else the reason. -/
def canRegister (b : ReferenceBackend) (buffer : BufferDescriptor) : StdString :=
  if !domainSupported b.capabilities buffer.domain then lit "DOMAIN_UNSUPPORTED"
  else if buffer.byteLength == 0 then lit "ZERO_LENGTH"
  else if !(validateRange buffer).ok then (validateRange buffer).code
  else if accessHas buffer.requestedAccess .remoteAtomic then lit "REMOTE_ATOMIC_UNSUPPORTED"
  else []

/-- The memory region of the registration with sequence number `seq`. -/
def regionAt (seq : UInt64) : MemoryRegionId := ⟨0x100000000 + seq⟩

def makeHandle (id : MemoryRegionId) : StdString := lit "ref-" ++ intToStr id.value

/-- The material a registration of `buffer` in the region returns. -/
def makeRegistration (region : MemoryRegionId) (buffer : BufferDescriptor) : BackendRegistration :=
  { memoryRegionId := region
    handle := makeHandle region
    registeredBase := buffer.base.address
    registeredLength := buffer.byteLength
    grantedAccess := buffer.requestedAccess
    keys :=
      { remoteKeyId := ⟨region.value * 3 + 1⟩
        localKeyId := ⟨region.value * 3 + 2⟩
        remoteKeyGeneration := ⟨1⟩
        opaqueValue := region.value ^^^ 0x5A5A5A5A5A5A5A5A
        grantedAccess := buffer.requestedAccess
        provenance := .real }
    transport := ⟨0x525046⟩
    nic := {}
    provenance := .real
    freshness := .valid }

def registerBuffer (b : ReferenceBackend) (buffer : BufferDescriptor) (ctx : RegistrationContext) :
    ReferenceBackend × RegisterOutcome × BackendRegistration :=
  let reason := b.canRegister buffer
  if reason ≠ [] then
    (b, { ok := false, code := reason, message := lit "Reference backend rejects registration: " ++ reason }, {})
  else
    let region := regionAt b.nextSeq
    let r := makeRegistration region buffer
    let e : ReferenceEntry := { ctx := ctx, reg := r }
    ({ b with nextSeq := b.nextSeq + 1, entries := Table.put (makeHandle region) e b.entries },
      { ok := true, code := lit "REGISTERED", message := lit "Reference registration committed (TCP_REFERENCE)." }, r)

def deregisterBuffer (b : ReferenceBackend) (handle : RegisterHandle) : ReferenceBackend × RegisterOutcome :=
  match b.entries.lookup handle.handle with
  | none => (b, { ok := false, code := lit "NOT_FOUND", message := lit "No reference registration for handle." })
  | some _ =>
    ({ b with entries := b.entries.erase handle.handle },
      { ok := true, code := lit "DEREGISTERED", message := lit "Reference registration released." })

def queryRegistration (b : ReferenceBackend) (handle : RegisterHandle) :
    ReferenceBackend × RegisterOutcome × BackendRegistration :=
  match b.entries.lookup handle.handle with
  | none => (b, { ok := false, code := lit "NOT_FOUND", message := lit "No reference registration for handle." }, {})
  | some e => (b, { ok := true, code := lit "QUERIED", message := lit "Reference registration revalidated." }, e.reg)

/-- The verdict on a live entry, in the order of the checks. -/
def queryEntry (e : ReferenceEntry) (key : BackendKey) (kind : OperationKind) (offset length : UInt64) :
    AccessOutcome × StdString :=
  if e.revoked then (.rejectRevoked, lit "Reference registration has been revoked.")
  else if key.remoteKeyGeneration != e.reg.keys.remoteKeyGeneration then
    (.rejectStaleKey, lit "Reference remote key generation is stale.")
  else if offset > e.reg.registeredLength || length > e.reg.registeredLength - offset then
    (.rejectRange, lit "Reference access range exceeds registered length.")
  else if kind == .write && !accessHas e.reg.grantedAccess .remoteWrite then
    (.rejectPermission, lit "Reference registration does not grant REMOTE_WRITE.")
  else if kind == .read && !accessHas e.reg.grantedAccess .remoteRead then
    (.rejectPermission, lit "Reference registration does not grant REMOTE_READ.")
  else if kind == .atomicCompareSwap then
    (.rejectUnknownCapability, lit "Reference backend does not support REMOTE_ATOMIC.")
  else (.allow, lit "Reference backend permits this reference transport operation.")

def queryRemoteAccess (b : ReferenceBackend) (handle : RegisterHandle) (key : BackendKey) (kind : OperationKind)
    (offset length : UInt64) : ReferenceBackend × AccessOutcome × StdString :=
  match b.entries.lookup handle.handle with
  | none => (b, .rejectNotRegistered, lit "Reference backend has no live registration for this handle.")
  | some e => (b, queryEntry e key kind offset length)

def revalidate (b : ReferenceBackend) (handle : RegisterHandle) : ReferenceBackend × AccessOutcome × StdString :=
  match b.entries.lookup handle.handle with
  | none => (b, .rejectNotRegistered, lit "Cannot revalidate: reference registration not found.")
  | some _ => (b, .allow, lit "Reference registration revalidated.")

def abortRegistration (b : ReferenceBackend) (handle : RegisterHandle) : ReferenceBackend × Bool × StdString :=
  match b.entries.lookup handle.handle with
  | none => (b, false, lit "Abort: reference registration not found.")
  | some _ =>
    ({ b with entries := b.entries.erase handle.handle }, true, lit "Reference registration aborted.")

def rotateKey (b : ReferenceBackend) (handle : RegisterHandle) (newGen : RemoteKeyGeneration) :
    ReferenceBackend × Bool × StdString :=
  match b.entries.lookup handle.handle with
  | none => (b, false, lit "rotate_key: reference registration not found.")
  | some e =>
    ({ b with
        entries := Table.put handle.handle
          { e with reg := { e.reg with keys := { e.reg.keys with remoteKeyGeneration := newGen } } } b.entries },
      true, lit "reference key rotated to generation " ++ intToStr newGen.value)

def advanceBackendGeneration (b : ReferenceBackend) : ReferenceBackend :=
  { b with backendGen := b.backendGen.next }

instance : IBackend ReferenceBackend where
  id := ReferenceBackend.id
  name _ := lit "reference-tcp"
  provenance _ := .real
  generation := backendGen
  state := ReferenceBackend.state
  capabilities := capabilities
  canRegister := canRegister
  registerBuffer := registerBuffer
  deregisterBuffer := deregisterBuffer
  queryRegistration := queryRegistration
  queryRemoteAccess := queryRemoteAccess
  revalidate := revalidate
  abortRegistration := abortRegistration
  rotateKey := rotateKey
  advanceBackendGeneration := advanceBackendGeneration

end ReferenceBackend

end RdmaBuffer
