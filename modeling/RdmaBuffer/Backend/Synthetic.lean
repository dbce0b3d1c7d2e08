/-
The deterministic synthetic backend: its capability profile, its table of live entries, the
backend contract over them, and the scenario controls.
-/
import RdmaBuffer.Backend.Interface
import RdmaBuffer.Lib.Table

namespace RdmaBuffer

/-- `SyntheticBackend::Entry`. -/
structure SyntheticEntry where
  ctx : RegistrationContext := {}
  reg : BackendRegistration := {}
  keyGeneration : RemoteKeyGeneration := {}
  revoked : Bool := false
  revalidateRequired : Bool := false

structure SyntheticBackend where
  id : BackendId := ⟨0x53594E54⟩
  backendGen : BackendGeneration := ⟨1⟩
  transportGen : TransportGeneration := ⟨1⟩
  nicGen : NicGeneration := ⟨1⟩
  nic : NicId := ⟨0x53594E49⟩
  state : BackendState := .ready
  seed : UInt64 := 0x52444D41
  nextSeq : UInt64 := 1
  hostPinnedSupported : Bool := true
  pageableSupported : Bool := true
  sharedSupported : Bool := true
  fileBackedSupported : Bool := true
  cudaDeviceSupported : Bool := false
  cudaManagedSupported : Bool := false
  syntheticDomainSupported : Bool := true
  remoteReadSupported : Bool := true
  remoteWriteSupported : Bool := true
  atomicSupported : Bool := false
  oneSidedSupported : Bool := true
  requiredAlignment : UInt64 := 4096
  entries : Table StdString SyntheticEntry := ∅
  regionHandle : Table MemoryRegionId StdString := ∅

namespace SyntheticBackend

/-- The constructor: everything at its default but the seed. -/
def new (seed : UInt64) : SyntheticBackend := { seed := seed }

def capability (s : Bool) : CapabilityState := if s then .supported else .notSupported

def capabilities (b : SyntheticBackend) : BackendCapabilities :=
  { supportedDomains :=
      (if b.syntheticDomainSupported then [.syntheticRemoteCapable] else []) ++
      (if b.hostPinnedSupported then [.hostPinned] else []) ++
      (if b.pageableSupported then [.hostPageable] else []) ++
      (if b.sharedSupported then [.sharedMemory] else []) ++
      (if b.fileBackedSupported then [.fileBacked] else []) ++
      (if b.cudaDeviceSupported then [.cudaDevice] else []) ++
      (if b.cudaManagedSupported then [.cudaManaged] else [])
    maxRegistrationLength := 0
    requiredAlignment := b.requiredAlignment
    remoteRead := capability b.remoteReadSupported
    remoteWrite := capability b.remoteWriteSupported
    remoteAtomic := capability b.atomicSupported
    hostPinned := capability b.hostPinnedSupported
    pageableRegistration := capability b.pageableSupported
    cudaDevice := capability b.cudaDeviceSupported
    cudaManaged := capability b.cudaManagedSupported
    onDemandPaging := .unknown
    oneSided := capability b.oneSidedSupported
    multiprocess := .supported
    multinode := .supported
    keyRotation := .supported
    revocation := .supported
    provenance := .synthetic }

/-- The empty text when the descriptor may be registered, else the reason. -/
def canRegister (b : SyntheticBackend) (buffer : BufferDescriptor) : StdString :=
  let wantsRead := accessHas buffer.requestedAccess .remoteRead
  let wantsWrite := accessHas buffer.requestedAccess .remoteWrite
  let wantsAtomic := accessHas buffer.requestedAccess .remoteAtomic
  if !domainSupported b.capabilities buffer.domain then lit "DOMAIN_UNSUPPORTED"
  else if buffer.byteLength == 0 then lit "ZERO_LENGTH"
  else if !(validateRange buffer).ok then (validateRange buffer).code
  else if b.requiredAlignment != 0 && buffer.alignment != 0 &&
      (buffer.alignment % b.requiredAlignment != 0 || b.requiredAlignment % buffer.alignment != 0) then
    lit "ALIGNMENT_INCOMPATIBLE"
  else if wantsRead && !b.remoteReadSupported then lit "REMOTE_READ_UNSUPPORTED"
  else if wantsWrite && !b.remoteWriteSupported then lit "REMOTE_WRITE_UNSUPPORTED"
  else if wantsAtomic && !b.atomicSupported then lit "REMOTE_ATOMIC_UNSUPPORTED"
  else if (wantsRead || wantsWrite || wantsAtomic) && buffer.domain == .cudaDevice && !b.cudaDeviceSupported then
    lit "CUDA_DEVICE_UNSUPPORTED"
  else []

def makeHandle (id : MemoryRegionId) : StdString := lit "syn-" ++ toHex id.value

/-- The memory region of the registration with sequence number `seq`. -/
def regionAt (b : SyntheticBackend) (seq : UInt64) : MemoryRegionId :=
  ⟨b.seed ^^^ (seq <<< 7) ^^^ 0x9E3779B97F4A7C15⟩

/-- The material a registration of `buffer` in the region returns. -/
def makeRegistration (b : SyntheticBackend) (region : MemoryRegionId) (buffer : BufferDescriptor)
    (ctx : RegistrationContext) : BackendRegistration :=
  { memoryRegionId := region
    handle := makeHandle region
    registeredBase := buffer.base.address
    registeredLength := buffer.byteLength
    grantedAccess := buffer.requestedAccess
    keys :=
      { remoteKeyId := ⟨region.value * 3 + 1⟩
        localKeyId := ⟨region.value * 3 + 2⟩
        remoteKeyGeneration := ⟨1⟩
        opaqueValue := region.value ^^^ 0xA5A5A5A5A5A5A5A5
        grantedAccess := buffer.requestedAccess
        provenance := .synthetic }
    transport := ⟨0x53594E54⟩
    nic := b.nic
    device := if ctx.worker.isValid then ⟨ctx.worker.value + 1⟩ else {}
    provenance := .synthetic
    freshness := .valid }

def registerBuffer (b : SyntheticBackend) (buffer : BufferDescriptor) (ctx : RegistrationContext) :
    SyntheticBackend × RegisterOutcome × BackendRegistration :=
  let reason := b.canRegister buffer
  if reason ≠ [] then
    (b, { ok := false, code := reason, message := lit "Synthetic backend rejects registration: " ++ reason }, {})
  else
    let region := b.regionAt b.nextSeq
    let handle := makeHandle region
    let r := b.makeRegistration region buffer ctx
    let e : SyntheticEntry := { ctx := ctx, reg := r, keyGeneration := ⟨1⟩ }
    ({ b with
        nextSeq := b.nextSeq + 1
        entries := Table.put handle e b.entries
        regionHandle := Table.put region handle b.regionHandle },
      { ok := true, code := lit "REGISTERED", message := lit "Synthetic registration committed." }, r)

def deregisterBuffer (b : SyntheticBackend) (handle : RegisterHandle) : SyntheticBackend × RegisterOutcome :=
  match b.entries.lookup handle.handle with
  | none => (b, { ok := false, code := lit "NOT_FOUND", message := lit "No synthetic registration for handle." })
  | some e =>
    ({ b with
        entries := b.entries.erase handle.handle
        regionHandle := b.regionHandle.erase e.reg.memoryRegionId },
      { ok := true, code := lit "DEREGISTERED", message := lit "Synthetic registration released." })

def queryRegistration (b : SyntheticBackend) (handle : RegisterHandle) :
    SyntheticBackend × RegisterOutcome × BackendRegistration :=
  match b.entries.lookup handle.handle with
  | none => (b, { ok := false, code := lit "NOT_FOUND", message := lit "No synthetic registration for handle." }, {})
  | some e => (b, { ok := true, code := lit "QUERIED", message := lit "Synthetic registration revalidated." }, e.reg)

/-- The verdict on a live entry, in the order of the checks. -/
def queryEntry (b : SyntheticBackend) (e : SyntheticEntry) (key : BackendKey) (kind : OperationKind)
    (offset length : UInt64) : AccessOutcome × StdString :=
  if e.revalidateRequired then
    (.rejectStaleRegistration, lit "Synthetic registration requires revalidation; key is not authoritative.")
  else if e.revoked then (.rejectRevoked, lit "Synthetic registration has been revoked.")
  else if key.remoteKeyGeneration != e.keyGeneration then
    (.rejectStaleKey, lit "Synthetic remote key generation " ++ intToStr key.remoteKeyGeneration.value ++
      lit " is stale; current is " ++ intToStr e.keyGeneration.value ++ lit ".")
  else if offset > e.reg.registeredLength || length > e.reg.registeredLength - offset then
    (.rejectRange, lit "Synthetic access range [" ++ intToStr offset ++ lit ", " ++ intToStr length ++
      lit "] exceeds registered length " ++ intToStr e.reg.registeredLength ++ lit ".")
  else match kind with
    | .write =>
      if !b.remoteWriteSupported then
        (.rejectUnknownCapability, lit "Synthetic backend does not support REMOTE_WRITE.")
      else if !accessHas e.reg.grantedAccess .remoteWrite then
        (.rejectPermission, lit "Synthetic registration does not grant REMOTE_WRITE.")
      else (.allow, lit "Synthetic backend permits this remote operation.")
    | .read =>
      if !b.remoteReadSupported then
        (.rejectUnknownCapability, lit "Synthetic backend does not support REMOTE_READ.")
      else if !accessHas e.reg.grantedAccess .remoteRead then
        (.rejectPermission, lit "Synthetic registration does not grant REMOTE_READ.")
      else (.allow, lit "Synthetic backend permits this remote operation.")
    | .atomicCompareSwap =>
      if !b.atomicSupported then
        (.rejectUnknownCapability, lit "Synthetic backend does not support REMOTE_ATOMIC.")
      else if !accessHas e.reg.grantedAccess .remoteAtomic then
        (.rejectPermission, lit "Synthetic registration does not grant REMOTE_ATOMIC.")
      else (.allow, lit "Synthetic backend permits this remote operation.")

def queryRemoteAccess (b : SyntheticBackend) (handle : RegisterHandle) (key : BackendKey) (kind : OperationKind)
    (offset length : UInt64) : SyntheticBackend × AccessOutcome × StdString :=
  match b.entries.lookup handle.handle with
  | none => (b, .rejectNotRegistered, lit "Synthetic backend has no live registration for this handle.")
  | some e => (b, b.queryEntry e key kind offset length)

def revalidate (b : SyntheticBackend) (handle : RegisterHandle) : SyntheticBackend × AccessOutcome × StdString :=
  match b.entries.lookup handle.handle with
  | none => (b, .rejectNotRegistered, lit "Cannot revalidate: synthetic registration not found.")
  | some e =>
    ({ b with entries := Table.put handle.handle { e with revalidateRequired := false } b.entries },
      .allow, lit "Synthetic registration revalidated.")

def abortRegistration (b : SyntheticBackend) (handle : RegisterHandle) : SyntheticBackend × Bool × StdString :=
  match b.entries.lookup handle.handle with
  | none => (b, false, lit "Abort: synthetic registration not found.")
  | some e =>
    ({ b with
        entries := b.entries.erase handle.handle
        regionHandle := b.regionHandle.erase e.reg.memoryRegionId },
      true, lit "Synthetic registration aborted.")

def rotateKey (b : SyntheticBackend) (handle : RegisterHandle) (newGen : RemoteKeyGeneration) :
    SyntheticBackend × Bool × StdString :=
  match b.entries.lookup handle.handle with
  | none => (b, false, lit "rotate_key: synthetic registration not found.")
  | some e =>
    ({ b with
        entries := Table.put handle.handle
          { e with
            keyGeneration := newGen
            reg := { e.reg with keys := { e.reg.keys with remoteKeyGeneration := newGen } }
            revalidateRequired := false } b.entries },
      true, lit "synthetic key rotated to generation " ++ intToStr newGen.value)

/-! ## Simulated remote operations -/

def xorshift64 (s : UInt64) : UInt64 :=
  let x := s ^^^ (s <<< 13)
  let x := x ^^^ (x >>> 7)
  x ^^^ (x <<< 17)

/-- One step of the scan of `simulate_remote`: the smaller handle, if the entry is live and has the key generation. -/
def betterHandle (expectedKeyGeneration : UInt64) (best handle : StdString) (e : SyntheticEntry) : StdString :=
  if e.revoked || e.revalidateRequired then best
  else if e.keyGeneration.value != expectedKeyGeneration then best
  else if best.isEmpty || handle < best then handle
  else best

/-- The handle the scan ends at, empty when it finds none. -/
def bestHandle (b : SyntheticBackend) (expectedKeyGeneration : UInt64) : StdString :=
  b.entries.entries.foldl (fun best e => betterHandle expectedKeyGeneration best e.1 e.2) []

/-- The verdict, its explanation and the delta; `none` where the source throws or divides by a length of zero. -/
def simulateRemote (b : SyntheticBackend) (kind : OperationKind) (offset length expectedKeyGeneration : UInt64) :
    Option (AccessOutcome × StdString × UInt64) :=
  let best := b.bestHandle expectedKeyGeneration
  if best.isEmpty then
    some (.rejectStaleKey,
      lit "Synthetic backend could not locate a live registration with the supplied key generation.", 0)
  else match b.entries.lookup best with
  | none => none
  | some e =>
    let (_, o, explanation) :=
      b.queryRemoteAccess ⟨e.reg.memoryRegionId, e.reg.handle⟩ e.reg.keys kind offset length
    if o ≠ .allow then some (o, explanation, 0)
    else if length = 0 then none
    else
      some (o,
        lit "Synthetic remote " ++ accessOutcomeName .allow ++ lit " simulated (provenance=SYNTHETIC).",
        xorshift64 (b.seed ^^^ e.reg.memoryRegionId.value ^^^ (offset <<< 3)) % length)

/-! ## Scenario controls -/

def rolloverBackendGeneration (b : SyntheticBackend) : SyntheticBackend :=
  { b with backendGen := b.backendGen.next }

def rolloverTransportGeneration (b : SyntheticBackend) : SyntheticBackend :=
  { b with
    transportGen := b.transportGen.next
    entries := Table.mapVals
      (fun _ e => { e with revalidateRequired := true, keyGeneration := e.keyGeneration.next }) b.entries }

def rolloverNicGeneration (b : SyntheticBackend) : SyntheticBackend :=
  { b with nicGen := b.nicGen.next }

def simulateBackendRestart (b : SyntheticBackend) : SyntheticBackend :=
  { b with
    entries := ∅
    regionHandle := ∅
    backendGen := b.backendGen.next
    transportGen := b.transportGen.next
    nicGen := b.nicGen.next
    state := .ready }

/-- The controls a scenario may call on the backend at any time. -/
inductive Control
  | configureDeviceMemorySupport (s : Bool)
  | configureAtomicSupport (s : Bool)
  | configureRemoteWrite (s : Bool)
  | configureRemoteRead (s : Bool)
  | configureRequiredAlignment (a : UInt64)
  | configureSyntheticDomainSupport (s : Bool)
  | rolloverBackendGeneration
  | rolloverTransportGeneration
  | rolloverNicGeneration
  | simulateBackendRestart
  deriving DecidableEq

namespace Control

def run (b : SyntheticBackend) : Control → SyntheticBackend
  | .configureDeviceMemorySupport s => { b with cudaDeviceSupported := s }
  | .configureAtomicSupport s => { b with atomicSupported := s }
  | .configureRemoteWrite s => { b with remoteWriteSupported := s }
  | .configureRemoteRead s => { b with remoteReadSupported := s }
  | .configureRequiredAlignment a => { b with requiredAlignment := a }
  | .configureSyntheticDomainSupport s => { b with syntheticDomainSupported := s }
  | .rolloverBackendGeneration => b.rolloverBackendGeneration
  | .rolloverTransportGeneration => b.rolloverTransportGeneration
  | .rolloverNicGeneration => b.rolloverNicGeneration
  | .simulateBackendRestart => b.simulateBackendRestart

/-- The control only changes the capability profile. -/
def Configures : Control → Prop
  | .rolloverBackendGeneration | .rolloverTransportGeneration | .rolloverNicGeneration
  | .simulateBackendRestart => False
  | _ => True

end Control

instance : IBackend SyntheticBackend where
  id := SyntheticBackend.id
  name _ := lit "synthetic-rdma"
  provenance _ := .synthetic
  generation := backendGen
  state := SyntheticBackend.state
  capabilities := capabilities
  canRegister := canRegister
  registerBuffer := registerBuffer
  deregisterBuffer := deregisterBuffer
  queryRegistration := queryRegistration
  queryRemoteAccess := queryRemoteAccess
  revalidate := revalidate
  abortRegistration := abortRegistration
  rotateKey := rotateKey
  advanceBackendGeneration := rolloverBackendGeneration

end SyntheticBackend

end RdmaBuffer
