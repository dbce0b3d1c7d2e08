/-
The records the runtime keeps, receives and returns: descriptors, keys, registrations, leases,
authority, capabilities and requests, each with the defaults of the source.
-/
import Mathlib.Algebra.Group.Nat.Defs
import RdmaBuffer.Model.Enums
import RdmaBuffer.Model.Identity

namespace RdmaBuffer

/-! ## Buffers -/

/-- A base pointer as a value. -/
structure BufferPointer where
  address : UInt64 := 0
  kind : PointerKind := .unknown

namespace BufferPointer

def isValid (p : BufferPointer) : Bool := p.address != 0

end BufferPointer

/-- The governing description of a buffer that may be registered. -/
structure BufferDescriptor where
  id : BufferId := {}
  generation : BufferGeneration := {}
  domain : MemoryDomain := .unknown
  base : BufferPointer := {}
  byteLength : UInt64 := 0
  alignment : UInt64 := 1
  pageSize : UInt64 := 0
  owner : OwnerId := {}
  process : ProcessId := {}
  worker : WorkerId := {}
  node : NodeId := {}
  device : DeviceId := {}
  direction : TransferDirection := .none
  requestedAccess : AccessMask := 0
  registrationMode : RegistrationMode := .any
  lifetime : LifetimePolicy := .transactional
  provenance : Provenance := .unknown
  freshness : Freshness := .unknown
  policyGeneration : PolicyGeneration := {}

structure BufferValidation where
  ok : Bool := false
  code : StdString := []

/-! ## Keys -/

structure RemoteKey where
  id : RemoteKeyId := {}
  registration : RegistrationId := {}
  registrationGeneration : RegistrationGeneration := {}
  keyGeneration : RemoteKeyGeneration := {}
  bufferGeneration : BufferGeneration := {}
  boot : WorkerBootId := {}
  process : ProcessId := {}
  backend : BackendId := {}
  transport : TransportClass := .unknown
  access : AccessMask := 0
  start : UInt64 := 0
  length : UInt64 := 0
  opaqueValue : UInt64 := 0
  revoked : Bool := false
  provenance : Provenance := .unknown

structure LocalKey where
  id : LocalKeyId := {}
  registration : RegistrationId := {}
  registrationGeneration : RegistrationGeneration := {}
  boot : WorkerBootId := {}
  backend : BackendId := {}
  transport : TransportClass := .unknown
  access : AccessMask := 0
  opaqueValue : UInt64 := 0
  provenance : Provenance := .unknown

/-! ## Registrations and leases -/

/-- One registered buffer. -/
structure RegistrationRecord where
  id : RegistrationId := {}
  bufferId : BufferId := {}
  bufferGeneration : BufferGeneration := {}
  registrationGeneration : RegistrationGeneration := {}
  descriptor : BufferDescriptor := {}
  backend : BackendId := {}
  backendGeneration : BackendGeneration := {}
  transport : TransportId := {}
  transportClass : TransportClass := .unknown
  nic : NicId := {}
  domain : MemoryDomain := .unknown
  grantedAccess : AccessMask := 0
  localKey : LocalKey := {}
  remoteKey : RemoteKey := {}
  start : UInt64 := 0
  length : UInt64 := 0
  pageAlignment : UInt64 := 1
  memoryRegionId : MemoryRegionId := {}
  backendHandle : StdString := []
  owner : OwnerId := {}
  process : ProcessId := {}
  worker : WorkerId := {}
  boot : WorkerBootId := {}
  epoch : CoordinatorEpoch := {}
  device : DeviceId := {}
  domainId : ProtectionDomainId := {}
  registrationTimestampNs : UInt64 := 0
  provenance : Provenance := .unknown
  freshness : Freshness := .unknown
  lifecycle : RegistrationLifecycle := .unregistered
  leaseCount : UInt64 := 0
  refCount : UInt64 := 0
  invalidationReason : StdString := []
  policyGeneration : PolicyGeneration := {}

/-- Whether a registration may go from one lifecycle to another. -/
def canTransition : RegistrationLifecycle → RegistrationLifecycle → Bool
  | .unregistered, target => target == .registering
  | .registering, target => target == .registered || target == .active || target == .failed || target == .unregistered
  | .registered, target =>
    target == .active || target == .deregistering || target == .revoking || target == .stale ||
      target == .revalidationRequired
  | .active, target =>
    target == .revoking || target == .deregistering || target == .stale || target == .revalidationRequired
  | .revoking, target => target == .revoked || target == .deregistering || target == .deregistered || target == .failed
  | .revoked, target => target == .deregistering || target == .deregistered
  | .deregistering, target => target == .deregistered || target == .failed
  | .deregistered, _ => false
  | .failed, target => target == .unregistered || target == .deregistered
  | .stale, target => target == .revalidationRequired || target == .deregistering || target == .deregistered
  | .revalidationRequired, target => target == .registering || target == .deregistered

structure Lease where
  id : RegistrationLeaseId := {}
  registration : RegistrationId := {}
  registrationGeneration : RegistrationGeneration := {}
  leaseGeneration : LeaseGeneration := {}
  bufferGeneration : BufferGeneration := {}
  boot : WorkerBootId := {}
  owner : OwnerId := {}
  domain : ProtectionDomainId := {}
  access : AccessMask := 0
  state : LeaseState := .pending
  provenance : Provenance := .unknown
  acquiredAtNs : UInt64 := 0

/-! ## Authority -/

/-- The generation facts that describe "now". -/
structure AuthoritySnapshot where
  coordinatorEpoch : CoordinatorEpoch := {}
  workerBoot : WorkerBootId := {}
  worker : WorkerId := {}
  owner : OwnerId := {}
  ownerGeneration : OwnerGeneration := {}
  workerGeneration : WorkerGeneration := {}
  policyGeneration : PolicyGeneration := {}
  backendGeneration : BackendGeneration := {}
  transportGeneration : TransportGeneration := {}
  nicGeneration : NicGeneration := {}
  node : NodeId := {}
  process : ProcessId := {}
  provenance : Provenance := .unknown

/-- The facts a caller supplies, checked against the snapshot. -/
structure AuthorityEnvelope where
  coordinatorEpoch : CoordinatorEpoch := {}
  workerBoot : WorkerBootId := {}
  owner : OwnerId := {}
  ownerGeneration : OwnerGeneration := {}
  workerGeneration : WorkerGeneration := {}
  node : NodeId := {}
  process : ProcessId := {}

/-- The verdict of an authorization query. -/
structure AccessDecision where
  outcome : AccessOutcome := .rejectUnknownCapability
  code : StdString := []
  explanation : StdString := []

/-! ## Capabilities -/

structure BackendCapabilities where
  supportedDomains : List MemoryDomain := []
  maxRegistrationLength : UInt64 := 0
  requiredAlignment : UInt64 := 1
  remoteRead : CapabilityState := .unknown
  remoteWrite : CapabilityState := .unknown
  remoteAtomic : CapabilityState := .unknown
  hostPinned : CapabilityState := .unknown
  pageableRegistration : CapabilityState := .unknown
  cudaDevice : CapabilityState := .unknown
  cudaManaged : CapabilityState := .unknown
  onDemandPaging : CapabilityState := .unknown
  oneSided : CapabilityState := .unknown
  multiprocess : CapabilityState := .unknown
  multinode : CapabilityState := .unknown
  keyRotation : CapabilityState := .unknown
  revocation : CapabilityState := .unknown
  provenance : Provenance := .unknown

structure BackendInfo where
  id : BackendId := {}
  name : StdString := []
  description : StdString := []
  provenance : Provenance := .unknown
  capabilities : BackendCapabilities := {}
  state : BackendState := .ready
  generation : BackendGeneration := {}
  protDomainCount : UInt64 := 0
  registrationCount : UInt64 := 0

def domainSupported (caps : BackendCapabilities) (domain : MemoryDomain) : Bool :=
  caps.supportedDomains.contains domain

def capabilityAllows (s : CapabilityState) : Bool := s == .supported

/-! ## Requests and results -/

structure RemoteAccessRequest where
  transferId : TransferId := {}
  sourceRegistration : RegistrationId := {}
  offset : UInt64 := 0
  length : UInt64 := 0
  kind : OperationKind := .write
  requiredRights : AccessMask := 0
  expectedBufferGeneration : BufferGeneration := {}
  expectedRegistrationGeneration : RegistrationGeneration := {}
  expectedRemoteKeyGeneration : RemoteKeyGeneration := {}
  attempt : AttemptId := {}
  dispatch : DispatchId := {}
  authority : AuthorityEnvelope := {}
  domain : ProtectionDomainId := {}
  backend : BackendId := {}
  transport : TransportId := {}
  nic : NicId := {}
  process : ProcessId := {}
  node : NodeId := {}
  simSeed : UInt64 := 0

structure RegisterResult where
  ok : Bool := false
  result : RegistrationResult := .rejected
  registration : RegistrationId := {}
  reuse : ReuseDecision := .reuseMiss
  explanation : StdString := []
  missReason : StdString := []

structure LeaseAcquireResult where
  ok : Bool := false
  lease : Lease := {}
  explanation : StdString := []

structure RevokeResult where
  ok : Bool := false
  lifecycle : RegistrationLifecycle := .unregistered
  keysInvalidated : Bool := false
  explanation : StdString := []

structure RecoveryReport where
  recoveredBuffers : UInt64 := 0
  recoveredRegistrations : UInt64 := 0
  recoveredDomains : UInt64 := 0
  autoDeregistered : UInt64 := 0
  persistenceOk : Bool := false
  persistenceError : StdString := []
  semanticDigest : StdString := []

end RdmaBuffer
