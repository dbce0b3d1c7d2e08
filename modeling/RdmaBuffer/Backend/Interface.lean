/-
The backend contract: what the registry calls on a backend, and what a backend's owner can do to
it from outside.
-/
import RdmaBuffer.Model.Checks

namespace RdmaBuffer

/-- What a backend is told about a registration. -/
structure RegistrationContext where
  domain : ProtectionDomainId := {}
  node : NodeId := {}
  process : ProcessId := {}
  worker : WorkerId := {}
  workerBoot : WorkerBootId := {}
  epoch : CoordinatorEpoch := {}
  owner : OwnerId := {}
  ownerGeneration : OwnerGeneration := {}
  registrationGeneration : RegistrationGeneration := {}
  backendGeneration : BackendGeneration := {}
  requestedAccess : AccessMask := 0
  mode : RegistrationMode := .any

structure BackendKey where
  remoteKeyId : RemoteKeyId := {}
  localKeyId : LocalKeyId := {}
  remoteKeyGeneration : RemoteKeyGeneration := {}
  opaqueValue : UInt64 := 0
  grantedAccess : AccessMask := 0
  provenance : Provenance := .unknown

/-- The material a backend returns for a registration. -/
structure BackendRegistration where
  memoryRegionId : MemoryRegionId := {}
  handle : StdString := []
  registeredBase : UInt64 := 0
  registeredLength : UInt64 := 0
  grantedAccess : AccessMask := 0
  keys : BackendKey := {}
  transport : TransportId := {}
  nic : NicId := {}
  device : DeviceId := {}
  provenance : Provenance := .unknown
  freshness : Freshness := .valid

structure RegisterOutcome where
  ok : Bool := false
  code : StdString := []
  message : StdString := []

structure RegisterHandle where
  memoryRegionId : MemoryRegionId := {}
  handle : StdString := []

/-- `IBackend`. A method that may change the backend returns it; an output argument is returned
beside the result, starting from its default. -/
class IBackend (β : Type) where
  id : β → BackendId
  name : β → StdString
  provenance : β → Provenance
  generation : β → BackendGeneration
  state : β → BackendState
  capabilities : β → BackendCapabilities
  canRegister : β → BufferDescriptor → StdString
  registerBuffer : β → BufferDescriptor → RegistrationContext → β × RegisterOutcome × BackendRegistration
  deregisterBuffer : β → RegisterHandle → β × RegisterOutcome
  queryRegistration : β → RegisterHandle → β × RegisterOutcome × BackendRegistration
  queryRemoteAccess :
    β → RegisterHandle → BackendKey → OperationKind → UInt64 → UInt64 → β × AccessOutcome × StdString
  revalidate : β → RegisterHandle → β × AccessOutcome × StdString
  abortRegistration : β → RegisterHandle → β × Bool × StdString
  rotateKey : β → RegisterHandle → RemoteKeyGeneration → β × Bool × StdString
  advanceBackendGeneration : β → β

/-- What lies outside the registry: how backends are constructed, and the controls their owner
calls on them directly. -/
class Environment (β : Type) where
  Spec : Type
  construct : Spec → β
  Control : Type
  control : Control → β → β

end RdmaBuffer
