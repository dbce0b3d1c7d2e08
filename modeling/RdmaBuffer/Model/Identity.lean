/-
Strong identities and generations: 64-bit values that carry the kind of thing they name, so that
two kinds never mix. Zero is the absent value.
-/
import RdmaBuffer.Model.Text

namespace RdmaBuffer

inductive IdKind
  | buffer | registration | registrationLease | memoryRegion | owner | process | worker | workerBoot | node | device
  | nic | protectionDomain | transport | backend | transfer | attempt | dispatch | remoteKey | localKey

structure StrongId (kind : IdKind) where
  value : UInt64 := 0
  deriving DecidableEq, Repr

namespace StrongId

variable {kind : IdKind}

def isValid (i : StrongId kind) : Bool := i.value != 0

instance : Inhabited (StrongId kind) := ⟨{}⟩

theorem value_inj {a b : StrongId kind} : a.value = b.value ↔ a = b := by
  cases a
  cases b
  simp

end StrongId

abbrev BufferId := StrongId .buffer
abbrev RegistrationId := StrongId .registration
abbrev RegistrationLeaseId := StrongId .registrationLease
abbrev MemoryRegionId := StrongId .memoryRegion
abbrev OwnerId := StrongId .owner
abbrev ProcessId := StrongId .process
abbrev WorkerId := StrongId .worker
abbrev WorkerBootId := StrongId .workerBoot
abbrev NodeId := StrongId .node
abbrev DeviceId := StrongId .device
abbrev NicId := StrongId .nic
abbrev ProtectionDomainId := StrongId .protectionDomain
abbrev TransportId := StrongId .transport
abbrev BackendId := StrongId .backend
abbrev TransferId := StrongId .transfer
abbrev AttemptId := StrongId .attempt
abbrev DispatchId := StrongId .dispatch
abbrev RemoteKeyId := StrongId .remoteKey
abbrev LocalKeyId := StrongId .localKey

inductive GenerationKind
  | coordinatorEpoch | buffer | registration | lease | owner | worker | nic | transport | backend | remoteKey
  | policy | protectionDomain

structure StrongGeneration (kind : GenerationKind) where
  value : UInt64 := 0
  deriving DecidableEq, Repr

namespace StrongGeneration

variable {kind : GenerationKind}

def isValid (g : StrongGeneration kind) : Bool := g.value != 0

def next (g : StrongGeneration kind) : StrongGeneration kind := ⟨g.value + 1⟩

instance : Inhabited (StrongGeneration kind) := ⟨{}⟩

theorem value_inj {a b : StrongGeneration kind} : a.value = b.value ↔ a = b := by
  cases a
  cases b
  simp

end StrongGeneration

abbrev CoordinatorEpoch := StrongGeneration .coordinatorEpoch
abbrev BufferGeneration := StrongGeneration .buffer
abbrev RegistrationGeneration := StrongGeneration .registration
abbrev LeaseGeneration := StrongGeneration .lease
abbrev OwnerGeneration := StrongGeneration .owner
abbrev WorkerGeneration := StrongGeneration .worker
abbrev NicGeneration := StrongGeneration .nic
abbrev TransportGeneration := StrongGeneration .transport
abbrev BackendGeneration := StrongGeneration .backend
abbrev RemoteKeyGeneration := StrongGeneration .remoteKey
abbrev PolicyGeneration := StrongGeneration .policy
abbrev ProtectionDomainGeneration := StrongGeneration .protectionDomain

end RdmaBuffer
