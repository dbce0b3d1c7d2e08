/-
The value and state enumerations of the runtime with their stable names, and access masks.
The constructors stand in the order of the source's ordinals.
-/
import RdmaBuffer.Model.Text

namespace RdmaBuffer

/-! ## Enumerations -/

inductive MemoryDomain
  | hostPageable | hostPinned | cudaDevice | cudaManaged | sharedMemory | fileBacked | syntheticRemoteCapable
  | unknown
  deriving DecidableEq, Repr

inductive AccessRight
  | localRead | localWrite | remoteRead | remoteWrite | remoteAtomic
  deriving DecidableEq, Repr

inductive RegistrationLifecycle
  | unregistered | registering | registered | active | revoking | revoked | deregistering | deregistered
  | failed | stale | revalidationRequired
  deriving DecidableEq, Repr

inductive AccessOutcome
  | allow | rejectStaleEpoch | rejectStaleBoot | rejectStaleBuffer | rejectStaleRegistration | rejectStaleKey
  | rejectRange | rejectPermission | rejectDomain | rejectBackend | rejectTransport | rejectRevoked
  | rejectDeregistered | rejectUnknownCapability | rejectNotRegistered | rejectLease
  deriving DecidableEq, Repr

inductive TransportClass
  | infinibandClass | roceClass | iwarpClass | windowsNdClass | libfabricClass | verbsClass | tcpReference
  | synthetic | unknown
  deriving DecidableEq, Repr

inductive Provenance
  | real | synthetic | unknown
  deriving DecidableEq, Repr

inductive RevocationMode
  | softRevoke | hardRevoke
  deriving DecidableEq, Repr

inductive RegistrationMode
  | pinOnly | remoteAccess | any
  deriving DecidableEq, Repr

inductive LifetimePolicy
  | transactional | persistent | ephemeral
  deriving DecidableEq, Repr

inductive DomainState
  | created | active | destroying | destroyed
  deriving DecidableEq, Repr

inductive LeaseState
  | pending | active | released | revoked
  deriving DecidableEq, Repr

inductive TransferDirection
  | none | send | receive | bidirectional
  deriving DecidableEq, Repr

inductive OperationKind
  | read | write | atomicCompareSwap
  deriving DecidableEq, Repr

inductive CapabilityState
  | supported | notSupported | unknown
  deriving DecidableEq, Repr

inductive RegistrationResult
  | registered | reused | rejected | partialFailure
  deriving DecidableEq, Repr

inductive ReuseDecision
  | reuseHit | reuseMiss
  deriving DecidableEq, Repr

inductive BackendState
  | ready | discovering | failed | destroyed
  deriving DecidableEq, Repr

inductive Freshness
  | valid | revalidationRequired | stale | unknown
  deriving DecidableEq, Repr

inductive PointerKind
  | virtual | device | shared | file | synthetic | unknown
  deriving DecidableEq, Repr

/-! ## Names -/

def memoryDomainName : MemoryDomain → StdString
  | .hostPageable => lit "HOST_PAGEABLE"
  | .hostPinned => lit "HOST_PINNED"
  | .cudaDevice => lit "CUDA_DEVICE"
  | .cudaManaged => lit "CUDA_MANAGED"
  | .sharedMemory => lit "SHARED_MEMORY"
  | .fileBacked => lit "FILE_BACKED"
  | .syntheticRemoteCapable => lit "SYNTHETIC_REMOTE_CAPABLE"
  | .unknown => lit "UNKNOWN"

def lifecycleName : RegistrationLifecycle → StdString
  | .unregistered => lit "UNREGISTERED"
  | .registering => lit "REGISTERING"
  | .registered => lit "REGISTERED"
  | .active => lit "ACTIVE"
  | .revoking => lit "REVOKING"
  | .revoked => lit "REVOKED"
  | .deregistering => lit "DEREGISTERING"
  | .deregistered => lit "DEREGISTERED"
  | .failed => lit "FAILED"
  | .stale => lit "STALE"
  | .revalidationRequired => lit "REVALIDATION_REQUIRED"

def accessOutcomeName : AccessOutcome → StdString
  | .allow => lit "ALLOW"
  | .rejectStaleEpoch => lit "REJECT_STALE_EPOCH"
  | .rejectStaleBoot => lit "REJECT_STALE_BOOT"
  | .rejectStaleBuffer => lit "REJECT_STALE_BUFFER"
  | .rejectStaleRegistration => lit "REJECT_STALE_REGISTRATION"
  | .rejectStaleKey => lit "REJECT_STALE_KEY"
  | .rejectRange => lit "REJECT_RANGE"
  | .rejectPermission => lit "REJECT_PERMISSION"
  | .rejectDomain => lit "REJECT_DOMAIN"
  | .rejectBackend => lit "REJECT_BACKEND"
  | .rejectTransport => lit "REJECT_TRANSPORT"
  | .rejectRevoked => lit "REJECT_REVOKED"
  | .rejectDeregistered => lit "REJECT_DEREGISTERED"
  | .rejectUnknownCapability => lit "REJECT_UNKNOWN_CAPABILITY"
  | .rejectNotRegistered => lit "REJECT_NOT_REGISTERED"
  | .rejectLease => lit "REJECT_LEASE"

def provenanceName : Provenance → StdString
  | .real => lit "REAL"
  | .synthetic => lit "SYNTHETIC"
  | .unknown => lit "UNKNOWN"

def revocationModeName : RevocationMode → StdString
  | .softRevoke => lit "SOFT_REVOKE"
  | .hardRevoke => lit "HARD_REVOKE"

def operationKindName : OperationKind → StdString
  | .read => lit "READ"
  | .write => lit "WRITE"
  | .atomicCompareSwap => lit "ATOMIC_COMPARE_SWAP"

def freshnessName : Freshness → StdString
  | .valid => lit "VALID"
  | .revalidationRequired => lit "REVALIDATION_REQUIRED"
  | .stale => lit "STALE"
  | .unknown => lit "UNKNOWN"

/-! ## Access masks -/

/-- An access mask: one byte of right flags. -/
abbrev AccessMask := UInt8

def accessMask : AccessRight → AccessMask
  | .localRead => 0x01
  | .localWrite => 0x02
  | .remoteRead => 0x04
  | .remoteWrite => 0x08
  | .remoteAtomic => 0x10

def accessHas (mask : AccessMask) (r : AccessRight) : Bool := mask &&& accessMask r != 0

def accessSuperset (granted requested : AccessMask) : Bool := granted &&& requested == requested

theorem accessSuperset_trans {a b c : AccessMask} (h : accessSuperset a b = true) (h' : accessSuperset b c = true) :
    accessSuperset a c = true := by
  unfold accessSuperset at h h' ⊢
  rw [beq_iff_eq] at h h' ⊢
  calc a &&& c = a &&& b &&& c := by rw [UInt8.and_assoc, h']
    _ = c := by rw [h, h']

/-- A right in a mask is in every mask above it. -/
theorem accessHas_of_superset {a b : AccessMask} {r : AccessRight} (h : accessSuperset a b = true)
    (hr : accessHas b r = true) : accessHas a r = true := by
  unfold accessSuperset at h
  unfold accessHas at hr ⊢
  rw [beq_iff_eq] at h
  rw [bne_iff_ne] at hr ⊢
  intro h0
  apply hr
  calc b &&& accessMask r = a &&& b &&& accessMask r := by rw [h]
    _ = b &&& (a &&& accessMask r) := by rw [UInt8.and_comm a b, UInt8.and_assoc]
    _ = 0 := by rw [h0, UInt8.and_zero]

/-- The right an operation needs by its kind alone. -/
def intrinsicRight : OperationKind → AccessRight
  | .write => .remoteWrite
  | .read => .remoteRead
  | .atomicCompareSwap => .remoteAtomic

end RdmaBuffer
