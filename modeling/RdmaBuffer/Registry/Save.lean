/-
What a runtime saves: the tables in their iteration order, the registrations without handle and key material, and
the histories, as one state that is then serialized.
-/
import RdmaBuffer.Registry.TwoPhase

namespace RdmaBuffer

/-- A registration as it is saved: to be revalidated, without handle and key material. -/
def logicalRecord (rec : RegistrationRecord) : RegistrationRecord :=
  { rec with
    backendHandle := []
    memoryRegionId := {}
    localKey := { rec.localKey with opaqueValue := 0 }
    remoteKey := { rec.remoteKey with opaqueValue := 0 }
    lifecycle := .revalidationRequired
    freshness := .revalidationRequired }

namespace Rdmabuffer

variable {β : Type} [IBackend β]

/-- The summary of one attached backend. -/
def backendSummary (id : BackendId) (b : β) : BackendInfo :=
  { id := id
    name := IBackend.name b
    provenance := IBackend.provenance b
    capabilities := IBackend.capabilities b
    state := IBackend.state b
    generation := IBackend.generation b }

def backendSummaries (s : Rdmabuffer β) : List BackendInfo := s.backends.entries.map fun e => backendSummary e.1 e.2

/-- The state `save` collects under the lock, looping over the tables. -/
def persistableState (s : Rdmabuffer β) : PersistableState :=
  { buffers := s.buffers.entries.map fun e => e.2.descriptor
    registrations := s.registrations.entries.map fun e => logicalRecord e.2
    domains := s.domains.entries.map fun e => e.1
    -- the histories take the keys as they are
    remoteKeyHistory := s.registrations.entries.map fun e => e.2.remoteKey
    localKeyHistory := s.registrations.entries.map fun e => e.2.localKey
    revocationHistory := (s.registrations.entries.map fun e => e.2.invalidationReason).filter fun reason => reason ≠ []
    accountingSummary := s.acct
    backendCapabilitySnapshot := s.backendSummaries
    authoritySnapshot := s.authority
    policyGeneration := s.authority.policyGeneration }

/-- The bytes `save` writes. -/
def saveBlob (s : Rdmabuffer β) : Bytes := Persistence.serialize s.persistableState

end Rdmabuffer

end RdmaBuffer
