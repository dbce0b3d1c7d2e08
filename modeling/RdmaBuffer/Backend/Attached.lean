/-
The backends of this repository as one type: a synthetic or a reference backend, constructed by
its constructor and driven by its own controls.
-/
import RdmaBuffer.Backend.Synthetic
import RdmaBuffer.Backend.Reference

namespace RdmaBuffer

/-- A backend the runtime may hold a pointer to. -/
inductive Backend
  | synthetic (b : SyntheticBackend)
  | reference (b : ReferenceBackend)

namespace Backend

open IBackend hiding id

/-- `f` on the result of a method, put back as an attached backend. -/
def onSynthetic {α : Type} (r : SyntheticBackend × α) : Backend × α := (.synthetic r.1, r.2)

def onReference {α : Type} (r : ReferenceBackend × α) : Backend × α := (.reference r.1, r.2)

instance : IBackend Backend where
  id | .synthetic b => IBackend.id b | .reference b => IBackend.id b
  name | .synthetic b => name b | .reference b => name b
  provenance | .synthetic b => provenance b | .reference b => provenance b
  generation | .synthetic b => generation b | .reference b => generation b
  state | .synthetic b => state b | .reference b => state b
  capabilities | .synthetic b => capabilities b | .reference b => capabilities b
  canRegister
    | .synthetic b, d => canRegister b d
    | .reference b, d => canRegister b d
  registerBuffer
    | .synthetic b, d, ctx => onSynthetic (registerBuffer b d ctx)
    | .reference b, d, ctx => onReference (registerBuffer b d ctx)
  deregisterBuffer
    | .synthetic b, h => onSynthetic (deregisterBuffer b h)
    | .reference b, h => onReference (deregisterBuffer b h)
  queryRegistration
    | .synthetic b, h => onSynthetic (queryRegistration b h)
    | .reference b, h => onReference (queryRegistration b h)
  queryRemoteAccess
    | .synthetic b, h, key, kind, offset, length => onSynthetic (queryRemoteAccess b h key kind offset length)
    | .reference b, h, key, kind, offset, length => onReference (queryRemoteAccess b h key kind offset length)
  revalidate
    | .synthetic b, h => onSynthetic (revalidate b h)
    | .reference b, h => onReference (revalidate b h)
  abortRegistration
    | .synthetic b, h => onSynthetic (abortRegistration b h)
    | .reference b, h => onReference (abortRegistration b h)
  rotateKey
    | .synthetic b, h, g => onSynthetic (rotateKey b h g)
    | .reference b, h, g => onReference (rotateKey b h g)
  advanceBackendGeneration
    | .synthetic b => .synthetic (advanceBackendGeneration b)
    | .reference b => .reference (advanceBackendGeneration b)

/-- The constructor calls that make a backend. -/
inductive Spec
  | synthetic (seed : UInt64)
  | reference (id : BackendId)

def construct : Spec → Backend
  | .synthetic seed => .synthetic (SyntheticBackend.new seed)
  | .reference id => .reference (ReferenceBackend.new id)

/-- The calls a scenario makes on a backend behind the registry's back. -/
inductive Control
  | synthetic (c : SyntheticBackend.Control)
  | advanceBackendGeneration

/-- A control of the other class does not apply. -/
def control : Control → Backend → Backend
  | .synthetic c, .synthetic b => .synthetic (c.run b)
  | .synthetic _, .reference b => .reference b
  | .advanceBackendGeneration, b => advanceBackendGeneration b

instance : Environment Backend where
  Spec := Spec
  construct := construct
  Control := Control
  control := control

end Backend

end RdmaBuffer
