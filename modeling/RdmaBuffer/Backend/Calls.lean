/-
The backend contract as calls and answers, and two backends under calls of one client in parallel: the client names a
registration on each side by the handle that side returned for it.
-/
import RdmaBuffer.Backend.Attached
import RdmaBuffer.Lib.Lts
import RdmaBuffer.Lib.Renaming

namespace RdmaBuffer

open Renaming

/-! ## Calls -/

inductive BackendCall
  | registerBuffer (buffer : BufferDescriptor) (ctx : RegistrationContext)
  | deregisterBuffer (handle : RegisterHandle)
  | queryRegistration (handle : RegisterHandle)
  | queryRemoteAccess (handle : RegisterHandle) (key : BackendKey) (kind : OperationKind) (offset length : UInt64)
  | revalidate (handle : RegisterHandle)
  | abortRegistration (handle : RegisterHandle)
  | rotateKey (handle : RegisterHandle) (newGen : RemoteKeyGeneration)

/-- What a call returns, without the texts of its explanation. -/
inductive BackendAnswer
  | registration (outcome : RegisterOutcome) (reg : BackendRegistration)
  | outcome (outcome : RegisterOutcome)
  | access (outcome : AccessOutcome)
  | flag (ok : Bool)

def BackendCall.run {β : Type} [IBackend β] (b : β) : BackendCall → β × BackendAnswer
  | .registerBuffer buffer ctx =>
    let (b, bo, bout) := IBackend.registerBuffer b buffer ctx
    (b, .registration bo bout)
  | .deregisterBuffer handle =>
    let (b, bo) := IBackend.deregisterBuffer b handle
    (b, .outcome bo)
  | .queryRegistration handle =>
    let (b, bo, bout) := IBackend.queryRegistration b handle
    (b, .registration bo bout)
  | .queryRemoteAccess handle key kind offset length =>
    let (b, bo, _) := IBackend.queryRemoteAccess b handle key kind offset length
    (b, .access bo)
  | .revalidate handle =>
    let (b, bo, _) := IBackend.revalidate b handle
    (b, .access bo)
  | .abortRegistration handle =>
    let (b, ok, _) := IBackend.abortRegistration b handle
    (b, .flag ok)
  | .rotateKey handle newGen =>
    let (b, ok, _) := IBackend.rotateKey b handle newGen
    (b, .flag ok)

/-- The registrations show the same memory, rights and key generation. -/
structure BackendRegistration.SameGrant (r r' : BackendRegistration) : Prop where
  base : r.registeredBase = r'.registeredBase
  length : r.registeredLength = r'.registeredLength
  granted : r.grantedAccess = r'.grantedAccess
  keyGeneration : r.keys.remoteKeyGeneration = r'.keys.remoteKeyGeneration

/-- Two answers that a client cannot tell apart but by the handles and the key material. -/
inductive BackendAnswer.Agree : BackendAnswer → BackendAnswer → Prop
  | registration {o o' : RegisterOutcome} {r r' : BackendRegistration} :
      o.ok = o'.ok → o.code = o'.code → (o.ok = true → r.SameGrant r') → Agree (.registration o r) (.registration o' r')
  | outcome {o o' : RegisterOutcome} : o.ok = o'.ok → o.code = o'.code → Agree (.outcome o) (.outcome o')
  | access (o : AccessOutcome) : Agree (.access o) (.access o)
  | flag (ok : Bool) : Agree (.flag ok) (.flag ok)

/-! ## Two backends in parallel -/

/-- The two backends, and the handles they returned, paired in order of issue. -/
structure ParallelBackends where
  synthetic : SyntheticBackend
  reference : ReferenceBackend
  issued : List (StdString × StdString) := []

/-- The handle of a registration that has just succeeded. -/
def BackendCall.newHandle : BackendCall → BackendAnswer → Option StdString
  | .registerBuffer _ _, .registration outcome reg => if outcome.ok then some reg.handle else none
  | _, _ => none

namespace ParallelBackends

/-- The handles name the same registration, or neither names any yet. -/
def SameHandle (p : ParallelBackends) (handle handle' : RegisterHandle) : Prop :=
  Matched (fun h h' => (h, h') ∈ p.issued) handle.handle handle'.handle

def exec (p : ParallelBackends) (c : BackendCall × BackendCall) : ParallelBackends :=
  let (b, a) := c.1.run p.synthetic
  let (b', a') := c.2.run p.reference
  { synthetic := b
    reference := b'
    issued := p.issued ++
      (match c.1.newHandle a, c.2.newHandle a' with
      | some h, some h' => [(h, h')]
      | _, _ => []) }

end ParallelBackends

/-- A synthetic backend as constructed and a reference backend, under pairs of calls. -/
def parallelBackends : Lts ParallelBackends (BackendCall × BackendCall) where
  init p := ∃ seed id, p = { synthetic := .new seed, reference := .new id }
  step p c p' := p' = p.exec c

/-- The same call on both sides: the handles are renamed, a registration is of memory both backends take, and the key
presented on one side has the generation of the key presented on the other. -/
inductive SameCall (p : ParallelBackends) : BackendCall × BackendCall → Prop
  | registerBuffer {buffer : BufferDescriptor} {ctx ctx' : RegistrationContext} :
      buffer.domain ≠ .syntheticRemoteCapable → buffer.alignment = 0 ∨ buffer.alignment = 4096 →
      SameCall p (.registerBuffer buffer ctx, .registerBuffer buffer ctx')
  | deregisterBuffer {handle handle' : RegisterHandle} :
      p.SameHandle handle handle' → SameCall p (.deregisterBuffer handle, .deregisterBuffer handle')
  | queryRegistration {handle handle' : RegisterHandle} :
      p.SameHandle handle handle' → SameCall p (.queryRegistration handle, .queryRegistration handle')
  | queryRemoteAccess {handle handle' : RegisterHandle} {key key' : BackendKey} (kind : OperationKind)
      (offset length : UInt64) :
      p.SameHandle handle handle' → key.remoteKeyGeneration = key'.remoteKeyGeneration →
      SameCall p
        (.queryRemoteAccess handle key kind offset length, .queryRemoteAccess handle' key' kind offset length)
  | revalidate {handle handle' : RegisterHandle} :
      p.SameHandle handle handle' → SameCall p (.revalidate handle, .revalidate handle')
  | abortRegistration {handle handle' : RegisterHandle} :
      p.SameHandle handle handle' → SameCall p (.abortRegistration handle, .abortRegistration handle')
  | rotateKey {handle handle' : RegisterHandle} (newGen : RemoteKeyGeneration) :
      p.SameHandle handle handle' → SameCall p (.rotateKey handle newGen, .rotateKey handle' newGen)

/-! ## One synthetic backend -/

/-- What may be done with a synthetic backend: a call, or a scenario control. -/
inductive SyntheticAction
  | call (c : BackendCall)
  | control (c : SyntheticBackend.Control)

def SyntheticAction.exec (b : SyntheticBackend) : SyntheticAction → SyntheticBackend
  | .call c => (c.run b).1
  | .control c => c.run b

/-- A synthetic backend as constructed, under calls and controls in any order. -/
def syntheticBackend : Lts SyntheticBackend SyntheticAction where
  init b := ∃ seed, b = .new seed
  step b a b' := b' = a.exec b

end RdmaBuffer
