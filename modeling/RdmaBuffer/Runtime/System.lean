/-
The runtime as two transition systems: sequential clients, whose public calls run to completion
one after the other, and interleaved clients, whose registrations and deregistrations are in
flight between their sections. In both the hash tables may reorder at any time.
-/
import Mathlib.Logic.Function.Basic
import RdmaBuffer.Lib.Lts
import RdmaBuffer.Registry.TwoPhase

namespace RdmaBuffer

open Rdmabuffer

/-! ## Operations that are one step -/

/-- The public operations that are one locked section, and the environment's calls on a backend. -/
inductive AtomicOp (β : Type) [Environment β]
  | setAuthority (snap : AuthoritySnapshot)
  | advanceEpoch
  | noteParticipantRestart
  | addBackend (spec : Option (Environment.Spec β))
  | control (id : BackendId) (c : Environment.Control β)
  | createProtectionDomain (node : NodeId) (process : ProcessId)
  | destroyProtectionDomain (d : ProtectionDomainId)
  | createBuffer (descriptor : BufferDescriptor)
  | registerBufferReuse (descriptor : BufferDescriptor) (backend : BackendId) (domain : ProtectionDomainId)
      (env : AuthorityEnvelope)
  | acquireLease (registration : RegistrationId) (env : AuthorityEnvelope) (needed : AccessMask)
  | releaseLease (lease : RegistrationLeaseId)
  | validateRemoteAccess (request : RemoteAccessRequest)
  | revoke (registration : RegistrationId) (mode : RevocationMode)
  | rotateKey (registration : RegistrationId)
  | recover (file : Option Bytes)

variable {β : Type} [IBackend β] [Environment β]

/-- The environment's call on an attached backend. -/
def Rdmabuffer.control (s : Rdmabuffer β) (id : BackendId) (c : Environment.Control β) : Rdmabuffer β :=
  match s.backends.lookup id with
  | none => s
  | some b => { s with backends := Table.put id (Environment.control c b) s.backends }

def AtomicOp.run (s : Rdmabuffer β) : AtomicOp β → Rdmabuffer β
  | .setAuthority snap => s.setAuthority snap
  | .advanceEpoch => s.advanceEpoch
  | .noteParticipantRestart => s.noteParticipantRestart
  | .addBackend spec => (s.addBackend (spec.map Environment.construct)).1
  | .control id c => s.control id c
  | .createProtectionDomain node process => (s.createProtectionDomain node process).1
  | .destroyProtectionDomain d => (s.destroyProtectionDomain d).1
  | .createBuffer descriptor => (s.createBuffer descriptor).1
  | .registerBufferReuse descriptor backend domain env => (s.registerBufferReuse descriptor backend domain env).1
  | .acquireLease registration env needed => (s.acquireLease registration env needed).1
  | .releaseLease lease => (s.releaseLease lease).1
  | .validateRemoteAccess request => (s.validateRemoteAccess request).1
  | .revoke registration mode => (s.revoke registration mode).1
  | .rotateKey registration => (s.rotateKey registration).1
  | .recover file => (s.recover file).1

/-- The iteration order of the hash tables changed, and nothing else. -/
structure Rehash (s s' : Rdmabuffer β) : Prop where
  backends : s.backends.entries.Perm s'.backends.entries
  domains : s.domains.entries.Perm s'.domains.entries
  buffers : s.buffers.entries.Perm s'.buffers.entries
  registrations : s.registrations.entries.Perm s'.registrations.entries
  activeRegistrationForBuffer :
    s.activeRegistrationForBuffer.entries.Perm s'.activeRegistrationForBuffer.entries
  leases : s.leases.entries.Perm s'.leases.entries
  others : s' =
    { s with
      backends := s'.backends, domains := s'.domains, buffers := s'.buffers, registrations := s'.registrations
      activeRegistrationForBuffer := s'.activeRegistrationForBuffer, leases := s'.leases }

omit [IBackend β] [Environment β] in
theorem Rehash.refl (s : Rdmabuffer β) : Rehash s s :=
  ⟨.refl _, .refl _, .refl _, .refl _, .refl _, .refl _, rfl⟩

/-! ## Sequential clients -/

/-- The public operations, each run to completion. -/
inductive Op (β : Type) [Environment β]
  | atomic (op : AtomicOp β)
  | registerBuffer (descriptor : BufferDescriptor) (backend : BackendId) (domain : ProtectionDomainId)
      (env : AuthorityEnvelope)
  | deregister (registration : RegistrationId)

def Op.run (s : Rdmabuffer β) : Op β → Rdmabuffer β
  | .atomic op => op.run s
  | .registerBuffer descriptor backend domain env => (s.registerBuffer descriptor backend domain env).1
  | .deregister registration => (s.deregister registration).1

/-- A fresh runtime and its sequential operations; the label `none` is a reordering of the tables. -/
def sequential (β : Type) [IBackend β] [Environment β] : Lts (Rdmabuffer β) (Option (Op β)) where
  init s := s = {}
  step s l s' :=
    match l with
    | none => Rehash s s'
    | some op => s' = op.run s

/-! ## Interleaved clients -/

/-- A call between two of its sections. -/
inductive InFlight
  | registering (p : PendingRegistration)
  | registered (p : PendingRegistration) (bout : BackendRegistration)
  | deregistering (d : PendingDeregistration)
  | deregistered (d : PendingDeregistration) (refusal : Option RegisterOutcome)

/-- The runtime and what each client has in flight. -/
structure System (β : Type) where
  runtime : Rdmabuffer β := {}
  clients : Nat → Option InFlight := fun _ => none

/-- The steps of interleaved clients: a whole operation, or one section of client `c`'s call. -/
inductive Action (β : Type) [Environment β]
  | atomic (op : AtomicOp β)
  | registerBegin (c : Nat) (descriptor : BufferDescriptor) (backend : BackendId) (domain : ProtectionDomainId)
      (env : AuthorityEnvelope)
  | registerCall (c : Nat)
  | registerCommit (c : Nat)
  | deregisterBegin (c : Nat) (registration : RegistrationId)
  | deregisterCall (c : Nat)
  | deregisterFinish (c : Nat)

namespace System

/-- The state after client `c` moved on to `f`. -/
def move (σ : System β) (s : Rdmabuffer β) (c : Nat) (f : Option InFlight) : System β :=
  { runtime := s, clients := Function.update σ.clients c f }

omit [IBackend β] [Environment β] in
/-- Only the client that moves has something else in flight. -/
theorem clients_move {σ : System β} {s : Rdmabuffer β} {c c' : Nat} {f g : Option InFlight}
    (h : (σ.move s c f).clients c' = g) : (c' ≠ c ∧ σ.clients c' = g) ∨ (c' = c ∧ f = g) := by
  have h : Function.update σ.clients c f c' = g := h
  rw [Function.update_apply] at h
  split at h
  · exact .inr ⟨‹_›, h⟩
  · exact .inl ⟨‹_›, h⟩

/-- One step; an action that does not fit what the client has in flight does nothing. -/
def exec (σ : System β) : Action β → System β
  | .atomic op => { σ with runtime := op.run σ.runtime }
  | .registerBegin c descriptor backend domain env =>
    match σ.clients c with
    | none =>
      match σ.runtime.registerBegin descriptor backend domain env with
      | (s, .error _) => { σ with runtime := s }
      | (s, .ok p) => σ.move s c (some (.registering p))
    | some _ => σ
  | .registerCall c =>
    match σ.clients c with
    | some (.registering p) =>
      match σ.runtime.registerCall p with
      | (s, .error _) => σ.move s c none
      | (s, .ok bout) => σ.move s c (some (.registered p bout))
    | _ => σ
  | .registerCommit c =>
    match σ.clients c with
    | some (.registered p bout) => σ.move (σ.runtime.registerCommit p bout).1 c none
    | _ => σ
  | .deregisterBegin c registration =>
    match σ.clients c with
    | none =>
      match σ.runtime.deregisterBegin registration with
      | (s, .error _) => { σ with runtime := s }
      | (s, .ok d) => σ.move s c (some (.deregistering d))
    | some _ => σ
  | .deregisterCall c =>
    match σ.clients c with
    | some (.deregistering d) =>
      σ.move (σ.runtime.deregisterCall d).1 c (some (.deregistered d (σ.runtime.deregisterCall d).2))
    | _ => σ
  | .deregisterFinish c =>
    match σ.clients c with
    | some (.deregistered d refusal) => σ.move (σ.runtime.deregisterFinish d refusal).1 c none
    | _ => σ

end System

/-- A fresh runtime without calls in flight, and its interleaved steps; the label `none` is a
reordering of the tables. -/
def interleaved (β : Type) [IBackend β] [Environment β] : Lts (System β) (Option (Action β)) where
  init σ := σ = {}
  step σ l σ' :=
    match l with
    | none => Rehash σ.runtime σ'.runtime ∧ σ'.clients = σ.clients
    | some a => σ' = σ.exec a

end RdmaBuffer
