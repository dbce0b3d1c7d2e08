/-
The counters nothing decrements: which of them an operation can move, said once.
-/
import RdmaBuffer.Runtime.Sections

namespace RdmaBuffer

open Rdmabuffer

/-- The counters that only go up. -/
structure Accounting.Tallies where
  logicalBuffers : Counter
  remoteReadBytes : Counter
  remoteWriteBytes : Counter
  atomicOperations : Counter
  failedAccessAttempts : Counter
  staleAccessRejections : Counter
  revocations : Counter
  deregistrations : Counter
  registrationReuseHits : Counter
  registrationMisses : Counter
  participantRestarts : Counter

def Accounting.tallies (a : Accounting) : Accounting.Tallies :=
  { logicalBuffers := a.logicalBuffers, remoteReadBytes := a.remoteReadBytes, remoteWriteBytes := a.remoteWriteBytes
    atomicOperations := a.atomicOperations, failedAccessAttempts := a.failedAccessAttempts
    staleAccessRejections := a.staleAccessRejections, revocations := a.revocations
    deregistrations := a.deregistrations, registrationReuseHits := a.registrationReuseHits
    registrationMisses := a.registrationMisses, participantRestarts := a.participantRestarts }

variable {β : Type} [IBackend β] [Environment β]

/-- The counters an operation can move: those of its own kind, and no other. -/
inductive Tallied (a : Accounting.Tallies) : AtomicOp β → Accounting.Tallies → Prop
  | kept (op : AtomicOp β) : Tallied a op a
  | restarted (n : Counter) : Tallied a .noteParticipantRestart { a with participantRestarts := n }
  | buffered (descriptor : BufferDescriptor) (n : Counter) :
      Tallied a (.createBuffer descriptor) { a with logicalBuffers := n }
  | reused (descriptor : BufferDescriptor) (backend : BackendId) (domain : ProtectionDomainId)
      (env : AuthorityEnvelope) (hits misses : Counter) :
      Tallied a (.registerBufferReuse descriptor backend domain env)
        { a with registrationReuseHits := hits, registrationMisses := misses }
  | observed (q : RemoteAccessRequest) (reads writes atomics failed stale : Counter) :
      Tallied a (.validateRemoteAccess q)
        { a with
          remoteReadBytes := reads, remoteWriteBytes := writes, atomicOperations := atomics
          failedAccessAttempts := failed, staleAccessRejections := stale }
  | revoked (registration : RegistrationId) (mode : RevocationMode) (n : Counter) :
      Tallied a (.revoke registration mode) { a with revocations := n }
  | recovered (file : Option Bytes) (n : Counter) : Tallied a (.recover file) { a with logicalBuffers := n }

omit [IBackend β] [Environment β] in
/-- A withdrawal loop moves none of them. -/
theorem invalidated_tallies (hit : RegistrationRecord → Bool) (m : Table RegistrationId RegistrationRecord)
    (a : Accounting) : (invalidated hit m a).tallies = a.tallies := by
  unfold invalidated
  induction m.entries generalizing a with
  | nil => rfl
  | cons e l ih =>
    rw [List.foldl_cons, ih]
    split <;> rfl

omit [IBackend β] in
theorem Tallied.of_eq {a a' : Accounting.Tallies} {op : AtomicOp β} (h : a' = a) : Tallied a op a' :=
  h ▸ .kept op

omit [IBackend β] in
theorem createBuffer_tallied (s : Rdmabuffer β) (descriptor : BufferDescriptor) :
    Tallied s.acct.tallies (.createBuffer descriptor : AtomicOp β) (s.createBuffer descriptor).1.acct.tallies := by
  unfold createBuffer
  simp only [draws_next]
  split
  · split
    · exact .kept _
    · split
      · exact .kept _
      · exact .of_eq (invalidated_tallies (onBuffer (bufferTarget s descriptor)) s.registrations s.acct)
  · exact .buffered descriptor _

omit [IBackend β] in
theorem decision_tallied (s : Rdmabuffer β) (q : RemoteAccessRequest) (o : AccessOutcome) (e : StdString) :
    Tallied s.acct.tallies (.validateRemoteAccess q : AtomicOp β) (s.decision o e).1.acct.tallies := by
  unfold decision
  dsimp only
  split
  · exact .kept _
  · exact .observed q _ _ _ _ _

omit [IBackend β] in
theorem observe_tallied (s : Rdmabuffer β) (backends : Table BackendId β) (q : RemoteAccessRequest) (e : StdString) :
    Tallied s.acct.tallies (.validateRemoteAccess q : AtomicOp β)
      (decision { s with backends := backends, acct := observe s.acct q.kind q.length } .allow e).1.acct.tallies := by
  unfold decision observe
  rw [if_pos rfl]
  dsimp only
  split
  · exact .observed q _ _ _ _ _
  · exact .observed q _ _ _ _ _
  · exact .observed q _ _ _ _ _

omit [IBackend β] in
theorem Tallied.ite {a : Accounting.Tallies} {op : AtomicOp β} {α : Type} {c : Prop} [Decidable c]
    {x y : Rdmabuffer β × α} (hx : Tallied a op x.1.acct.tallies) (hy : Tallied a op y.1.acct.tallies) :
    Tallied a op (if c then x else y).1.acct.tallies := by
  split
  · exact hx
  · exact hy

theorem validateRemoteAccess_tallied (s : Rdmabuffer β) (q : RemoteAccessRequest) :
    Tallied s.acct.tallies (.validateRemoteAccess q : AtomicOp β) (s.validateRemoteAccess q).1.acct.tallies := by
  have hd : ∀ o e, Tallied s.acct.tallies (.validateRemoteAccess q : AtomicOp β) (s.decision o e).1.acct.tallies :=
    decision_tallied s q
  unfold validateRemoteAccess
  rcases s.registrations.lookup q.sourceRegistration with _ | rec
  · exact hd _ _
  · refine .ite (hd _ _) <| .ite (hd _ _) <| .ite (hd _ _) <| .ite (.kept _) ?_
    refine .ite (hd _ _) <| .ite (hd _ _) <| .ite (hd _ _) <| .ite (hd _ _) <| .ite (hd _ _) ?_
    rcases s.backends.lookup rec.backend with _ | b
    · exact hd _ _
    · refine .ite (hd _ _) <| .ite (hd _ _) <| .ite (hd _ _) <| .ite (hd _ _) ?_
      refine .ite (hd _ _) <| .ite (hd _ _) <| .ite (hd _ _) ?_
      rcases IBackend.queryRemoteAccess b ⟨rec.memoryRegionId, rec.backendHandle⟩ (backDummyRemoteKey rec) q.kind
        q.offset q.length with ⟨b', bo, ex⟩
      have hq := decision_tallied { s with backends := Table.put rec.backend b' s.backends } q bo ex
      exact .ite hq (observe_tallied s _ q _)

/-- Every operation moves only the counters of its kind. -/
theorem AtomicOp.tallied (s : Rdmabuffer β) (op : AtomicOp β) :
    Tallied s.acct.tallies op (op.run s).acct.tallies := by
  cases op with
  | setAuthority | advanceEpoch | createProtectionDomain => exact .kept _
  | noteParticipantRestart => exact .restarted _
  | addBackend spec =>
    cases spec with
    | none => exact .kept _
    | some spec =>
      simp only [AtomicOp.run, Option.map_some, Rdmabuffer.addBackend]
      split
      · exact .kept _
      · exact .kept _
  | control id c =>
    simp only [AtomicOp.run, Rdmabuffer.control]
    split
    · exact .kept _
    · exact .kept _
  | destroyProtectionDomain d =>
    simp only [AtomicOp.run, Rdmabuffer.destroyProtectionDomain]
    split
    · exact .kept _
    · exact .of_eq (invalidated_tallies (inDomain d) s.registrations s.acct)
  | createBuffer descriptor => exact createBuffer_tallied s descriptor
  | registerBufferReuse descriptor backend domain env =>
    simp only [AtomicOp.run, Rdmabuffer.registerBufferReuse]
    repeat' split
    all_goals exact .reused descriptor backend domain env _ _
  | acquireLease registration env needed =>
    simp only [AtomicOp.run, Rdmabuffer.acquireLease]
    repeat' split
    all_goals exact .kept _
  | releaseLease lease =>
    simp only [AtomicOp.run, Rdmabuffer.releaseLease]
    repeat' split
    all_goals exact .kept _
  | validateRemoteAccess q => exact validateRemoteAccess_tallied s q
  | revoke registration mode =>
    show Tallied _ _ (s.revoke registration mode).1.acct.tallies
    unfold Rdmabuffer.revoke
    split
    · exact .kept _
    · split
      · exact .kept _
      · cases mode with
        | hardRevoke => exact .revoked registration .hardRevoke _
        | softRevoke => exact .revoked registration .softRevoke _
  | rotateKey registration =>
    simp only [AtomicOp.run, Rdmabuffer.rotateKey]
    repeat' split
    all_goals exact .kept _
  | recover file =>
    simp only [AtomicOp.run, Rdmabuffer.recover]
    split
    · exact .kept _
    · split
      · exact .kept _
      · rename_i state _
        obtain ⟨buffers, bytes, domains, h⟩ := restore_acct s state
        show Tallied _ _ (restore s state).1.acct.tallies
        rw [h]
        exact .recovered _ buffers

/-- The sections of a registration move none of them, those of a deregistration only the count of deregistrations. -/
theorem section_tallies {σ σ' : System β} {a : Action β} (h : SectionStep σ a σ') (ha : ∀ op, a ≠ .atomic op) :
    ∃ n, σ'.runtime.acct.tallies = { σ.runtime.acct.tallies with deregistrations := n } := by
  cases h with
  | atomic op => exact absurd rfl (ha op)
  | deregisterFinished c d refusal =>
    show ∃ n, (σ.runtime.deregisterFinish d refusal).1.acct.tallies = _
    unfold deregisterFinish
    split
    · exact ⟨_, rfl⟩
    · exact ⟨_, rfl⟩
    · exact ⟨_, rfl⟩
    · exact ⟨_, rfl⟩
  | _ => exact ⟨_, rfl⟩

end RdmaBuffer
