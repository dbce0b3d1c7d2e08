/-
What one operation or one section can do to the state, said once: every invariant is proved by
cases on these relations, with the operations' definitions unfolded nowhere else.
-/
import RdmaBuffer.Runtime.System

namespace RdmaBuffer

open Rdmabuffer

variable {β : Type} [IBackend β] [Environment β]

/-! ## Whole operations -/

/-- The snapshot an operation leaves in force when it is not a recovery. -/
def AtomicOp.snapshot (s : Rdmabuffer β) : AtomicOp β → AuthoritySnapshot
  | .setAuthority snap => snap
  | .advanceEpoch => s.advanceEpoch.authority
  | .noteParticipantRestart => s.noteParticipantRestart.authority
  | _ => s.authority

/-- The id `create_buffer` works on. -/
def bufferTarget (s : Rdmabuffer β) (descriptor : BufferDescriptor) : BufferId :=
  if descriptor.id.isValid then descriptor.id else ⟨s.nextBuffer⟩

/-- The registrations a destroyed protection domain withdraws. -/
def inDomain (d : ProtectionDomainId) (rec : RegistrationRecord) : Bool :=
  rec.domainId == d && rec.lifecycle.isLive

/-- The registrations a reallocated buffer withdraws. -/
def onBuffer (id : BufferId) (rec : RegistrationRecord) : Bool :=
  rec.bufferId == id && (rec.lifecycle.isLive || rec.lifecycle == .registering)

/-- The table after a withdrawal loop. -/
def withdrawn (hit : RegistrationRecord → Bool) (lifecycle : RegistrationLifecycle) (reason : StdString)
    (m : Table RegistrationId RegistrationRecord) : Table RegistrationId RegistrationRecord :=
  Table.mapVals (fun _ rec => if hit rec then withdraw lifecycle reason rec else rec) m

/-- The counters after a withdrawal loop. -/
def invalidated (hit : RegistrationRecord → Bool) (m : Table RegistrationId RegistrationRecord) (a : Accounting) :
    Accounting :=
  m.entries.foldl (fun a e => if hit e.2 then accountRegistrationInvalidate a e.2 else a) a

/-- The counter of leases after the loop of a hard revoke. -/
def leasesRevoked (registration : RegistrationId) (m : Table RegistrationLeaseId Lease) (c : Counter) : Counter :=
  m.entries.foldl (fun c e => if revokesLease registration e.2 then c.decrement.2 else c) c

/-- The effects of the operations that are one step; the counters nothing decrements are left open. -/
inductive Effect (s : Rdmabuffer β) : AtomicOp β → Rdmabuffer β → Prop
  | refused (op : AtomicOp β) (acct : Accounting) (h : op.snapshot s = s.authority)
      (ha : acct.holdings = s.acct.holdings) : Effect s op { s with acct := acct }
  | authority (op : AtomicOp β) (acct : Accounting) (ha : acct.holdings = s.acct.holdings) :
      Effect s op { s with authority := op.snapshot s, acct := acct }
  | attached (spec : Environment.Spec β) (b : β) (hb : b = Environment.construct spec)
      (h : s.backends.lookup (IBackend.id b) = none) :
      Effect s (.addBackend (some spec)) { s with backends := Table.put (IBackend.id b) b s.backends }
  | controlled (id : BackendId) (c : Environment.Control β) (b : β) (h : s.backends.lookup id = some b) :
      Effect s (.control id c) { s with backends := Table.put id (Environment.control c b) s.backends }
  | queried (request : RemoteAccessRequest) (rec : RegistrationRecord) (b : β) (acct : Accounting)
      (hr : s.registrations.lookup request.sourceRegistration = some rec)
      (h : s.backends.lookup rec.backend = some b) (ha : acct.holdings = s.acct.holdings) :
      Effect s (.validateRemoteAccess request)
        { s with
          backends := Table.put rec.backend
            (IBackend.queryRemoteAccess b ⟨rec.memoryRegionId, rec.backendHandle⟩ (backDummyRemoteKey rec)
              request.kind request.offset request.length).1 s.backends
          acct := acct }
  | domainCreated (node : NodeId) (process : ProcessId) (acct : Accounting)
      (ha : acct = { s.acct with protectionDomains := s.acct.protectionDomains.increment }) :
      Effect s (.createProtectionDomain node process)
        { s with
          nextDomain := s.nextDomain + 1
          domains := Table.put ⟨s.nextDomain⟩
            { domain := .unknown, state := .active, generation := ⟨1⟩, node := node, process := process } s.domains
          acct := acct }
  | domainDestroyed (d : ProtectionDomainId) (de : DomainEntry) (acct : Accounting)
      (h : s.domains.lookup d = some de)
      (ha : acct =
        { invalidated (inDomain d) s.registrations s.acct with
          protectionDomains := (invalidated (inDomain d) s.registrations s.acct).protectionDomains.decrement.2 }) :
      Effect s (.destroyProtectionDomain d)
        { s with
          registrations := withdrawn (inDomain d) .revoked (lit "protection domain destroyed") s.registrations
          domains := Table.put d { de with state := .destroyed, generation := de.generation.next } s.domains
          acct := acct }
  | bufferRefused (descriptor : BufferDescriptor) (nextBuffer : UInt64) :
      Effect s (.createBuffer descriptor) { s with nextBuffer := nextBuffer }
  | bufferCreated (descriptor : BufferDescriptor) (nextBuffer : UInt64) (acct : Accounting)
      (h : s.buffers.lookup (bufferTarget s descriptor) = none)
      (ha : acct =
        { s.acct with
          logicalBuffers := s.acct.logicalBuffers.increment
          liveBufferBytes := s.acct.liveBufferBytes.increment descriptor.byteLength }) :
      Effect s (.createBuffer descriptor)
        { s with
          nextBuffer := nextBuffer
          buffers := Table.put (bufferTarget s descriptor) { descriptor := descriptor, registered := false } s.buffers
          acct := acct }
  | bufferReallocated (descriptor : BufferDescriptor) (be : BufferEntry) (nextBuffer : UInt64) (acct : Accounting)
      (h : s.buffers.lookup (bufferTarget s descriptor) = some be)
      (hg : be.descriptor.generation.value < descriptor.generation.value)
      (ha : acct =
        { invalidated (onBuffer (bufferTarget s descriptor)) s.registrations s.acct with
          liveBufferBytes :=
            adjustLiveBytes
              (invalidated (onBuffer (bufferTarget s descriptor)) s.registrations s.acct).liveBufferBytes
              be.descriptor.byteLength descriptor.byteLength }) :
      Effect s (.createBuffer descriptor)
        { s with
          nextBuffer := nextBuffer
          registrations := withdrawn (onBuffer (bufferTarget s descriptor)) .stale
            (lit "memory reallocated under new generation") s.registrations
          buffers := Table.put (bufferTarget s descriptor)
            { be with descriptor := descriptor, registered := false } s.buffers
          acct := acct }
  | leased (registration : RegistrationId) (env : AuthorityEnvelope) (needed : AccessMask)
      (rec : RegistrationRecord) (ls : Lease) (acct : Accounting)
      (h : s.registrations.lookup registration = some rec) (hl : rec.lifecycle.isLive)
      (hv : rec.freshness = .valid) (ha : Authorized s.authority env) (hls : ls.state = .active)
      (hc : acct = { s.acct with activeLeases := s.acct.activeLeases.increment }) :
      Effect s (.acquireLease registration env needed)
        { s with
          nextLease := s.nextLease + 1
          leases := Table.put ⟨s.nextLease⟩ ls s.leases
          registrations := Table.put registration { rec with leaseCount := rec.leaseCount + 1 } s.registrations
          acct := acct }
  | released (lease : RegistrationLeaseId) (ls : Lease) (rec : RegistrationRecord) (acct : Accounting)
      (hls : s.leases.lookup lease = some ls) (h : s.registrations.lookup ls.registration = some rec)
      (hst : ls.state ≠ .released) (ha : acct = { s.acct with activeLeases := s.acct.activeLeases.decrement.2 }) :
      Effect s (.releaseLease lease)
        { s with
          leases := Table.put lease { ls with state := .released } s.leases
          registrations := Table.put ls.registration { rec with leaseCount := rec.leaseCount - 1 } s.registrations
          acct := acct }
  | releasedAlone (lease : RegistrationLeaseId) (ls : Lease) (acct : Accounting)
      (hls : s.leases.lookup lease = some ls) (hst : ls.state ≠ .released)
      (ha : acct = { s.acct with activeLeases := s.acct.activeLeases.decrement.2 }) :
      Effect s (.releaseLease lease)
        { s with leases := Table.put lease { ls with state := .released } s.leases, acct := acct }
  | hardRevoked (registration : RegistrationId) (rec : RegistrationRecord)
      (leases : Table RegistrationLeaseId Lease) (acct : Accounting)
      (h : s.registrations.lookup registration = some rec) (hl : rec.lifecycle.isLive)
      (hls : leases = Table.mapVals
        (fun _ ls => if revokesLease registration ls then { ls with state := .revoked } else ls) s.leases)
      (ha : acct =
        { s.acct with
          activeLeases := leasesRevoked registration s.leases s.acct.activeLeases
          revocations := s.acct.revocations.increment }) :
      Effect s (.revoke registration .hardRevoke)
        { s with
          registrations := Table.put registration (hardRevoked rec) s.registrations
          leases := leases
          activeRegistrationForBuffer := s.activeRegistrationForBuffer.erase rec.bufferId
          acct := acct }
  | softRevoked (registration : RegistrationId) (rec : RegistrationRecord) (acct : Accounting)
      (h : s.registrations.lookup registration = some rec) (hl : rec.lifecycle.isLive)
      (ha : acct.holdings = s.acct.holdings) :
      Effect s (.revoke registration .softRevoke)
        { s with registrations := Table.put registration (softRevoked rec) s.registrations, acct := acct }
  | rotated (registration : RegistrationId) (rec : RegistrationRecord) (b : β)
      (h : s.registrations.lookup registration = some rec) (hl : rec.lifecycle.isLive)
      (hb : s.backends.lookup rec.backend = some b) (hh : rec.backendHandle ≠ []) :
      Effect s (.rotateKey registration)
        { s with
          registrations := Table.put registration (rotated rec) s.registrations
          backends := Table.put rec.backend
            (IBackend.rotateKey b ⟨rec.memoryRegionId, rec.backendHandle⟩ (rotated rec).remoteKey.keyGeneration).1
            s.backends }
  | rotatedAlone (registration : RegistrationId) (rec : RegistrationRecord)
      (h : s.registrations.lookup registration = some rec) (hl : rec.lifecycle.isLive)
      (hb : s.backends.lookup rec.backend = none ∨ rec.backendHandle = []) :
      Effect s (.rotateKey registration)
        { s with registrations := Table.put registration (rotated rec) s.registrations }
  | recovered (bytes : Bytes) (state : PersistableState) (h : Persistence.parse bytes = .ok state) :
      Effect s (.recover (some bytes)) (restore s state).1

theorem Effect.refl (s : Rdmabuffer β) (op : AtomicOp β) (h : op.snapshot s = s.authority) : Effect s op s :=
  .refused op s.acct h rfl

theorem addBackend_effect (s : Rdmabuffer β) (spec : Option (Environment.Spec β)) :
    Effect s (.addBackend spec) (s.addBackend (spec.map Environment.construct)).1 := by
  cases spec with
  | none => exact .refl s _ rfl
  | some spec =>
    unfold addBackend
    simp only [Option.map_some]
    split
    · exact .refl s _ rfl
    · rename_i h
      exact .attached spec _ rfl (Option.not_isSome_iff_eq_none.1 h)

theorem control_effect (s : Rdmabuffer β) (id : BackendId) (c : Environment.Control β) :
    Effect s (.control id c) (s.control id c) := by
  unfold Rdmabuffer.control
  split
  · exact .refl s _ rfl
  · rename_i b h
    exact .controlled id c b h

theorem destroyProtectionDomain_effect (s : Rdmabuffer β) (d : ProtectionDomainId) :
    Effect s (.destroyProtectionDomain d) (s.destroyProtectionDomain d).1 := by
  unfold destroyProtectionDomain
  split
  · exact .refl s _ rfl
  · rename_i de h
    exact .domainDestroyed d de _ h rfl

theorem createBuffer_effect (s : Rdmabuffer β) (descriptor : BufferDescriptor) :
    Effect s (.createBuffer descriptor) (s.createBuffer descriptor).1 := by
  unfold createBuffer
  simp only [draws_next]
  split
  · rename_i be h
    split
    · exact .bufferRefused descriptor _
    · rename_i hne
      split
      · exact .bufferRefused descriptor _
      · rename_i hlt
        refine .bufferReallocated descriptor be _ _ h ?_ rfl
        rw [UInt64.lt_iff_toNat_lt] at hlt ⊢
        rw [beq_iff_eq, ← UInt64.toNat_inj] at hne
        omega
  · rename_i h
    exact .bufferCreated descriptor _ _ h rfl

theorem registerBufferReuse_effect (s : Rdmabuffer β) (descriptor : BufferDescriptor) (backend : BackendId)
    (domain : ProtectionDomainId) (env : AuthorityEnvelope) :
    Effect s (.registerBufferReuse descriptor backend domain env)
      (s.registerBufferReuse descriptor backend domain env).1 := by
  unfold registerBufferReuse
  dsimp only
  split
  · exact .refl s _ rfl
  · split
    · exact .refl s _ rfl
    · split
      · exact .refl s _ rfl
      · split
        · exact .refused _ _ rfl rfl
        · exact .refused _ _ rfl rfl

theorem acquireLease_effect (s : Rdmabuffer β) (registration : RegistrationId) (env : AuthorityEnvelope)
    (needed : AccessMask) :
    Effect s (.acquireLease registration env needed) (s.acquireLease registration env needed).1 := by
  unfold acquireLease
  dsimp only
  split
  · exact .refl s _ rfl
  · rename_i ha
    split
    · exact .refl s _ rfl
    · rename_i rec h
      split
      · exact .refl s _ rfl
      · rename_i hl
        split
        · exact .refl s _ rfl
        · split
          · exact .refl s _ rfl
          · rename_i hv
            exact .leased registration env needed rec _ _ h (by simpa using hl) (by simpa using hv)
              (by simpa [Authorized] using ha) rfl rfl

theorem releaseLease_effect (s : Rdmabuffer β) (lease : RegistrationLeaseId) :
    Effect s (.releaseLease lease) (s.releaseLease lease).1 := by
  unfold releaseLease
  split
  · exact .refl s _ rfl
  · rename_i ls hls
    split
    · exact .refl s _ rfl
    · rename_i hst
      dsimp only
      split
      · exact .releasedAlone lease ls _ hls hst rfl
      · rename_i rec h
        split
        · exact .released lease ls rec _ hls h hst rfl
        · exact .releasedAlone lease ls _ hls hst rfl

theorem decision_effect (s s₀ : Rdmabuffer β) (request : RemoteAccessRequest)
    (h : ∀ acct, acct.holdings = s.acct.holdings → Effect s₀ (.validateRemoteAccess request) { s with acct := acct })
    (o : AccessOutcome) (e : StdString) : Effect s₀ (.validateRemoteAccess request) (s.decision o e).1 := by
  unfold decision
  dsimp only
  split
  · exact h s.acct rfl
  · exact h _ rfl

theorem Effect.ite {s : Rdmabuffer β} {op : AtomicOp β} {α : Type} {c : Prop} [Decidable c] {x y : Rdmabuffer β × α}
    (hx : c → Effect s op x.1) (hy : ¬c → Effect s op y.1) : Effect s op (if c then x else y).1 := by
  split
  · exact hx ‹_›
  · exact hy ‹_›

theorem validateRemoteAccess_effect (s : Rdmabuffer β) (request : RemoteAccessRequest) :
    Effect s (.validateRemoteAccess request) (s.validateRemoteAccess request).1 := by
  have hd : ∀ o e, Effect s (.validateRemoteAccess request) (s.decision o e).1 :=
    decision_effect s s request fun acct ha => .refused _ acct rfl ha
  unfold validateRemoteAccess
  rcases hr : s.registrations.lookup request.sourceRegistration with _ | rec
  · exact hd _ _
  · refine .ite (fun _ => hd _ _) fun _ => .ite (fun _ => hd _ _) fun _ => .ite (fun _ => hd _ _) fun _ => ?_
    refine .ite (fun _ => .refl s _ rfl) fun _ => ?_
    refine .ite (fun _ => hd _ _) fun _ => .ite (fun _ => hd _ _) fun _ => .ite (fun _ => hd _ _) fun _ => ?_
    refine .ite (fun _ => hd _ _) fun _ => .ite (fun _ => hd _ _) fun _ => ?_
    rcases hb : s.backends.lookup rec.backend with _ | b
    · exact hd _ _
    · have hq := fun acct (ha : acct.holdings = s.acct.holdings) =>
        decision_effect
          { s with
            backends := Table.put rec.backend
              (IBackend.queryRemoteAccess b ⟨rec.memoryRegionId, rec.backendHandle⟩ (backDummyRemoteKey rec)
                request.kind request.offset request.length).1 s.backends
            acct := acct }
          s request fun acct' ha' => Effect.queried request rec b acct' hr hb (ha'.trans ha)
      have hobserve : (observe s.acct request.kind request.length).holdings = s.acct.holdings := by
        cases request.kind <;> rfl
      refine .ite (fun _ => hd _ _) fun _ => .ite (fun _ => hd _ _) fun _ => .ite (fun _ => hd _ _) fun _ => ?_
      refine .ite (fun _ => hd _ _) fun _ => .ite (fun _ => hd _ _) fun _ => .ite (fun _ => hd _ _) fun _ => ?_
      exact .ite (fun _ => hd _ _) fun _ => .ite (fun _ => hq _ rfl _ _) fun _ => hq _ hobserve _ _

theorem revoke_effect (s : Rdmabuffer β) (registration : RegistrationId) (mode : RevocationMode) :
    Effect s (.revoke registration mode) (s.revoke registration mode).1 := by
  unfold revoke
  split
  · exact .refl s _ rfl
  · rename_i rec h
    split
    · exact .refl s _ rfl
    · rename_i hl
      cases mode with
      | hardRevoke => exact .hardRevoked registration rec _ _ h (by simpa using hl) rfl rfl
      | softRevoke => exact .softRevoked registration rec _ h (by simpa using hl) rfl

theorem rotateKey_effect (s : Rdmabuffer β) (registration : RegistrationId) :
    Effect s (.rotateKey registration) (s.rotateKey registration).1 := by
  unfold rotateKey
  split
  · exact .refl s _ rfl
  · rename_i rec h
    split
    · exact .refl s _ rfl
    · rename_i hl
      dsimp only
      split
      · rename_i hb
        exact .rotatedAlone registration rec h (by simpa using hl) (.inl hb)
      · rename_i b hb
        split
        · rename_i hh
          exact .rotatedAlone registration rec h (by simpa using hl) (.inr hh)
        · rename_i hh
          exact .rotated registration rec b h (by simpa using hl) hb hh

theorem recover_effect (s : Rdmabuffer β) (file : Option Bytes) : Effect s (.recover file) (s.recover file).1 := by
  unfold recover
  split
  · exact .refl s _ rfl
  · split
    · exact .refl s _ rfl
    · rename_i state h
      exact .recovered _ state h

/-- Every operation has one of the effects. -/
theorem AtomicOp.effect (s : Rdmabuffer β) (op : AtomicOp β) : Effect s op (op.run s) := by
  cases op with
  | setAuthority snap => exact .authority (.setAuthority snap) s.acct rfl
  | advanceEpoch => exact .authority .advanceEpoch s.acct rfl
  | noteParticipantRestart => exact .authority .noteParticipantRestart _ rfl
  | addBackend spec => exact addBackend_effect s spec
  | control id c => exact control_effect s id c
  | createProtectionDomain node process => exact .domainCreated node process _ rfl
  | destroyProtectionDomain d => exact destroyProtectionDomain_effect s d
  | createBuffer descriptor => exact createBuffer_effect s descriptor
  | registerBufferReuse descriptor backend domain env =>
    exact registerBufferReuse_effect s descriptor backend domain env
  | acquireLease registration env needed => exact acquireLease_effect s registration env needed
  | releaseLease lease => exact releaseLease_effect s lease
  | validateRemoteAccess request => exact validateRemoteAccess_effect s request
  | revoke registration mode => exact revoke_effect s registration mode
  | rotateKey registration => exact rotateKey_effect s registration
  | recover file => exact recover_effect s file

end RdmaBuffer
