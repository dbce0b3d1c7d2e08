/-
Operations that report a failure. They leave everything but the id counters as it was, except a deregistration that the
backend refuses, which leaves the record FAILED, and a creation under the id zero once the counter of buffer ids has
come round to it.
-/
import RdmaBuffer.Backend.View
import RdmaBuffer.Registry.Access
import RdmaBuffer.Runtime.Execution
import RdmaBuffer.Runtime.Sequential

namespace RdmaBuffer

open Rdmabuffer Backend

/-! ## Failures -/

/-- The call is one of the seven operations and reports a failure. -/
def reportsFailure (s : Rdmabuffer Backend) : Option (Op Backend) → Bool
  | some (.atomic (.createBuffer descriptor)) => !(s.createBuffer descriptor).2.isValid
  | some (.atomic (.destroyProtectionDomain d)) => !(s.destroyProtectionDomain d).2
  | some (.registerBuffer descriptor backend domain env) => !(s.registerBuffer descriptor backend domain env).2.ok
  | some (.atomic (.acquireLease registration env needed)) => !(s.acquireLease registration env needed).2.ok
  | some (.atomic (.releaseLease lease)) => !(s.releaseLease lease).2
  | some (.atomic (.revoke registration mode)) => !(s.revoke registration mode).2.ok
  | some (.deregister registration) => !(s.deregister registration).2.1
  | _ => false

/-- Everything but the id counters is as it was. -/
structure Unchanged (s s' : Rdmabuffer Backend) : Prop where
  authority : s'.authority = s.authority
  buffers : s'.buffers = s.buffers
  domains : s'.domains = s.domains
  registrations : s'.registrations = s.registrations
  activeRegistrationForBuffer : s'.activeRegistrationForBuffer = s.activeRegistrationForBuffer
  leases : s'.leases = s.leases
  acct : s'.acct = s.acct
  backends : ∀ id, s'.backends.lookup id = s.backends.lookup id

theorem Unchanged.refl (s : Rdmabuffer Backend) : Unchanged s s := ⟨rfl, rfl, rfl, rfl, rfl, rfl, rfl, fun _ => rfl⟩

theorem Unchanged.of_eq {s s' : Rdmabuffer Backend} (h : s' = s) : Unchanged s s' := by
  rw [h]
  exact .refl s

/-- The backend is called to deregister the record, and has no entry for it. -/
def backendRefuses (s : Rdmabuffer Backend) (rec : RegistrationRecord) : Bool :=
  rec.backend.isValid && (s.backends.lookup rec.backend).any fun b => (b.live rec.backendHandle).isNone

/-- The generation of the descriptor is above that of the buffer under the target, if there is one. -/
def acceptsBuffer (s : Rdmabuffer Backend) (descriptor : BufferDescriptor) : Bool :=
  (s.buffers.lookup (bufferTarget s descriptor)).all fun be =>
    be.descriptor.generation.value < descriptor.generation.value

/-- The failing call leaves a trace: a deregistration that the backend refuses, or a buffer that is created, or
reallocated, under the id zero. -/
def leavesTrace (s : Rdmabuffer Backend) : Option (Op Backend) → Bool
  | some (.deregister r) =>
    (s.registrations.lookup r).any fun rec =>
      rec.leaseCount == 0 && deregisterable rec.lifecycle && backendRefuses s rec
  | some (.atomic (.createBuffer descriptor)) =>
    !descriptor.id.isValid && s.nextBuffer == 0 && acceptsBuffer s descriptor
  | _ => false

/-! ## The operations of one section -/

section

variable {s : Rdmabuffer Backend}

theorem destroyProtectionDomain_failure {d : ProtectionDomainId} (h : (s.destroyProtectionDomain d).2 = false) :
    (s.destroyProtectionDomain d).1 = s := by
  revert h
  unfold destroyProtectionDomain
  rcases s.domains.lookup d with _ | de
  · exact fun _ => rfl
  · intro h
    cases h

theorem acquireLease_failure {r : RegistrationId} {env : AuthorityEnvelope} {needed : AccessMask}
    (h : (s.acquireLease r env needed).2.ok = false) : (s.acquireLease r env needed).1 = s := by
  revert h
  unfold acquireLease
  dsimp only
  split
  · exact fun _ => rfl
  · rcases s.registrations.lookup r with _ | rec
    · exact fun _ => rfl
    · dsimp only
      split
      · exact fun _ => rfl
      · split
        · exact fun _ => rfl
        · split
          · exact fun _ => rfl
          · intro h
            cases h

theorem releaseLease_failure {lease : RegistrationLeaseId} (h : (s.releaseLease lease).2 = false) :
    (s.releaseLease lease).1 = s := by
  revert h
  unfold releaseLease
  rcases s.leases.lookup lease with _ | ls
  · exact fun _ => rfl
  · dsimp only
    split
    · exact fun _ => rfl
    · intro h
      cases h

theorem revoke_failure {r : RegistrationId} {mode : RevocationMode} (h : (s.revoke r mode).2.ok = false) :
    (s.revoke r mode).1 = s := by
  rcases hr : s.registrations.lookup r with _ | rec
  · unfold revoke
    rw [hr]
  · by_cases hl : rec.lifecycle.isLive = true
    · rw [(revoke_live hr hl mode).1] at h
      cases h
    · unfold revoke
      simp [hr, hl]

/-- A registration that the backend refuses changes no backend. -/
theorem registerBuffer_failure {descriptor : BufferDescriptor} {backend : BackendId} {domain : ProtectionDomainId}
    {env : AuthorityEnvelope} (h : (s.registerBuffer descriptor backend domain env).2.ok = false) :
    Unchanged s (s.registerBuffer descriptor backend domain env).1 := by
  rcases registerBuffer_cases s descriptor backend domain env with
    ⟨rr, -, he⟩ | ⟨b, b', bo, bout, hv, hreg, ⟨rr, -, hbo, he⟩ | ⟨hbo, he⟩⟩
  · rw [he]
    exact .refl s
  · rw [he]
    obtain ⟨-, rfl⟩ : bo.ok = false ∧ b' = b :=
      (registerBuffer_spec hreg).resolve_right fun hr => by simp [hbo] at hr
    refine ⟨rfl, rfl, rfl, rfl, rfl, rfl, rfl, fun id => ?_⟩
    refine (Table.lookup_put _ _ _ _).trans ?_
    split
    · rename_i hid
      rw [hid, hv.backend]
    · rfl
  · rw [he] at h
    cases h

/-- A table that has the descriptor under the target is not the one before. -/
theorem changed_of_put {s' : Rdmabuffer Backend} {descriptor : BufferDescriptor} {be : BufferEntry}
    (ha : acceptsBuffer s descriptor = true) (hs : s'.buffers = Table.put (bufferTarget s descriptor) be s.buffers)
    (hd : be.descriptor = descriptor) : ¬Unchanged s s' := by
  intro hu
  have hput : s.buffers.lookup (bufferTarget s descriptor) = some be := by
    rw [← hu.buffers, hs]
    exact Table.lookup_put_self _ _ _
  unfold acceptsBuffer at ha
  rw [hput, Option.all_some, hd, decide_eq_true_iff] at ha
  exact UInt64.lt_irrefl _ ha

theorem acceptsBuffer_of_present {descriptor : BufferDescriptor} {be : BufferEntry}
    (h : s.buffers.lookup (bufferTarget s descriptor) = some be) :
    acceptsBuffer s descriptor = decide (be.descriptor.generation.value < descriptor.generation.value) := by
  unfold acceptsBuffer
  rw [h, Option.all_some]

theorem acceptsBuffer_of_absent {descriptor : BufferDescriptor}
    (h : s.buffers.lookup (bufferTarget s descriptor) = none) : acceptsBuffer s descriptor = true := by
  unfold acceptsBuffer
  rw [h, Option.all_none]

/-- A creation is refused and changes nothing, or answers with the target and writes the descriptor there. -/
theorem createBuffer_cases (s : Rdmabuffer Backend) (descriptor : BufferDescriptor) :
    (acceptsBuffer s descriptor = false ∧ Unchanged s (s.createBuffer descriptor).1) ∨
      (acceptsBuffer s descriptor = true ∧ (s.createBuffer descriptor).2 = bufferTarget s descriptor ∧
        ¬Unchanged s (s.createBuffer descriptor).1) := by
  have hids : ∀ n, Unchanged s { s with nextBuffer := n } := fun n =>
    ⟨rfl, rfl, rfl, rfl, rfl, rfl, rfl, fun _ => rfl⟩
  generalize hr : s.createBuffer descriptor = r
  unfold createBuffer at hr
  simp only [draws_next] at hr
  split at hr
  · rename_i be h
    have haccept := acceptsBuffer_of_present h
    split at hr
    · rename_i heq
      subst hr
      rw [haccept, beq_iff_eq.1 heq]
      exact .inl ⟨decide_eq_false (UInt64.lt_irrefl _), hids _⟩
    · rename_i hne
      split at hr
      · rename_i hlt
        subst hr
        rw [haccept]
        exact .inl ⟨decide_eq_false fun h' => UInt64.lt_asymm h' hlt, hids _⟩
      · rename_i hge
        subst hr
        have hlt : be.descriptor.generation.value < descriptor.generation.value := by
          rw [beq_iff_eq, ← UInt64.toNat_inj] at hne
          rw [UInt64.lt_iff_toNat_lt] at hge ⊢
          omega
        rw [haccept]
        refine .inr ⟨decide_eq_true hlt, rfl, changed_of_put ?_ rfl rfl⟩
        rw [haccept]
        exact decide_eq_true hlt
  · rename_i h
    subst hr
    have haccept := acceptsBuffer_of_absent h
    exact .inr ⟨haccept, rfl, changed_of_put haccept rfl rfl⟩

theorem createBuffer_failure {descriptor : BufferDescriptor} (h : (s.createBuffer descriptor).2.isValid = false) :
    Unchanged s (s.createBuffer descriptor).1 ↔
      leavesTrace s (some (.atomic (.createBuffer descriptor))) = false := by
  rcases createBuffer_cases s descriptor with ⟨ha, hu⟩ | ⟨ha, ht, hu⟩
  · exact iff_of_true hu (by simp [leavesTrace, ha])
  · -- the answer is the target, which is zero only if the counter is
    refine iff_of_false hu ?_
    rw [ht] at h
    unfold bufferTarget at h
    split at h
    · rename_i hv
      rw [hv] at h
      cases h
    · rename_i hv
      have hzero : s.nextBuffer = 0 := by simpa [StrongId.isValid] using h
      simp [leavesTrace, ha, hv, hzero]

theorem backendRefuses_eq (rec : RegistrationRecord) : backendRefuses s rec = !releases s rec := by
  unfold backendRefuses releases
  rcases s.backends.lookup rec.backend with _ | b
  · simp
  · rcases hb : IBackend.deregisterBuffer b ⟨rec.memoryRegionId, rec.backendHandle⟩ with ⟨b', bo⟩
    obtain ⟨-, -, hok⟩ := deregisterBuffer_spec hb
    have hnone : (b.live rec.backendHandle).isNone = !bo.ok := by
      rw [Bool.eq_iff_iff, Option.isNone_iff_eq_none, Bool.not_eq_true', ← Bool.not_eq_true, hok, ne_eq, not_not]
    simp [hnone, hb]

/-- A record that the refused deregistration leaves FAILED is not the one before. -/
theorem changed_of_failed {r : RegistrationId} {rec : RegistrationRecord} (hr : s.registrations.lookup r = some rec)
    (hd : deregisterable rec.lifecycle = true) (backends : Table BackendId Backend) :
    ¬Unchanged s (failed s r rec backends) := by
  intro hu
  have hlookup := failed_lookup s r r rec backends
  rw [if_pos rfl, hu.registrations, hr] at hlookup
  rw [congrArg RegistrationRecord.lifecycle (Option.some.inj hlookup)] at hd
  cases hd

/-- The deregistration of a record that its backend refuses reports a failure, and the record is left FAILED. -/
theorem deregister_refused {r : RegistrationId} (h : leavesTrace s (some (.deregister r)) = true) :
    (s.deregister r).2.1 = false ∧ ¬Unchanged s (s.deregister r).1 := by
  obtain ⟨rec, hr, hrec⟩ := (Option.any_eq_true _ _).1 h
  rw [Bool.and_eq_true, Bool.and_eq_true, beq_iff_eq] at hrec
  obtain ⟨⟨hn, hd⟩, hrefuses⟩ := hrec
  obtain ⟨backends, ok, e, hrel, he⟩ := deregister_accepted hr hn hd
  rw [backendRefuses_eq, hrel.ok_eq, Bool.not_eq_true'] at hrefuses
  rw [he, hrefuses]
  exact ⟨rfl, changed_of_failed hr hd backends⟩

/-- A deregistration that fails was refused at the start, or by the backend after the record was marked. -/
theorem deregister_failure {r : RegistrationId} (h : (s.deregister r).2.1 = false) :
    Unchanged s (s.deregister r).1 ↔ leavesTrace s (some (.deregister r)) = false := by
  rcases deregister_cases s r with ⟨e, he⟩ | ⟨rec, backends, ok, e, hr, hn, hd, hrel, he⟩
  · have hu : Unchanged s (s.deregister r).1 := .of_eq (congrArg Prod.fst he)
    exact iff_of_true hu (Bool.not_eq_true _ ▸ fun ht => (deregister_refused ht).2 hu)
  · have hok : ok = false := by
      rw [he] at h
      exact h
    have ht : leavesTrace s (some (.deregister r)) = true := by
      have hrefuses : backendRefuses s rec = true := by rw [backendRefuses_eq, hrel.ok_eq, hok]; rfl
      simp [leavesTrace, hr, hn, hd, hrefuses]
    exact iff_of_false (deregister_refused ht).2 (by simp [ht])

/-! ## Runs -/

/-- A buffer created under the id zero is reported as a failure. -/
theorem createBuffer_unnamed {descriptor : BufferDescriptor}
    (h : leavesTrace s (some (.atomic (.createBuffer descriptor))) = true) :
    (s.createBuffer descriptor).2.isValid = false := by
  simp only [leavesTrace, Bool.and_eq_true, Bool.not_eq_true', beq_iff_eq] at h
  obtain ⟨⟨hv, hzero⟩, ha⟩ := h
  rcases createBuffer_cases s descriptor with ⟨hf, -⟩ | ⟨-, ht, -⟩
  · rw [ha] at hf
    cases hf
  · rw [ht, bufferTarget, hv, hzero]
    rfl

theorem reportsFailure_of_leavesTrace {l : Option (Op Backend)} (h : leavesTrace s l = true) :
    reportsFailure s l = true := by
  rcases l with _ | op
  · cases h
  · cases op with
    | atomic op =>
      cases op with
      | createBuffer descriptor => simp [reportsFailure, createBuffer_unnamed h]
      | _ => cases h
    | registerBuffer => cases h
    | deregister r => simp [reportsFailure, (deregister_refused h).1]

/-- A call that reports a failure changes nothing but id counters, unless it leaves a trace. -/
theorem failure_step {s' : Rdmabuffer Backend} {l : Option (Op Backend)} (hs : (sequential Backend).step s l s')
    (hf : reportsFailure s l = true) : Unchanged s s' ↔ leavesTrace s l = false := by
  rcases l with _ | op
  · cases hf
  · obtain rfl : s' = op.run s := hs
    cases op with
    | registerBuffer descriptor backend domain env =>
      exact iff_of_true (registerBuffer_failure (Bool.not_eq_true' _ ▸ hf)) rfl
    | deregister r => exact deregister_failure (Bool.not_eq_true' _ ▸ hf)
    | atomic op =>
      cases op with
      | createBuffer descriptor => exact createBuffer_failure (Bool.not_eq_true' _ ▸ hf)
      | destroyProtectionDomain d =>
        exact iff_of_true (.of_eq (destroyProtectionDomain_failure (Bool.not_eq_true' _ ▸ hf))) rfl
      | acquireLease r env needed =>
        exact iff_of_true (.of_eq (acquireLease_failure (Bool.not_eq_true' _ ▸ hf))) rfl
      | releaseLease lease =>
        exact iff_of_true (.of_eq (releaseLease_failure (Bool.not_eq_true' _ ▸ hf))) rfl
      | revoke r mode =>
        exact iff_of_true (.of_eq (revoke_failure (Bool.not_eq_true' _ ▸ hf))) rfl
      | _ => cases hf

end

/-- Every call that reports a failure leaves all but the id counters as it was. -/
def FailuresAtomic (t : List (Lts.Transition (Rdmabuffer Backend) (Option (Op Backend)))) : Prop :=
  ∀ x ∈ t, reportsFailure x.pre x.label = true → Unchanged x.pre x.post

/-- From any state, so also with calls of other clients in flight: the failures of a run are atomic exactly if none of
its calls is a deregistration that the backend refuses or creates a buffer under the id zero. -/
theorem failures_atomic_iff (s s' : Rdmabuffer Backend)
    (t : List (Lts.Transition (Rdmabuffer Backend) (Option (Op Backend)))) (h : (sequential Backend).Path s t s') :
    FailuresAtomic t ↔ ∀ x ∈ t, leavesTrace x.pre x.label = false := by
  constructor
  · intro ha x hx
    by_contra ht
    rw [Bool.not_eq_false] at ht
    have hf := reportsFailure_of_leavesTrace ht
    have hstep := h.step_mem hx
    rw [(failure_step hstep hf).1 (ha x hx hf)] at ht
    cases ht
  · intro hl x hx hf
    have hstep := h.step_mem hx
    exact (failure_step hstep hf).2 (hl x hx)

open Session

/-- A registration that is revoked and deregistered, both a second time in vain. -/
def inVain : List (Op Backend) :=
  [.registerBuffer page Session.synthetic ⟨1⟩ envelope, .atomic (.revoke ⟨1⟩ .hardRevoke),
    .atomic (.revoke ⟨1⟩ .hardRevoke), .deregister ⟨1⟩, .deregister ⟨1⟩]

theorem failures_atomic_iff_inVain : ∃ t s, (sequential Backend).Path {} t s ∧
    t.countP (fun x => reportsFailure x.pre x.label) = 2 ∧ FailuresAtomic t := by
  have hp : (sequential Backend).Path {} (Rdmabuffer.trace {} (setup.map .atomic ++ inVain)) (afterOps inVain) :=
    Rdmabuffer.path_run _ _
  exact ⟨_, _, hp, by decide +kernel, (failures_atomic_iff _ _ _ hp).2 (by decide +kernel)⟩

/-- The backend has restarted between a registration and its deregistration. -/
def forgotten : List (Op Backend) :=
  [.registerBuffer page Session.synthetic ⟨1⟩ envelope,
    .atomic (.control Session.synthetic (.synthetic .simulateBackendRestart))]

/-- The deregistration is refused, and so are a second one and a revocation. -/
theorem deregister_leaves_failed : (∃ t, (sequential Backend).Run t (afterOps forgotten)) ∧
    ((afterOps forgotten).deregister ⟨1⟩).2.1 = false ∧
    ¬Unchanged (afterOps forgotten) ((afterOps forgotten).deregister ⟨1⟩).1 ∧
    (((afterOps forgotten).deregister ⟨1⟩).1.deregister ⟨1⟩).2.1 = false ∧
    ((afterOps forgotten).revoke ⟨1⟩ .hardRevoke).2.ok = true ∧
    (((afterOps forgotten).deregister ⟨1⟩).1.revoke ⟨1⟩ .hardRevoke).2.ok = false := by
  refine ⟨⟨_, {}, rfl, Rdmabuffer.path_run _ _⟩, by decide +kernel, ?_, by decide +kernel, by decide +kernel,
    by decide +kernel⟩
  intro hu
  have hl := congrArg (fun m => (m.lookup ⟨1⟩).map RegistrationRecord.lifecycle) hu.registrations
  revert hl
  decide +kernel

end RdmaBuffer
