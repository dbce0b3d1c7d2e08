/-
What one sequential operation can do to the state: a whole operation as its effect, a registration
and a deregistration as the composition of their sections.
-/
import RdmaBuffer.Runtime.Sections

namespace RdmaBuffer

open Rdmabuffer

variable {β : Type} [IBackend β]

/-- The state of a registration after its backend call, before the commit. -/
def called (s : Rdmabuffer β) (backend : BackendId) (b' : β) : Rdmabuffer β :=
  { s with nextRegistration := s.nextRegistration + 1, backends := Table.put backend b' s.backends }

/-- What the backend call of a deregistration makes of the backends, and whether it went well. -/
inductive Release (s : Rdmabuffer β) (rec : RegistrationRecord) : Table BackendId β → Bool → Prop
  | skipped (h : rec.backend.isValid = false ∨ s.backends.lookup rec.backend = none) : Release s rec s.backends true
  | called (b b' : β) (bo : RegisterOutcome) (hv : rec.backend.isValid = true)
      (hb : s.backends.lookup rec.backend = some b)
      (he : IBackend.deregisterBuffer b ⟨rec.memoryRegionId, rec.backendHandle⟩ = (b', bo)) :
      Release s rec (Table.put rec.backend b' s.backends) bo.ok

/-- The state after a deregistration that went well. -/
def removed (s : Rdmabuffer β) (r : RegistrationId) (rec : RegistrationRecord) (backends : Table BackendId β) :
    Rdmabuffer β :=
  { s with
    backends := backends
    acct :=
      { accountRegistrationInvalidate s.acct rec with deregistrations := s.acct.deregistrations.increment }
    registrations := (Table.put r { rec with lifecycle := .deregistering } s.registrations).erase r
    activeRegistrationForBuffer := Table.eraseIf (fun _ r' => r' == r) s.activeRegistrationForBuffer
    leases := Table.eraseIf (fun _ ls => ls.registration == r) s.leases }

/-- The state after a deregistration the backend refused. -/
def failed (s : Rdmabuffer β) (r : RegistrationId) (rec : RegistrationRecord) (backends : Table BackendId β) :
    Rdmabuffer β :=
  { s with
    backends := backends
    registrations := Table.put r { rec with lifecycle := .failed }
      (Table.put r { rec with lifecycle := .deregistering } s.registrations) }

omit [IBackend β] in
theorem removed_lookup (s : Rdmabuffer β) (r j : RegistrationId) (rec : RegistrationRecord)
    (backends : Table BackendId β) :
    (removed s r rec backends).registrations.lookup j = if j = r then none else s.registrations.lookup j := by
  simp only [removed, Table.lookup_erase_eq, Table.lookup_put]
  split <;> simp_all

omit [IBackend β] in
theorem failed_lookup (s : Rdmabuffer β) (r j : RegistrationId) (rec : RegistrationRecord)
    (backends : Table BackendId β) :
    (failed s r rec backends).registrations.lookup j =
      if j = r then some { rec with lifecycle := .failed } else s.registrations.lookup j := by
  simp only [failed, Table.lookup_put]
  split <;> simp_all

/-! ## Registration and deregistration -/

/-- Whether the backend lets go of the registration: it is not asked, or it agrees. -/
def releases (s : Rdmabuffer β) (rec : RegistrationRecord) : Bool :=
  !rec.backend.isValid ||
    (s.backends.lookup rec.backend).all fun b =>
      (IBackend.deregisterBuffer b ⟨rec.memoryRegionId, rec.backendHandle⟩).2.ok

theorem Release.ok_eq {s : Rdmabuffer β} {rec : RegistrationRecord} {backends : Table BackendId β} {ok : Bool}
    (h : Release s rec backends ok) : releases s rec = ok := by
  cases h with
  | skipped h =>
    rcases h with h | h
    · simp [releases, h]
    · simp [releases, h]
  | called b b' bo hv hb he => simp [releases, hv, hb, he]

/-- A registration is refused, fails in the backend, or commits. -/
theorem registerBuffer_cases (s : Rdmabuffer β) (descriptor : BufferDescriptor) (backend : BackendId)
    (domain : ProtectionDomainId) (env : AuthorityEnvelope) :
    (∃ rr : RegisterResult, rr.ok = false ∧ s.registerBuffer descriptor backend domain env = (s, rr)) ∨
    ∃ b b' bo bout, Validated s descriptor backend domain env b ∧
      IBackend.registerBuffer b descriptor (registrationContext s b descriptor domain env) = (b', bo, bout) ∧
      ((∃ rr : RegisterResult, rr.ok = false ∧ bo.ok = false ∧
          s.registerBuffer descriptor backend domain env = (called s backend b', rr)) ∨
        (bo.ok = true ∧ s.registerBuffer descriptor backend domain env =
          (called s backend b').registerCommit (pending s b descriptor backend domain env) bout)) := by
  unfold registerBuffer
  rcases registerBegin_cases s descriptor backend domain env with ⟨rr, hf, he⟩ | ⟨b, hv, he⟩
  · rw [he]; exact .inl ⟨rr, hf, rfl⟩
  · rw [he]
    dsimp only
    rcases registerCall_cases { s with nextRegistration := s.nextRegistration + 1 }
      (pending s b descriptor backend domain env) with ⟨rr, -, hb, hc⟩ | ⟨b₀, b', bo, bout, hb, hr, hc⟩
    · cases hb.symm.trans hv.backend
    · obtain rfl : b₀ = b := Option.some.inj (hb.symm.trans hv.backend)
      refine .inr ⟨b₀, b', bo, bout, hv, hr, ?_⟩
      rcases hc with ⟨rr, hf, ho, hc⟩ | ⟨ho, hc⟩
      · rw [hc]; exact .inl ⟨rr, hf, ho, rfl⟩
      · rw [hc]; exact .inr ⟨ho, rfl⟩

/-- A registration that passes the checks, and that the backend takes, commits. -/
theorem registerBuffer_accepted {s : Rdmabuffer β} {descriptor : BufferDescriptor} {backend : BackendId}
    {domain : ProtectionDomainId} {env : AuthorityEnvelope} {b b' : β} {bo : RegisterOutcome}
    {bout : BackendRegistration} (hv : Validated s descriptor backend domain env b)
    (hr : IBackend.registerBuffer b descriptor (registrationContext s b descriptor domain env) = (b', bo, bout))
    (ho : bo.ok = true) :
    s.registerBuffer descriptor backend domain env =
      (called s backend b').registerCommit (pending s b descriptor backend domain env) bout := by
  have hput : ∀ n, { s with nextRegistration := n }.backends.lookup backend = some b := fun _ => hv.backend
  unfold registerBuffer
  rw [hv.registerBegin]
  simp only [registerCall, pending, hput, hr, ho, Bool.not_true, Bool.false_eq_true, if_false]
  rfl

omit [IBackend β] in
/-- The first section takes a record without leases in a deregisterable lifecycle. -/
theorem deregisterBegin_accepts {s : Rdmabuffer β} {r : RegistrationId} {rec : RegistrationRecord}
    (hr : s.registrations.lookup r = some rec) (hn : rec.leaseCount = 0) (hd : deregisterable rec.lifecycle = true) :
    s.deregisterBegin r =
      ({ s with registrations := Table.put r { rec with lifecycle := .deregistering } s.registrations },
        .ok (pendingDeregistration r rec)) := by
  unfold deregisterBegin
  simp only [hr, hn, hd]
  rfl

/-- A deregistration that begins removes the record or leaves it FAILED, as the backend decides. -/
theorem deregister_accepted {s : Rdmabuffer β} {r : RegistrationId} {rec : RegistrationRecord}
    (hr : s.registrations.lookup r = some rec) (hn : rec.leaseCount = 0) (hd : deregisterable rec.lifecycle = true) :
    ∃ backends ok e, Release s rec backends ok ∧
      s.deregister r = (if ok then removed s r rec backends else failed s r rec backends, ok, e) := by
  unfold deregister
  rw [deregisterBegin_accepts hr hn hd]
  dsimp only
  have hput : (Table.put r { rec with lifecycle := .deregistering } s.registrations).lookup r =
      some { rec with lifecycle := .deregistering } := by
    rw [Table.lookup_put_self]
  rcases deregisterCall_cases
    { s with registrations := Table.put r { rec with lifecycle := .deregistering } s.registrations }
    (pendingDeregistration r rec) with ⟨hs, hc⟩ | ⟨b, b', bo, hv, hb, hr', hc⟩
  · rw [hc]
    simp only [deregisterFinish, pendingDeregistration, hput]
    exact ⟨s.backends, true, _, .skipped hs, rfl⟩
  · rw [hc]
    dsimp only
    have hrel : Release s rec (Table.put rec.backend b' s.backends) bo.ok := .called b b' bo hv hb hr'
    refine ⟨Table.put rec.backend b' s.backends, bo.ok, ?_⟩
    cases ho : bo.ok with
    | true =>
      rw [if_pos rfl]
      simp only [deregisterFinish, pendingDeregistration, hput]
      exact ⟨_, ho ▸ hrel, rfl⟩
    | false =>
      rw [if_neg (by simp)]
      simp only [deregisterFinish, pendingDeregistration, hput]
      exact ⟨_, ho ▸ hrel, rfl⟩

/-- A deregistration is refused, or the backend decides whether the record is removed or failed. -/
theorem deregister_cases (s : Rdmabuffer β) (r : RegistrationId) :
    (∃ e, s.deregister r = (s, false, e)) ∨
    ∃ rec backends ok e, s.registrations.lookup r = some rec ∧ rec.leaseCount = 0 ∧
      deregisterable rec.lifecycle = true ∧ Release s rec backends ok ∧
      s.deregister r = (if ok then removed s r rec backends else failed s r rec backends, ok, e) := by
  rcases deregisterBegin_cases s r with ⟨e, he⟩ | ⟨rec, hr, hn, hd, -⟩
  · left
    unfold deregister
    rw [he]
    exact ⟨e, rfl⟩
  · obtain ⟨backends, ok, e, hrel, he⟩ := deregister_accepted hr hn hd
    exact .inr ⟨rec, backends, ok, e, hr, hn, hd, hrel, he⟩

/-! ## The cases of an operation -/

/-- Every way a sequential operation changes the state. -/
inductive OpStep [Environment β] (s : Rdmabuffer β) : Op β → Rdmabuffer β → Prop
  | atomic (op : AtomicOp β) (s' : Rdmabuffer β) (h : Effect s op s') : OpStep s (.atomic op) s'
  | registerRefused (descriptor : BufferDescriptor) (backend : BackendId) (domain : ProtectionDomainId)
      (env : AuthorityEnvelope) (hok : (s.registerBuffer descriptor backend domain env).2.ok = false) :
      OpStep s (.registerBuffer descriptor backend domain env) s
  | registerFailed (descriptor : BufferDescriptor) (backend : BackendId) (domain : ProtectionDomainId)
      (env : AuthorityEnvelope) (b b' : β) (bo : RegisterOutcome) (bout : BackendRegistration)
      (hv : Validated s descriptor backend domain env b)
      (he : IBackend.registerBuffer b descriptor (registrationContext s b descriptor domain env) = (b', bo, bout))
      (ho : bo.ok = false) (hok : (s.registerBuffer descriptor backend domain env).2.ok = false) :
      OpStep s (.registerBuffer descriptor backend domain env) (called s backend b')
  | registered (descriptor : BufferDescriptor) (backend : BackendId) (domain : ProtectionDomainId)
      (env : AuthorityEnvelope) (b b' : β) (bo : RegisterOutcome) (bout : BackendRegistration)
      (hv : Validated s descriptor backend domain env b)
      (he : IBackend.registerBuffer b descriptor (registrationContext s b descriptor domain env) = (b', bo, bout))
      (ho : bo.ok = true) (hok : (s.registerBuffer descriptor backend domain env).2.ok = true)
      (hid : (s.registerBuffer descriptor backend domain env).2.registration = ⟨s.nextRegistration⟩) :
      OpStep s (.registerBuffer descriptor backend domain env)
        ((called s backend b').registerCommit (pending s b descriptor backend domain env) bout).1
  | deregisterRefused (r : RegistrationId) : OpStep s (.deregister r) s
  | deregistered (r : RegistrationId) (rec : RegistrationRecord) (backends : Table BackendId β)
      (hr : s.registrations.lookup r = some rec) (hn : rec.leaseCount = 0) (hd : deregisterable rec.lifecycle = true)
      (hb : Release s rec backends true) : OpStep s (.deregister r) (removed s r rec backends)
  | deregisterFailed (r : RegistrationId) (rec : RegistrationRecord) (backends : Table BackendId β)
      (hr : s.registrations.lookup r = some rec) (hn : rec.leaseCount = 0) (hd : deregisterable rec.lifecycle = true)
      (hb : Release s rec backends false) : OpStep s (.deregister r) (failed s r rec backends)

variable [Environment β]

theorem registerBuffer_step (s : Rdmabuffer β) (descriptor : BufferDescriptor) (backend : BackendId)
    (domain : ProtectionDomainId) (env : AuthorityEnvelope) :
    OpStep s (.registerBuffer descriptor backend domain env) (s.registerBuffer descriptor backend domain env).1 := by
  rcases registerBuffer_cases s descriptor backend domain env with
    ⟨rr, hf, he⟩ | ⟨b, b', bo, bout, hv, hr, ⟨rr, hf, ho, he⟩ | ⟨ho, he⟩⟩
  · have := OpStep.registerRefused (s := s) descriptor backend domain env (by rw [he]; exact hf)
    rwa [he]
  · have := OpStep.registerFailed (s := s) descriptor backend domain env b b' bo bout hv hr ho (by rw [he]; exact hf)
    rwa [he]
  · have := OpStep.registered (s := s) descriptor backend domain env b b' bo bout hv hr ho (by rw [he]; rfl)
      (by rw [he]; rfl)
    rwa [he]

theorem deregister_step (s : Rdmabuffer β) (r : RegistrationId) :
    OpStep s (.deregister r) (s.deregister r).1 := by
  rcases deregister_cases s r with ⟨e, he⟩ | ⟨rec, backends, ok, e, hr, hn, hd, hb, he⟩
  · rw [he]; exact .deregisterRefused r
  · rw [he]
    cases ok with
    | true => exact .deregistered r rec backends hr hn hd hb
    | false => exact .deregisterFailed r rec backends hr hn hd hb

/-- Every sequential operation does one of these. -/
theorem Op.run_cases (s : Rdmabuffer β) (op : Op β) : OpStep s op (op.run s) := by
  cases op with
  | atomic op => exact .atomic op _ (op.effect s)
  | registerBuffer descriptor backend domain env => exact registerBuffer_step s descriptor backend domain env
  | deregister r => exact deregister_step s r

end RdmaBuffer
