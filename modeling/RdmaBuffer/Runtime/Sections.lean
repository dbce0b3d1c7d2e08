/-
What each section of a registration and of a deregistration can do to the state, and what a
recovery does to each table.
-/
import RdmaBuffer.Runtime.Effects

namespace RdmaBuffer

open Rdmabuffer

variable {β : Type} [IBackend β]

/-! ## Registration -/

/-- The checks of the first section of a registration, all passed. -/
structure Validated (s : Rdmabuffer β) (descriptor : BufferDescriptor) (backend : BackendId)
    (domain : ProtectionDomainId) (env : AuthorityEnvelope) (b : β) : Prop where
  authorized : Authorized s.authority env
  backend : s.backends.lookup backend = some b
  domain : ∃ de, s.domains.lookup domain = some de ∧ de.state = .active
  range : (validateRange descriptor).ok
  buffer : ∃ be, s.buffers.lookup descriptor.id = some be ∧ be.descriptor.generation = descriptor.generation
  slot : s.activeRegistrationForBuffer.lookup descriptor.id = none
  admissible : IBackend.canRegister b descriptor = []

/-- What the first section hands on. -/
def pending (s : Rdmabuffer β) (b : β) (descriptor : BufferDescriptor) (backend : BackendId)
    (domain : ProtectionDomainId) (env : AuthorityEnvelope) : PendingRegistration :=
  { descriptor := descriptor
    backend := backend
    env := env
    record := pendingRecord s b descriptor backend domain env
    ctx := registrationContext s b descriptor domain env }

/-- The first section refuses and changes nothing, or burns a registration id and hands on. -/
theorem registerBegin_cases (s : Rdmabuffer β) (descriptor : BufferDescriptor) (backend : BackendId)
    (domain : ProtectionDomainId) (env : AuthorityEnvelope) :
    (∃ rr : RegisterResult, rr.ok = false ∧ s.registerBegin descriptor backend domain env = (s, .error rr)) ∨
    ∃ b, Validated s descriptor backend domain env b ∧ s.registerBegin descriptor backend domain env =
      ({ s with nextRegistration := s.nextRegistration + 1 }, .ok (pending s b descriptor backend domain env)) := by
  unfold registerBegin
  dsimp only
  -- one split for each check, in the order of the source
  split
  · exact .inl ⟨_, rfl, rfl⟩
  · rename_i ha
    split
    · exact .inl ⟨_, rfl, rfl⟩
    · rename_i b hb
      split
      · exact .inl ⟨_, rfl, rfl⟩
      · rename_i hd
        split
        · exact .inl ⟨_, rfl, rfl⟩
        · rename_i hr
          split
          · exact .inl ⟨_, rfl, rfl⟩
          · rename_i be hbe
            split
            · exact .inl ⟨_, rfl, rfl⟩
            · rename_i hg
              split
              · exact .inl ⟨_, rfl, rfl⟩
              · rename_i hs
                split
                · exact .inl ⟨_, rfl, rfl⟩
                · rename_i hc
                  refine .inr ⟨b, ⟨by simpa [Authorized] using ha, hb, ?_, by simpa using hr, ⟨be, hbe, ?_⟩,
                    ?_, ?_⟩, rfl⟩
                  · simpa using hd
                  · simpa using hg
                  · simpa using hs
                  · simpa using hc

/-- What passes the checks is handed on. -/
theorem Validated.registerBegin {s : Rdmabuffer β} {descriptor : BufferDescriptor} {backend : BackendId}
    {domain : ProtectionDomainId} {env : AuthorityEnvelope} {b : β} (h : Validated s descriptor backend domain env b) :
    s.registerBegin descriptor backend domain env =
      ({ s with nextRegistration := s.nextRegistration + 1 }, .ok (pending s b descriptor backend domain env)) := by
  obtain ⟨de, hde, hst⟩ := h.domain
  obtain ⟨be, hbe, hg⟩ := h.buffer
  have ha : (validateAuthority s.authority env).outcome = .allow := h.authorized
  unfold Rdmabuffer.registerBegin
  simp [ha, h.backend, hde, hst, h.range, hbe, hg, h.slot, h.admissible, pending]

/-- The backend call leaves everything but the backends alone. -/
theorem registerCall_cases (s : Rdmabuffer β) (p : PendingRegistration) :
    (∃ rr : RegisterResult, rr.ok = false ∧ s.backends.lookup p.backend = none ∧
      s.registerCall p = (s, .error rr)) ∨
    ∃ b b' bo bout, s.backends.lookup p.backend = some b ∧
      IBackend.registerBuffer b p.descriptor p.ctx = (b', bo, bout) ∧
      ((∃ rr : RegisterResult, rr.ok = false ∧ bo.ok = false ∧
          s.registerCall p = ({ s with backends := Table.put p.backend b' s.backends }, .error rr)) ∨
        (bo.ok = true ∧ s.registerCall p = ({ s with backends := Table.put p.backend b' s.backends }, .ok bout))) := by
  unfold registerCall
  split
  · rename_i h
    exact .inl ⟨_, rfl, h, rfl⟩
  · rename_i b h
    rcases hr : IBackend.registerBuffer b p.descriptor p.ctx with ⟨b', bo, bout⟩
    refine .inr ⟨b, b', bo, bout, h, hr, ?_⟩
    dsimp only
    split
    · rename_i ho
      exact .inl ⟨_, rfl, by simpa using ho, rfl⟩
    · rename_i ho
      exact .inr ⟨by simpa using ho, rfl⟩

omit [IBackend β] in
theorem registerCommit_lookup (s : Rdmabuffer β) (p : PendingRegistration) (bout : BackendRegistration)
    (r : RegistrationId) : (s.registerCommit p bout).1.registrations.lookup r =
      if r = p.record.id then some (commitRecord s.authority p bout) else s.registrations.lookup r :=
  Table.lookup_put _ _ _ _

omit [IBackend β] in
theorem registerCommit_slot (s : Rdmabuffer β) (p : PendingRegistration) (bout : BackendRegistration)
    (b : BufferId) : (s.registerCommit p bout).1.activeRegistrationForBuffer.lookup b =
      if b = p.record.bufferId then some p.record.id else s.activeRegistrationForBuffer.lookup b :=
  Table.lookup_put _ _ _ _

/-! ## Deregistration -/

/-- What the first section of a deregistration hands on. -/
def pendingDeregistration (r : RegistrationId) (rec : RegistrationRecord) : PendingDeregistration :=
  { registration := r, handle := rec.backendHandle, region := rec.memoryRegionId, backend := rec.backend }

omit [IBackend β] in
theorem deregisterBegin_cases (s : Rdmabuffer β) (r : RegistrationId) :
    (∃ e, s.deregisterBegin r = (s, .error e)) ∨
    ∃ rec, s.registrations.lookup r = some rec ∧ rec.leaseCount = 0 ∧ deregisterable rec.lifecycle ∧
      s.deregisterBegin r =
        ({ s with registrations := Table.put r { rec with lifecycle := .deregistering } s.registrations },
          .ok (pendingDeregistration r rec)) := by
  unfold deregisterBegin
  split
  · exact .inl ⟨_, rfl⟩
  · rename_i rec h
    split
    · exact .inl ⟨_, rfl⟩
    · rename_i hc
      split
      · exact .inl ⟨_, rfl⟩
      · rename_i hl
        refine .inr ⟨rec, h, ?_, by simpa using hl, rfl⟩
        rw [gt_iff_lt, UInt64.lt_iff_toNat_lt, UInt64.toNat_zero] at hc
        rw [← UInt64.toNat_inj, UInt64.toNat_zero]
        omega

/-- The backend call is skipped, or goes to the attached backend. -/
theorem deregisterCall_cases (s : Rdmabuffer β) (d : PendingDeregistration) :
    ((d.backend.isValid = false ∨ s.backends.lookup d.backend = none) ∧ s.deregisterCall d = (s, none)) ∨
    ∃ b b' bo, d.backend.isValid = true ∧ s.backends.lookup d.backend = some b ∧
      IBackend.deregisterBuffer b ⟨d.region, d.handle⟩ = (b', bo) ∧
      s.deregisterCall d =
        ({ s with backends := Table.put d.backend b' s.backends }, if bo.ok then none else some bo) := by
  unfold deregisterCall
  split
  · rename_i h
    exact .inl ⟨.inl (by simpa using h), rfl⟩
  · rename_i hv
    split
    · rename_i h
      exact .inl ⟨.inr h, rfl⟩
    · rename_i b h
      rcases hr : IBackend.deregisterBuffer b ⟨d.region, d.handle⟩ with ⟨b', bo⟩
      refine .inr ⟨b, b', bo, by simpa using hv, h, hr, ?_⟩
      cases hok : bo.ok <;> simp [hok]

/-! ## Recovery -/

/-- What a recovery from a parsed file does to the state. -/
structure Restored (s : Rdmabuffer β) (state : PersistableState) (s' : Rdmabuffer β) : Prop where
  authority : s'.authority = state.authoritySnapshot
  backends : s'.backends = s.backends
  slot : s'.activeRegistrationForBuffer = s.activeRegistrationForBuffer
  leases : s'.leases = s.leases
  nextBuffer : s'.nextBuffer = s.nextBuffer
  nextRegistration : s'.nextRegistration = s.nextRegistration
  nextDomain : s'.nextDomain = s.nextDomain
  nextLease : s'.nextLease = s.nextLease
  registration : ∀ r, ((∀ rec ∈ state.registrations, rec.id ≠ r) ∧
      s'.registrations.lookup r = s.registrations.lookup r) ∨
    ∃ rec ∈ state.registrations, rec.id = r ∧ s'.registrations.lookup r = some (recoveredRecord rec)
  buffer : ∀ id, s'.buffers.lookup id = s.buffers.lookup id ∨ s.buffers.lookup id = none ∧
    ∃ b ∈ state.buffers, b.id = id ∧ s'.buffers.lookup id = some { descriptor := b, registered := false }
  domain : ∀ d, s'.domains.lookup d = s.domains.lookup d ∨ s.domains.lookup d = none ∧
    s'.domains.lookup d = some { state := .active, generation := ⟨1⟩ }

omit [IBackend β] in
/-- The buffer loop touches only the buffers and the counters. -/
theorem recoverBuffers_spec (bs : List BufferDescriptor) (s : Rdmabuffer β) (report : RecoveryReport) :
    ∃ buffers acct report',
      bs.foldl recoverBuffer (s, report) = ({ s with buffers := buffers, acct := acct }, report') ∧
      ∀ id, buffers.lookup id = s.buffers.lookup id ∨ s.buffers.lookup id = none ∧
        ∃ b ∈ bs, b.id = id ∧ buffers.lookup id = some { descriptor := b, registered := false } := by
  induction bs generalizing s report with
  | nil => exact ⟨s.buffers, s.acct, report, rfl, fun _ => .inl rfl⟩
  | cons b bs ih =>
    by_cases hb : (s.buffers.lookup b.id).isSome
    · have h1 : recoverBuffer (s, report) b = (s, report) := by simp [recoverBuffer, hb]
      rw [List.foldl_cons, h1]
      obtain ⟨buffers, acct, report', he, hl⟩ := ih s report
      refine ⟨buffers, acct, report', he, fun id => (hl id).imp_right ?_⟩
      rintro ⟨hn, b', hm, hid, hlk⟩
      exact ⟨hn, b', List.mem_cons_of_mem _ hm, hid, hlk⟩
    · rw [List.foldl_cons, recoverBuffer]
      simp only [hb, Bool.false_eq_true, if_false]
      obtain ⟨buffers, acct, report', he, hl⟩ := ih _ _
      refine ⟨buffers, acct, report', he, fun id => ?_⟩
      have hl := hl id
      dsimp only at hl
      rw [Table.lookup_put] at hl
      -- a buffer that was added is there for the rest of the loop
      by_cases hid : id = b.id
      · subst hid
        rw [if_pos rfl] at hl
        rcases hl with hl | ⟨hn, -⟩
        · exact .inr ⟨by simpa using hb, b, by simp, rfl, hl⟩
        · cases hn
      · rw [if_neg hid] at hl
        refine hl.imp_right ?_
        rintro ⟨hn, b', hm, hid', hlk⟩
        exact ⟨hn, b', List.mem_cons_of_mem _ hm, hid', hlk⟩

omit [IBackend β] in
/-- The domain loop touches only the domains and the counters. -/
theorem recoverDomains_spec (ds : List ProtectionDomainId) (s : Rdmabuffer β) (report : RecoveryReport) :
    ∃ domains acct report',
      ds.foldl recoverDomain (s, report) = ({ s with domains := domains, acct := acct }, report') ∧
      ∀ d, domains.lookup d = s.domains.lookup d ∨ s.domains.lookup d = none ∧
        domains.lookup d = some { state := .active, generation := ⟨1⟩ } := by
  induction ds generalizing s report with
  | nil => exact ⟨s.domains, s.acct, report, rfl, fun _ => .inl rfl⟩
  | cons d ds ih =>
    by_cases hd : (s.domains.lookup d).isSome
    · have h1 : recoverDomain (s, report) d = (s, report) := by simp [recoverDomain, hd]
      rw [List.foldl_cons, h1]
      exact ih s report
    · rw [List.foldl_cons, recoverDomain]
      simp only [hd, Bool.false_eq_true, if_false]
      obtain ⟨domains, acct, report', he, hl⟩ := ih _ _
      refine ⟨domains, acct, report', he, fun d' => ?_⟩
      have hl := hl d'
      dsimp only at hl
      rw [Table.lookup_put] at hl
      by_cases hid : d' = d
      · subst hid
        rw [if_pos rfl] at hl
        rcases hl with hl | ⟨hn, -⟩
        · exact .inr ⟨by simpa using hd, hl⟩
        · cases hn
      · rwa [if_neg hid] at hl

omit [IBackend β] in
/-- The registration loop touches only the registrations; the last record of an identity wins. -/
theorem recoverRegistrations_spec (rs : List RegistrationRecord) (s : Rdmabuffer β) (report : RecoveryReport) :
    ∃ registrations report', rs.foldl recoverRegistration (s, report) =
        ({ s with registrations := registrations }, report') ∧
      ∀ r, ((∀ rec ∈ rs, rec.id ≠ r) ∧ registrations.lookup r = s.registrations.lookup r) ∨
        ∃ rec ∈ rs, rec.id = r ∧ registrations.lookup r = some (recoveredRecord rec) := by
  induction rs generalizing s report with
  | nil => exact ⟨s.registrations, report, rfl, fun _ => .inl ⟨by simp, rfl⟩⟩
  | cons rec rs ih =>
    rw [List.foldl_cons, recoverRegistration]
    obtain ⟨registrations, report', he, hl⟩ := ih _ _
    refine ⟨registrations, report', he, fun r => ?_⟩
    rcases hl r with ⟨hne, hlk⟩ | ⟨rec', hm, hid, hlk⟩
    · dsimp only at hlk
      rw [Table.lookup_put] at hlk
      by_cases hr : r = rec.id
      · rw [if_pos hr] at hlk
        exact .inr ⟨rec, by simp, hr.symm, hlk⟩
      · rw [if_neg hr] at hlk
        refine .inl ⟨fun rec' hm => ?_, hlk⟩
        rcases List.mem_cons.1 hm with rfl | hm
        · exact fun h => hr h.symm
        · exact hne rec' hm
    · exact .inr ⟨rec', List.mem_cons_of_mem _ hm, hid, hlk⟩

omit [IBackend β] in
theorem restore_spec (s : Rdmabuffer β) (state : PersistableState) : Restored s state (restore s state).1 := by
  unfold restore
  obtain ⟨buffers, acct, report, he, hb⟩ := recoverBuffers_spec state.buffers s {}
  obtain ⟨domains, acct', report', he', hd⟩ :=
    recoverDomains_spec state.domains { s with buffers := buffers, acct := acct } report
  obtain ⟨registrations, report'', he'', hr⟩ := recoverRegistrations_spec state.registrations
    { s with buffers := buffers, acct := acct', domains := domains } report'
  simp only [he, he', he'']
  exact ⟨rfl, rfl, rfl, rfl, rfl, rfl, rfl, rfl, hr, hb, hd⟩

omit [IBackend β] in
theorem recover_of_parse (s : Rdmabuffer β) {bytes : Bytes} {state : PersistableState}
    (hp : Persistence.parse bytes = .ok state) :
    s.recover (some bytes) = ((restore s state).1, .ok (restore s state).2) := by
  rw [recover, hp]

/-- The counters of registrations and leases. -/
def Accounting.resources (a : Accounting) : List Counter :=
  [a.activeRegistrations, a.localKeys, a.remoteKeys, a.registeredBytes, a.pinnedBytes, a.activeLeases]

omit [IBackend β] in
/-- The buffer loop of a recovery counts in two counters. -/
theorem recoverBuffers_acct (bs : List BufferDescriptor) : ∀ sr : Rdmabuffer β × RecoveryReport,
    ∃ buffers bytes, (bs.foldl recoverBuffer sr).1.acct =
      { sr.1.acct with logicalBuffers := buffers, liveBufferBytes := bytes } := by
  induction bs with
  | nil => exact fun sr => ⟨_, _, rfl⟩
  | cons b bs ih =>
    rintro ⟨s, report⟩
    obtain ⟨buffers, bytes, h⟩ := ih (recoverBuffer (s, report) b)
    refine ⟨buffers, bytes, ?_⟩
    rw [List.foldl_cons, h]
    unfold recoverBuffer
    dsimp only
    split <;> rfl

omit [IBackend β] in
/-- The domain loop of a recovery counts in one counter. -/
theorem recoverDomains_acct (ds : List ProtectionDomainId) : ∀ sr : Rdmabuffer β × RecoveryReport,
    ∃ domains, (ds.foldl recoverDomain sr).1.acct = { sr.1.acct with protectionDomains := domains } := by
  induction ds with
  | nil => exact fun sr => ⟨_, rfl⟩
  | cons d ds ih =>
    rintro ⟨s, report⟩
    obtain ⟨domains, h⟩ := ih (recoverDomain (s, report) d)
    refine ⟨domains, ?_⟩
    rw [List.foldl_cons, h]
    unfold recoverDomain
    dsimp only
    split <;> rfl

omit [IBackend β] in
theorem recoverRegistrations_acct (rs : List RegistrationRecord) : ∀ sr : Rdmabuffer β × RecoveryReport,
    (rs.foldl recoverRegistration sr).1.acct = sr.1.acct := by
  induction rs with
  | nil => intro sr; rfl
  | cons rec rs ih =>
    rintro ⟨s, report⟩
    rw [List.foldl_cons, ih]
    rfl

omit [IBackend β] in
/-- A recovery counts buffers and domains, and nothing else. -/
theorem restore_acct (s : Rdmabuffer β) (state : PersistableState) : ∃ buffers bytes domains,
    (restore s state).1.acct =
      { s.acct with logicalBuffers := buffers, liveBufferBytes := bytes, protectionDomains := domains } := by
  obtain ⟨buffers, bytes, hb⟩ := recoverBuffers_acct state.buffers (s, {})
  obtain ⟨domains, hd⟩ := recoverDomains_acct state.domains (state.buffers.foldl recoverBuffer (s, {}))
  refine ⟨buffers, bytes, domains, ?_⟩
  unfold restore
  show (state.registrations.foldl recoverRegistration _).1.acct = _
  rw [recoverRegistrations_acct, hd, hb]

omit [IBackend β] in
/-- A recovery leaves the counters of registrations and leases alone. -/
theorem restore_resources (s : Rdmabuffer β) (state : PersistableState) :
    (restore s state).1.acct.resources = s.acct.resources := by
  obtain ⟨buffers, bytes, domains, h⟩ := restore_acct s state
  rw [h]
  rfl

/-- What the file of a recovery would restore, if it is accepted. -/
def AtomicOp.restores [Environment β] : AtomicOp β → Option PersistableState
  | .recover (some bytes) => (Persistence.parse bytes).toOption
  | _ => none

/-- The snapshot in force after an operation. -/
def AtomicOp.nextAuthority [Environment β] (s : Rdmabuffer β) (op : AtomicOp β) : AuthoritySnapshot :=
  match op.restores with
  | some state => state.authoritySnapshot
  | none => op.snapshot s

omit [IBackend β] in
theorem restores_of_parse [Environment β] {bytes : Bytes} {state : PersistableState}
    (h : Persistence.parse bytes = .ok state) :
    (AtomicOp.recover (some bytes) : AtomicOp β).restores = some state := by
  rw [AtomicOp.restores, h, Except.toOption]

omit [IBackend β] in
/-- What an operation restores is what a file that it recovers from parses to. -/
theorem restores_eq_some [Environment β] {op : AtomicOp β} {state : PersistableState}
    (h : op.restores = some state) : ∃ bytes, op = .recover (some bytes) ∧ Persistence.parse bytes = .ok state := by
  cases op with
  | recover file =>
    rcases file with _ | bytes
    · cases h
    · refine ⟨bytes, rfl, ?_⟩
      rcases hp : Persistence.parse bytes with e | state'
      · rw [AtomicOp.restores, hp] at h
        cases h
      · rw [restores_of_parse hp] at h
        rw [Option.some.inj h]
  | _ => cases h

/-- An operation that restores a file is a recovery from it. -/
theorem run_restores [Environment β] {s : Rdmabuffer β} {op : AtomicOp β} {state : PersistableState}
    (h : op.restores = some state) : Restored s state (op.run s) := by
  obtain ⟨bytes, rfl, hp⟩ := restores_eq_some h
  rw [AtomicOp.run, recover_of_parse s hp]
  exact restore_spec s state

theorem run_authority [Environment β] (s : Rdmabuffer β) (op : AtomicOp β) :
    (op.run s).authority = op.nextAuthority s := by
  unfold AtomicOp.nextAuthority
  rcases hr : op.restores with _ | state
  · generalize hs : op.run s = s'
    have he : Effect s op s' := hs ▸ op.effect s
    clear hs
    cases he with
    | refused op acct h => exact h.symm
    | recovered bytes state hp => cases (restores_of_parse hp).symm.trans hr
    | _ => rfl
  · exact (run_restores hr).authority

/-! ## Steps of the interleaved system -/

variable [Environment β]

/-- Every way an action changes the system. -/
inductive SectionStep (σ : System β) : Action β → System β → Prop
  | idle (a : Action β) : SectionStep σ a σ
  | atomic (op : AtomicOp β) (s : Rdmabuffer β) (h : Effect σ.runtime op s) :
      SectionStep σ (.atomic op) { σ with runtime := s }
  | begun (c : Nat) (descriptor : BufferDescriptor) (backend : BackendId) (domain : ProtectionDomainId)
      (env : AuthorityEnvelope) (b : β) (hc : σ.clients c = none)
      (hv : Validated σ.runtime descriptor backend domain env b) :
      SectionStep σ (.registerBegin c descriptor backend domain env)
        (σ.move { σ.runtime with nextRegistration := σ.runtime.nextRegistration + 1 } c
          (some (.registering (pending σ.runtime b descriptor backend domain env))))
  | vanished (c : Nat) (p : PendingRegistration) (hc : σ.clients c = some (.registering p))
      (hb : σ.runtime.backends.lookup p.backend = none) :
      SectionStep σ (.registerCall c) (σ.move σ.runtime c none)
  | called (c : Nat) (p : PendingRegistration) (b b' : β) (bo : RegisterOutcome) (bout : BackendRegistration)
      (hc : σ.clients c = some (.registering p)) (hb : σ.runtime.backends.lookup p.backend = some b)
      (he : IBackend.registerBuffer b p.descriptor p.ctx = (b', bo, bout)) :
      SectionStep σ (.registerCall c)
        (σ.move { σ.runtime with backends := Table.put p.backend b' σ.runtime.backends } c
          (if bo.ok then some (.registered p bout) else none))
  | committed (c : Nat) (p : PendingRegistration) (bout : BackendRegistration)
      (hc : σ.clients c = some (.registered p bout)) :
      SectionStep σ (.registerCommit c) (σ.move (σ.runtime.registerCommit p bout).1 c none)
  | deregisterBegun (c : Nat) (r : RegistrationId) (rec : RegistrationRecord) (hc : σ.clients c = none)
      (h : σ.runtime.registrations.lookup r = some rec) (hn : rec.leaseCount = 0)
      (hd : deregisterable rec.lifecycle) :
      SectionStep σ (.deregisterBegin c r)
        (σ.move
          { σ.runtime with
            registrations := Table.put r { rec with lifecycle := .deregistering } σ.runtime.registrations }
          c (some (.deregistering (pendingDeregistration r rec))))
  | deregisterSkipped (c : Nat) (d : PendingDeregistration) (hc : σ.clients c = some (.deregistering d))
      (hs : d.backend.isValid = false ∨ σ.runtime.backends.lookup d.backend = none) :
      SectionStep σ (.deregisterCall c) (σ.move σ.runtime c (some (.deregistered d none)))
  | deregisterCalled (c : Nat) (d : PendingDeregistration) (b b' : β) (bo : RegisterOutcome)
      (hc : σ.clients c = some (.deregistering d)) (hv : d.backend.isValid = true)
      (hb : σ.runtime.backends.lookup d.backend = some b)
      (he : IBackend.deregisterBuffer b ⟨d.region, d.handle⟩ = (b', bo)) :
      SectionStep σ (.deregisterCall c)
        (σ.move { σ.runtime with backends := Table.put d.backend b' σ.runtime.backends } c
          (some (.deregistered d (if bo.ok then none else some bo))))
  | deregisterFinished (c : Nat) (d : PendingDeregistration) (refusal : Option RegisterOutcome)
      (hc : σ.clients c = some (.deregistered d refusal)) :
      SectionStep σ (.deregisterFinish c) (σ.move (σ.runtime.deregisterFinish d refusal).1 c none)

theorem exec_registerCommit {σ : System β} {c : Nat} {p : PendingRegistration} {bout : BackendRegistration}
    (hc : σ.clients c = some (.registered p bout)) :
    σ.exec (.registerCommit c) = σ.move (σ.runtime.registerCommit p bout).1 c none := by
  simp only [System.exec, hc]

/-- A commit stores the record that it completes. -/
theorem committed_lookup {σ : System β} {c : Nat} {p : PendingRegistration} {bout : BackendRegistration}
    (hc : σ.clients c = some (.registered p bout)) :
    (σ.exec (.registerCommit c)).runtime.registrations.lookup p.record.id =
      some (commitRecord σ.runtime.authority p bout) := by
  rw [exec_registerCommit hc]
  exact (registerCommit_lookup _ _ _ _).trans (if_pos rfl)

theorem registerBegin_section (σ : System β) (c : Nat) (descriptor : BufferDescriptor) (backend : BackendId)
    (domain : ProtectionDomainId) (env : AuthorityEnvelope) :
    SectionStep σ (.registerBegin c descriptor backend domain env)
      (σ.exec (.registerBegin c descriptor backend domain env)) := by
  rcases hc : σ.clients c with _ | f
  · rcases registerBegin_cases σ.runtime descriptor backend domain env with ⟨rr, -, he⟩ | ⟨b, hv, he⟩
    · simp only [System.exec, hc, he]; exact .idle _
    · simp only [System.exec, hc, he]; exact .begun c descriptor backend domain env b hc hv
  · simp only [System.exec, hc]; exact .idle _

theorem registerCall_section (σ : System β) (c : Nat) : SectionStep σ (.registerCall c) (σ.exec (.registerCall c)) := by
  unfold System.exec
  dsimp only
  split
  · rename_i p hc
    rcases registerCall_cases σ.runtime p with ⟨rr, -, hb, he⟩ | ⟨b, b', bo, bout, hb, hr, h⟩
    · simp only [he]; exact .vanished c p hc hb
    · have := SectionStep.called c p b b' bo bout hc hb hr
      rcases h with ⟨rr, -, hok, he⟩ | ⟨hok, he⟩
      · simpa [he, hok] using this
      · simpa [he, hok] using this
  · exact .idle _

theorem deregisterBegin_section (σ : System β) (c : Nat) (r : RegistrationId) :
    SectionStep σ (.deregisterBegin c r) (σ.exec (.deregisterBegin c r)) := by
  rcases hc : σ.clients c with _ | f
  · rcases deregisterBegin_cases σ.runtime r with ⟨e, he⟩ | ⟨rec, h, hn, hd, he⟩
    · simp only [System.exec, hc, he]; exact .idle _
    · simp only [System.exec, hc, he]; exact .deregisterBegun c r rec hc h hn hd
  · simp only [System.exec, hc]; exact .idle _

theorem deregisterCall_section (σ : System β) (c : Nat) :
    SectionStep σ (.deregisterCall c) (σ.exec (.deregisterCall c)) := by
  unfold System.exec
  dsimp only
  split
  · rename_i d hc
    rcases deregisterCall_cases σ.runtime d with ⟨hs, he⟩ | ⟨b, b', bo, hv, hb, hr, he⟩
    · rw [he]; exact .deregisterSkipped c d hc hs
    · rw [he]; exact .deregisterCalled c d b b' bo hc hv hb hr
  · exact .idle _

/-- Every action does one of these. -/
theorem System.exec_cases (σ : System β) (a : Action β) : SectionStep σ a (σ.exec a) := by
  cases a with
  | atomic op => exact .atomic op _ (op.effect σ.runtime)
  | registerBegin c descriptor backend domain env => exact registerBegin_section σ c descriptor backend domain env
  | registerCall c => exact registerCall_section σ c
  | registerCommit c =>
    unfold System.exec
    dsimp only
    split
    · rename_i p bout hc; exact .committed c p bout hc
    · exact .idle _
  | deregisterBegin c r => exact deregisterBegin_section σ c r
  | deregisterCall c => exact deregisterCall_section σ c
  | deregisterFinish c =>
    unfold System.exec
    dsimp only
    split
    · rename_i d refusal hc; exact .deregisterFinished c d refusal hc
    · exact .idle _

/-! ## The snapshot after a step -/

/-- The sections of a registration and of a deregistration leave the snapshot alone. -/
theorem section_authority {σ σ' : System β} {a : Action β} (h : SectionStep σ a σ') (ha : ∀ op, a ≠ .atomic op) :
    σ'.runtime.authority = σ.runtime.authority := by
  cases h with
  | atomic op s he => exact absurd rfl (ha op)
  | deregisterFinished c d refusal hc =>
    simp only [System.move, deregisterFinish]
    split <;> rfl
  | _ => rfl

/-- The snapshot after a step. -/
def authorityAfter (σ : System β) : Option (Action β) → AuthoritySnapshot
  | some (.atomic op) => op.nextAuthority σ.runtime
  | _ => σ.runtime.authority

theorem step_authority {σ σ' : System β} {l : Option (Action β)} (h : (interleaved β).step σ l σ') :
    σ'.runtime.authority = authorityAfter σ l := by
  cases l with
  | none =>
    obtain ⟨hr, -⟩ := h
    rw [hr.others]
    rfl
  | some a =>
    obtain rfl : σ' = σ.exec a := h
    cases a with
    | atomic op => exact run_authority σ.runtime op
    | _ => exact section_authority (σ.exec_cases _) (by simp)

end RdmaBuffer
