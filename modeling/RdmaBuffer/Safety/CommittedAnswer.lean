/-
What becomes of a backend's answer to a registration: its transport never reaches the committed record, and a request
that names it is refused for as long as the registration is served at all.
-/
import RdmaBuffer.Runtime.Extents
import RdmaBuffer.Safety.Eligibility
import RdmaBuffer.Safety.StaleAuthority

namespace RdmaBuffer

open Rdmabuffer Backend

/-! ## The answer and the record -/

/-- The record carries what the backend answered. -/
structure CarriesAnswer (rec : RegistrationRecord) (bout : BackendRegistration) : Prop where
  transport : rec.transport = bout.transport
  nic : rec.nic = bout.nic
  device : rec.device = bout.device
  provenance : rec.provenance = bout.provenance
  localKey : rec.localKey.provenance = bout.provenance
  remoteKey : rec.remoteKey.provenance = bout.provenance

/-- Some request through the registration that names the transport is answered REJECT_TRANSPORT. -/
def RefusesTransport (s : Rdmabuffer Backend) (r : RegistrationId) (transport : TransportId) : Prop :=
  ∃ q : RemoteAccessRequest, q.sourceRegistration = r ∧ q.transport = transport ∧
    (s.validateRemoteAccess q).2.outcome = .rejectTransport

/-- The transition commits the pending registration with the answer. -/
def Commits (x : Lts.Transition (System Backend) (Option (Action Backend))) (p : PendingRegistration)
    (bout : BackendRegistration) : Prop :=
  ∃ c, x.label = some (.registerCommit c) ∧ x.pre.clients c = some (.registered p bout)

/-- The record that the transition commits carries the answer; and here, while the registration is live, no request that
names the answer's transport is answered REJECT_TRANSPORT. -/
structure KeepsAnswer (x : Lts.Transition (System Backend) (Option (Action Backend))) (p : PendingRegistration)
    (bout : BackendRegistration) (s : Rdmabuffer Backend) : Prop where
  carried : ∀ rec, x.post.runtime.registrations.lookup p.record.id = some rec → CarriesAnswer rec bout
  accepted : ∀ rec, s.registrations.lookup p.record.id = some rec → rec.lifecycle.isLive = true →
    ¬RefusesTransport s p.record.id bout.transport

/-- Which of its fields reach a record: the provenance always, the others where they are what the record has without
it, and the transport never. -/
structure LeavesAnswer (rec : RegistrationRecord) (bout : BackendRegistration) : Prop where
  transport : rec.transport ≠ bout.transport
  nic : rec.nic = bout.nic ↔ bout.nic = {}
  device : rec.device = bout.device ↔ bout.device = rec.descriptor.device
  provenance : rec.provenance = bout.provenance
  localKey : rec.localKey.provenance = bout.provenance ↔ bout.provenance = .synthetic
  remoteKey : rec.remoteKey.provenance = bout.provenance ↔ bout.provenance = .synthetic

/-! ## The transport of an answer and of a record -/

theorem registerBuffer_transport {b b' : Backend} {d : BufferDescriptor} {ctx : RegistrationContext}
    {bo : RegisterOutcome} {bout : BackendRegistration} (h : IBackend.registerBuffer b d ctx = (b', bo, bout))
    (ho : bo.ok = true) : bout.transport.isValid = true := by
  cases b with
  | synthetic b =>
    have h : onSynthetic (b.registerBuffer d ctx) = (b', bo, bout) := h
    unfold SyntheticBackend.registerBuffer at h
    dsimp only at h
    split at h
    · cases h; cases ho
    · cases h; rfl
  | reference b =>
    have h : onReference (b.registerBuffer d ctx) = (b', bo, bout) := h
    unfold ReferenceBackend.registerBuffer at h
    dsimp only at h
    split at h
    · cases h; cases ho
    · cases h; rfl

/-- The fields of the answer that nothing writes, in a record that is otherwise complete. -/
structure Unanswered (rec : RegistrationRecord) : Prop where
  transport : rec.transport = {}
  nic : rec.nic = {}
  device : rec.device = rec.descriptor.device

/-- Live records and registrations in flight lack the answer, and every answer names a transport. -/
structure AnswersDropped (σ : System Backend) : Prop where
  live : ∀ r rec, σ.runtime.registrations.lookup r = some rec → rec.lifecycle.isLive = true →
    Unanswered rec ∧ rec.freshness = .valid
  pending : ∀ c p, σ.HasPending c p → Unanswered p.record
  made : ∀ c p bout, σ.clients c = some (.registered p bout) → bout.transport.isValid = true

theorem answersDropped_step {σ σ' : System Backend} {l : Option (Action Backend)}
    (h : (interleaved Backend).step σ l σ') (hi : AnswersDropped σ) : AnswersDropped σ' where
  live r rec' hr' hlive := by
    cases liveOrigin h hr' hlive with
    | kept rec n hr hlive he =>
      subst he
      obtain ⟨hu, hv⟩ := hi.live r rec hr hlive
      exact ⟨⟨hu.transport, hu.nic, hu.device⟩, hv⟩
    | rotated rec hl hr hlive he =>
      subst he
      obtain ⟨hu, hv⟩ := hi.live r rec hr hlive
      exact ⟨⟨hu.transport, hu.nic, hu.device⟩, hv⟩
    | committed c p bout hl hc hid he =>
      subst he
      have hu := hi.pending c p (.inr ⟨bout, hc⟩)
      exact ⟨⟨hu.transport, hu.nic, hu.device⟩, rfl⟩
  pending c p hp := by
    rcases hasPending_step h hp with hold | ⟨descriptor, backend, domain, env, b, -, -, rfl⟩
    · exact hi.pending c p hold
    · exact ⟨rfl, rfl, rfl⟩
  made c p bout hc := by
    rcases answered_step h hc with hold | ⟨-, b, b', bo, -, -, he, ho, -⟩
    · exact hi.made c p bout hold
    · exact registerBuffer_transport he ho

theorem answersDropped_run {t : List (Lts.Transition (System Backend) (Option (Action Backend)))} {σ : System Backend}
    (h : (interleaved Backend).Run t σ) : AnswersDropped σ := by
  refine h.inv (I := AnswersDropped) ?_ fun _ _ _ hs hi => answersDropped_step hs hi
  rintro _ rfl
  refine ⟨fun r rec hr => ?_, ?_, fun c p bout hc => ?_⟩
  · cases hr
  · rintro c p (hp | ⟨bout, hp⟩) <;> cases hp
  · cases hc

/-- What of an answer reaches the record that is committed with it. -/
theorem leavesAnswer_commit {p : PendingRegistration} {bout : BackendRegistration} (hu : Unanswered p.record)
    (hne : bout.transport ≠ {}) (snap : AuthoritySnapshot) : LeavesAnswer (commitRecord snap p bout) bout where
  transport he := hne (he.symm.trans hu.transport)
  nic := by
    show p.record.nic = bout.nic ↔ _
    rw [hu.nic]
    exact eq_comm
  device := by
    show p.record.device = bout.device ↔ bout.device = p.record.descriptor.device
    rw [hu.device]
    exact eq_comm
  provenance := rfl
  localKey := eq_comm
  remoteKey := eq_comm

/-! ## Requests that name a transport -/

theorem validateAuthority_ne_transport (snap : AuthoritySnapshot) (env : AuthorityEnvelope) :
    (validateAuthority snap env).outcome ≠ .rejectTransport := by
  unfold validateAuthority
  repeat' split
  all_goals nofun

/-- The checks in front of the one of the transport are passed. -/
structure ReachesTransport (s : Rdmabuffer Backend) (q : RemoteAccessRequest) (rec : RegistrationRecord) (b : Backend) :
    Prop where
  lifecycle : rec.lifecycle ≠ .revoked ∧ rec.lifecycle ≠ .deregistered ∧ rec.lifecycle ≠ .stale ∧
    rec.lifecycle ≠ .revoking
  freshness : rec.freshness = .valid
  authority : Authorized s.authority q.authority
  registrationGeneration : Expects (·.isValid) q.expectedRegistrationGeneration rec.registrationGeneration
  bufferGeneration : Expects (·.isValid) q.expectedBufferGeneration rec.bufferGeneration
  keyGeneration : Expects (·.isValid) q.expectedRemoteKeyGeneration rec.remoteKey.keyGeneration
  unrevoked : rec.remoteKey.revoked = false
  backendNamed : Expects (·.isValid) q.backend rec.backend
  backend : s.backends.lookup rec.backend = some b
  backendGeneration : IBackend.generation b = rec.backendGeneration

/-- A request that names another transport than its record is answered REJECT_TRANSPORT exactly when the checks in front
are passed. -/
theorem rejectTransport_iff {s : Rdmabuffer Backend} {q : RemoteAccessRequest} {rec : RegistrationRecord}
    (hr : s.registrations.lookup q.sourceRegistration = some rec) (hv : q.transport.isValid = true)
    (hne : q.transport ≠ rec.transport) :
    (s.validateRemoteAccess q).2.outcome = .rejectTransport ↔ ∃ b, ReachesTransport s q rec b := by
  unfold validateRemoteAccess
  rw [hr]
  dsimp only
  rw [ite_decision_outcome (by decide), ite_decision_outcome (by decide), ite_decision_outcome (by decide)]
  by_cases ha : (validateAuthority s.authority q.authority).outcome = .allow
  · rw [if_neg (not_not_intro ha), ite_decision_outcome (by decide), ite_decision_outcome (by decide),
      ite_decision_outcome (by decide), ite_decision_outcome (by decide), ite_decision_outcome (by decide)]
    rcases hb : s.backends.lookup rec.backend with _ | b
    · simp only [decision_outcome, reduceCtorEq, and_false, false_iff, not_exists]
      intro b h
      rw [h.backend] at hb
      cases hb
    · dsimp only
      rw [ite_decision_outcome (by decide), if_pos ⟨hv, hne⟩, decision_outcome]
      simp only [not_and_iff_expects, not_or, ne_eq, Decidable.not_not]
      constructor
      · rintro ⟨hl, hl', hf, hrg, hbg, hkg, hu, hbn, hg, -⟩
        exact ⟨b, ⟨hl.1, hl.2.1, hl.2.2, hl'⟩, hf, ha, hrg, hbg, hkg, by simpa using hu, hbn, hb, hg⟩
      · rintro ⟨b', h⟩
        obtain rfl : b = b' := Option.some.inj (hb.symm.trans h.backend)
        exact ⟨⟨h.lifecycle.1, h.lifecycle.2.1, h.lifecycle.2.2.1⟩, h.lifecycle.2.2.2, h.freshness,
          h.registrationGeneration, h.bufferGeneration, h.keyGeneration, by simp [h.unrevoked], h.backendNamed,
          h.backendGeneration, trivial⟩
  · rw [if_pos ha]
    refine iff_of_false (fun h => validateAuthority_ne_transport _ _ h.2.2.2) ?_
    rintro ⟨b, h⟩
    exact ha h.authority

/-- The snapshot has what an envelope must name. -/
structure Presentable (snap : AuthoritySnapshot) : Prop where
  epoch : snap.coordinatorEpoch.isValid = true
  boot : snap.workerBoot.isValid = true
  owner : snap.owner.isValid = true
  node : snap.node.isValid = true

/-- Some envelope is authorized exactly under the presentable snapshots. -/
theorem exists_authorized_iff {snap : AuthoritySnapshot} : (∃ env, Authorized snap env) ↔ Presentable snap := by
  constructor
  · rintro ⟨env, h⟩
    have hc := (authorized_iff snap env).1 h
    exact ⟨hc.epoch.2.1, hc.boot.2.1, hc.owner.2.1, hc.node.2.1⟩
  · intro h
    -- a generation that is left out is not compared
    refine ⟨{ coordinatorEpoch := snap.coordinatorEpoch, workerBoot := snap.workerBoot, owner := snap.owner
              node := snap.node }, (authorized_iff _ _).2 ?_⟩
    exact ⟨⟨h.epoch, h.epoch, rfl⟩, ⟨h.boot, h.boot, rfl⟩, ⟨h.owner, h.owner, rfl⟩, fun hr => Bool.noConfusion hr.1,
      fun hr => Bool.noConfusion hr.1, ⟨h.node, h.node, rfl⟩⟩

/-- A live record has the backend it was registered with, and some envelope is authorized. -/
structure Served (s : Rdmabuffer Backend) (rec : RegistrationRecord) : Prop where
  authority : Presentable s.authority
  backend : ∃ b, s.backends.lookup rec.backend = some b ∧ IBackend.generation b = rec.backendGeneration

/-- Requests that name a transport are refused for it by a live record without one exactly while it is served. -/
theorem refusesTransport_iff {s : Rdmabuffer Backend} {r : RegistrationId} {rec : RegistrationRecord}
    (hr : s.registrations.lookup r = some rec) (hlive : rec.lifecycle.isLive = true) (hf : rec.freshness = .valid)
    (hu : rec.remoteKey.revoked = false) {transport : TransportId} (hv : transport.isValid = true)
    (hne : transport ≠ rec.transport) : RefusesTransport s r transport ↔ Served s rec := by
  constructor
  · rintro ⟨q, rfl, rfl, h⟩
    obtain ⟨b, hreach⟩ := (rejectTransport_iff hr hv hne).1 h
    exact ⟨exists_authorized_iff.1 ⟨_, hreach.authority⟩, b, hreach.backend, hreach.backendGeneration⟩
  · rintro ⟨hp, b, hb, hg⟩
    obtain ⟨env, henv⟩ := exists_authorized_iff.2 hp
    refine ⟨{ sourceRegistration := r, transport := transport, authority := env }, rfl, rfl, ?_⟩
    refine (rejectTransport_iff hr hv hne).2 ⟨b, live_passes hlive, hf, henv, ?_, ?_, ?_, hu, ?_, hb, hg⟩
    all_goals exact .of_invalid rfl

/-! ## Over runs -/

/-- No registration that a run commits carries its backend's answer, and every later state refuses that backend's
transport exactly while the registration is live and served. -/
theorem answer_never_kept (t : List (Lts.Transition (System Backend) (Option (Action Backend)))) (σ : System Backend)
    (h : (interleaved Backend).Run t σ) (x) (hx : x ∈ t) (p : PendingRegistration) (bout : BackendRegistration)
    (hc : Commits x p bout) :
    ¬KeepsAnswer x p bout σ.runtime ∧
      (∃ rec, x.post.runtime.registrations.lookup p.record.id = some rec ∧ LeavesAnswer rec bout) ∧
      ∀ rec, σ.runtime.registrations.lookup p.record.id = some rec → rec.lifecycle.isLive = true →
        (RefusesTransport σ.runtime p.record.id bout.transport ↔ Served σ.runtime rec) := by
  obtain ⟨c, hl, hcl⟩ := hc
  obtain ⟨t₁, t₂, rfl, h₁, hs, -⟩ := h.at_mem hx
  have hpre := answersDropped_run h₁
  have hvalid := hpre.made c p bout hcl
  have hne : bout.transport ≠ {} := by
    intro he
    rw [he] at hvalid
    cases hvalid
  have hpost : x.post.runtime.registrations.lookup p.record.id = some (commitRecord x.pre.runtime.authority p bout) := by
    rw [hl] at hs
    obtain hs : x.post = x.pre.exec (.registerCommit c) := hs
    rw [hs]
    exact committed_lookup hcl
  have hleaves : LeavesAnswer (commitRecord x.pre.runtime.authority p bout) bout :=
    leavesAnswer_commit (hpre.pending c p (.inr ⟨bout, hcl⟩)) hne _
  refine ⟨fun hk => hleaves.transport (hk.carried _ hpost).transport, ⟨_, hpost, hleaves⟩, fun rec hr hlive => ?_⟩
  obtain ⟨hu, hf⟩ := (answersDropped_run h).live _ rec hr hlive
  refine refusesTransport_iff hr hlive hf ((extents_run h).live _ rec hr hlive).unrevoked hvalid ?_
  rw [hu.transport]
  exact hne

open Session

/-- The page up to its commit. -/
def answered : List (Action Backend) := [.registerBegin 0 page synthetic ⟨1⟩ envelope, .registerCall 0]

def committing : Lts.Transition (System Backend) (Option (Action Backend)) :=
  ⟨after answered, some (.registerCommit 0), (after answered).exec (.registerCommit 0)⟩

theorem answer_never_kept_page : ∃ t p bout, (interleaved Backend).Run t committing.post ∧ committing ∈ t ∧
    Commits committing p bout ∧ ¬KeepsAnswer committing p bout committing.post.runtime := by
  obtain ⟨t, h⟩ := run_after answered
  have hs : (interleaved Backend).step committing.pre committing.label committing.post := rfl
  have hrun : (interleaved Backend).Run (t ++ [committing]) committing.post := h.append (.single hs)
  have hx : committing ∈ t ++ [committing] := List.mem_append_right t (List.mem_singleton_self committing)
  have hc : Commits committing _ _ := ⟨0, rfl, rfl⟩
  exact ⟨_, _, _, hrun, hx, hc, (answer_never_kept _ _ hrun _ hx _ _ hc).1⟩

/-- The record of the page lacks the transport that its backend answered, and a write that names it is refused. -/
theorem own_transport_refused : ∃ t σ p bout rec, (interleaved Backend).Run t σ ∧
    σ.clients 0 = some (.registered p bout) ∧
    (σ.exec (.registerCommit 0)).runtime.registrations.lookup p.record.id = some rec ∧
    rec.lifecycle.isLive = true ∧ rec.transport ≠ bout.transport ∧
    ((σ.exec (.registerCommit 0)).runtime.validateRemoteAccess
      { write p.record.id with transport := bout.transport }).2.outcome = .rejectTransport := by
  obtain ⟨t, h⟩ := run_after answered
  exact ⟨t, _, _, _, _, h, rfl, rfl, rfl, by decide, by decide +kernel⟩

end RdmaBuffer
