/-
Committing under current authority. What the first section of a registration checks is not checked
again by the second: a registration commits under current authority as long as no operation in
between takes away what it was validated against, and any operation that does takes it away for the
commit.
-/
import RdmaBuffer.Backend.View
import RdmaBuffer.Runtime.Execution
import RdmaBuffer.Runtime.InFlight

namespace RdmaBuffer

open Rdmabuffer

/-- What a registration is validated against: the envelope, the buffer at the record's generation, the
active protection domain, and the backend at the record's generation. -/
structure Current (s : Rdmabuffer Backend) (env : AuthorityEnvelope) (rec : RegistrationRecord) : Prop where
  authorized : Authorized s.authority env
  buffer : ∃ be, s.buffers.lookup rec.bufferId = some be ∧ be.descriptor.generation = rec.bufferGeneration
  domain : ∃ de, s.domains.lookup rec.domainId = some de ∧ de.state = .active
  backend : ∃ b, s.backends.lookup rec.backend = some b ∧ IBackend.generation b = rec.backendGeneration

/-- The operation takes away what a registration in flight was validated against. -/
def disturbs (s : Rdmabuffer Backend) (env : AuthorityEnvelope) (rec : RegistrationRecord) (op : AtomicOp Backend) :
    Bool :=
  !decide (Authorized (op.nextAuthority s) env) ||
    match op with
    | .createBuffer descriptor =>
      bufferTarget s descriptor == rec.bufferId &&
        decide (rec.bufferGeneration.value < descriptor.generation.value)
    | .destroyProtectionDomain d => d == rec.domainId
    | .control id c =>
      id == rec.backend &&
        (s.backends.lookup id).any fun b => IBackend.generation (Backend.control c b) != rec.backendGeneration
    | _ => false

theorem disturbs_authority {s : Rdmabuffer Backend} {env : AuthorityEnvelope} {rec : RegistrationRecord}
    {op : AtomicOp Backend} (h : disturbs s env rec op = false) : Authorized (op.nextAuthority s) env := by
  simpa using (Bool.or_eq_false_iff.1 h).1

/-! ## What keeps a registration current -/

/-- Assigning a backend of unchanged generation keeps every generation. -/
theorem generation_put {m : Table BackendId Backend} {k j : BackendId} {b b' : Backend} {g : BackendGeneration}
    (hk : m.lookup k = some b) (hg : IBackend.generation b' = IBackend.generation b)
    (h : ∃ b, m.lookup j = some b ∧ IBackend.generation b = g) :
    ∃ b, (Table.put k b' m).lookup j = some b ∧ IBackend.generation b = g := by
  obtain ⟨b₀, hb₀, rfl⟩ := h
  rw [Table.lookup_put]
  split
  · rename_i hj
    obtain rfl : b = b₀ := Option.some.inj (hk.symm.trans (hj ▸ hb₀))
    exact ⟨b', rfl, hg⟩
  · exact ⟨b₀, hb₀, rfl⟩

theorem backend_effect {s s' : Rdmabuffer Backend} {env : AuthorityEnvelope} {rec : RegistrationRecord}
    {op : AtomicOp Backend} (he : Effect s op s') (hc : Current s env rec) (hd : disturbs s env rec op = false) :
    ∃ b, s'.backends.lookup rec.backend = some b ∧ IBackend.generation b = rec.backendGeneration := by
  cases he with
  | attached spec b hb h =>
    obtain ⟨b₀, hb₀, hg⟩ := hc.backend
    refine ⟨b₀, ?_, hg⟩
    rw [Table.lookup_put, if_neg (by rintro hk; rw [hk, h] at hb₀; cases hb₀)]
    exact hb₀
  -- only a control that changes the generation of the backend disturbs
  | controlled id c b h =>
    obtain ⟨b₀, hb₀, hg⟩ := hc.backend
    rw [Table.lookup_put]
    split
    · rename_i hk
      have hd := (Bool.or_eq_false_iff.1 hd).2
      simp only [hk, beq_self_eq_true, h, Option.any_some, Bool.true_and, bne_eq_false_iff_eq] at hd
      exact ⟨_, rfl, hd⟩
    · exact ⟨b₀, hb₀, hg⟩
  | queried request rec' b acct hr h =>
    exact generation_put h (by rw [Backend.queryRemoteAccess_fst]) hc.backend
  | rotated k rec' b hr hl h hh => exact generation_put h (Backend.rotateKey_spec _ _ _).1.generation hc.backend
  | recovered bytes state hp => rw [(restore_spec s state).backends]; exact hc.backend
  | _ => exact hc.backend

theorem buffer_effect {s s' : Rdmabuffer Backend} {env : AuthorityEnvelope} {rec : RegistrationRecord}
    {op : AtomicOp Backend} (he : Effect s op s') (hc : Current s env rec) (hd : disturbs s env rec op = false) :
    ∃ be, s'.buffers.lookup rec.bufferId = some be ∧ be.descriptor.generation = rec.bufferGeneration := by
  obtain ⟨be₀, hbe₀, hg⟩ := hc.buffer
  cases he with
  | bufferCreated descriptor nextBuffer acct h =>
    refine ⟨be₀, ?_, hg⟩
    rw [Table.lookup_put, if_neg (by rintro hk; rw [hk, h] at hbe₀; cases hbe₀)]
    exact hbe₀
  -- another buffer, or the step would be a disturbance
  | bufferReallocated descriptor be nextBuffer acct h hlt =>
    refine ⟨be₀, ?_, hg⟩
    rw [Table.lookup_put, if_neg ?_]
    · exact hbe₀
    · intro hk
      obtain rfl : be₀ = be := Option.some.inj (hbe₀.symm.trans (hk ▸ h))
      have hd := (Bool.or_eq_false_iff.1 hd).2
      rw [hg] at hlt
      simp [hk, hlt] at hd
  | recovered bytes state hp =>
    rcases (restore_spec s state).buffer rec.bufferId with hk | ⟨hn, -⟩
    · exact ⟨be₀, hk.trans hbe₀, hg⟩
    · rw [hn] at hbe₀; cases hbe₀
  | _ => exact ⟨be₀, hbe₀, hg⟩

theorem domain_effect {s s' : Rdmabuffer Backend} {env : AuthorityEnvelope} {rec : RegistrationRecord}
    {op : AtomicOp Backend} (he : Effect s op s') (hc : Current s env rec) (hd : disturbs s env rec op = false) :
    ∃ de, s'.domains.lookup rec.domainId = some de ∧ de.state = .active := by
  obtain ⟨de₀, hde₀, hst⟩ := hc.domain
  cases he with
  | domainCreated node process acct =>
    rw [Table.lookup_put]
    split
    · exact ⟨_, rfl, rfl⟩
    · exact ⟨de₀, hde₀, hst⟩
  | domainDestroyed d de acct h =>
    refine ⟨de₀, ?_, hst⟩
    rw [Table.lookup_put, if_neg ?_]
    · exact hde₀
    · rintro rfl
      have hd := (Bool.or_eq_false_iff.1 hd).2
      simp at hd
  | recovered bytes state hp =>
    rcases (restore_spec s state).domain rec.domainId with hk | ⟨hn, -⟩
    · exact ⟨de₀, hk.trans hde₀, hst⟩
    · rw [hn] at hde₀; cases hde₀
  | _ => exact ⟨de₀, hde₀, hst⟩

/-- An operation that does not disturb the registration leaves it current. -/
theorem current_run {s : Rdmabuffer Backend} {env : AuthorityEnvelope} {rec : RegistrationRecord}
    {op : AtomicOp Backend} (hc : Current s env rec) (hd : disturbs s env rec op = false) :
    Current (op.run s) env rec where
  authorized := by rw [run_authority]; exact disturbs_authority hd
  buffer := buffer_effect (op.effect s) hc hd
  domain := domain_effect (op.effect s) hc hd
  backend := backend_effect (op.effect s) hc hd

/-- A section of another registration or of a deregistration leaves the registration current. -/
theorem current_section {σ σ' : System Backend} {a : Action Backend} (h : SectionStep σ a σ')
    (ha : ∀ op, a ≠ .atomic op) {env : AuthorityEnvelope} {rec : RegistrationRecord}
    (hc : Current σ.runtime env rec) : Current σ'.runtime env rec := by
  cases h with
  | atomic op s he => exact absurd rfl (ha op)
  | called c p b b' bo bout hcl hb he =>
    refine ⟨hc.authorized, hc.buffer, hc.domain, generation_put hb ?_ hc.backend⟩
    rcases Backend.registerBuffer_spec he with ⟨-, rfl⟩ | ⟨-, hr⟩
    · rfl
    · exact hr.generation
  | deregisterCalled c d b b' bo hcl hv hb he =>
    exact ⟨hc.authorized, hc.buffer, hc.domain,
      generation_put hb (Backend.deregisterBuffer_spec he).1.generation hc.backend⟩
  | deregisterFinished c d refusal hcl =>
    simp only [System.move, deregisterFinish]
    split <;> exact ⟨hc.authorized, hc.buffer, hc.domain, hc.backend⟩
  | _ => exact ⟨hc.authorized, hc.buffer, hc.domain, hc.backend⟩

/-! ## What takes currentness away -/

theorem createBuffer_reallocates {s : Rdmabuffer Backend} {descriptor : BufferDescriptor} {be : BufferEntry}
    (h : s.buffers.lookup (bufferTarget s descriptor) = some be)
    (hlt : be.descriptor.generation.value < descriptor.generation.value) :
    (s.createBuffer descriptor).1.buffers.lookup (bufferTarget s descriptor) =
      some { be with descriptor := descriptor, registered := false } := by
  unfold createBuffer
  dsimp only
  rw [draws_next]
  unfold bufferTarget at h ⊢
  rw [h]
  have hne : ¬(descriptor.generation.value == be.descriptor.generation.value) = true := fun he => by
    rw [beq_iff_eq.1 he] at hlt
    exact UInt64.lt_irrefl _ hlt
  simp only [if_neg hne, if_neg (UInt64.lt_asymm hlt)]
  rw [Table.lookup_put_self]

/-- An operation that disturbs a registration leaves it not current. -/
theorem not_current_run {s : Rdmabuffer Backend} {env : AuthorityEnvelope} {rec : RegistrationRecord}
    {op : AtomicOp Backend} (hc : Current s env rec) (hd : disturbs s env rec op = true) :
    ¬Current (op.run s) env rec := by
  intro hc'
  -- the authority changes, or one of the three tables does
  rcases Bool.or_eq_true_iff.1 hd with hauth | hd
  · have := hc'.authorized
    rw [run_authority] at this
    simp [this] at hauth
  · cases op with
    | createBuffer descriptor =>
      simp only [Bool.and_eq_true, beq_iff_eq, decide_eq_true_iff] at hd
      obtain ⟨be, hbe, hg⟩ := hc.buffer
      obtain ⟨be', hbe', hg'⟩ := hc'.buffer
      have hre := createBuffer_reallocates (hd.1 ▸ hbe) (hg ▸ hd.2)
      rw [hd.1] at hre
      obtain rfl := Option.some.inj (hbe'.symm.trans hre)
      rw [← hg'] at hd
      exact UInt64.lt_irrefl _ hd.2
    | destroyProtectionDomain d =>
      obtain rfl : d = rec.domainId := by simpa using hd
      obtain ⟨de, hde, -⟩ := hc.domain
      obtain ⟨de', hde', hst⟩ := hc'.domain
      simp only [AtomicOp.run, destroyProtectionDomain, hde] at hde'
      rw [Table.lookup_put_self] at hde'
      obtain rfl := Option.some.inj hde'
      cases hst
    | control id c =>
      simp only [Bool.and_eq_true, beq_iff_eq] at hd
      obtain ⟨rfl, hd⟩ := hd
      obtain ⟨b, hb, -⟩ := hc.backend
      obtain ⟨b', hb', hg'⟩ := hc'.backend
      simp only [AtomicOp.run, Rdmabuffer.control, hb] at hb'
      rw [Table.lookup_put_self] at hb'
      obtain rfl := Option.some.inj hb'
      rw [hb, Option.any_some, bne_iff_ne] at hd
      exact hd hg'
    | _ => cases hd

/-! ## Runs -/

/-- No registration in flight is disturbed by the step. -/
def Undisturbed (x : Lts.Transition (System Backend) (Option (Action Backend))) : Prop :=
  ∀ op, x.label = some (.atomic op) → ∀ c p, x.pre.HasPending c p →
    disturbs x.pre.runtime p.env p.record op = false

/-- Every registration in flight is current and carries the boot of its envelope. -/
def InFlightCurrent (σ : System Backend) : Prop :=
  ∀ c p, σ.HasPending c p → Current σ.runtime p.env p.record ∧ p.record.boot = p.env.workerBoot

theorem current_step {σ σ' : System Backend} {l : Option (Action Backend)} (h : (interleaved Backend).step σ l σ')
    {env : AuthorityEnvelope} {rec : RegistrationRecord} (hc : Current σ.runtime env rec)
    (hd : ∀ op, l = some (.atomic op) → disturbs σ.runtime env rec op = false) : Current σ'.runtime env rec := by
  cases l with
  | none =>
    obtain ⟨hr, -⟩ := h
    refine ⟨by rw [hr.others]; exact hc.authorized, ?_, ?_, ?_⟩
    · rw [← Table.lookup_perm hr.buffers]; exact hc.buffer
    · rw [← Table.lookup_perm hr.domains]; exact hc.domain
    · rw [← Table.lookup_perm hr.backends]; exact hc.backend
  | some a =>
    obtain rfl : σ' = σ.exec a := h
    cases a with
    | atomic op => exact current_run hc (hd op rfl)
    | _ => exact current_section (σ.exec_cases _) (by simp) hc

theorem inFlightCurrent_step {σ σ' : System Backend} {l : Option (Action Backend)}
    (h : (interleaved Backend).step σ l σ') (hd : Undisturbed ⟨σ, l, σ'⟩) (hi : InFlightCurrent σ) :
    InFlightCurrent σ' := by
  intro c p hp
  rcases hasPending_step h hp with hold | ⟨descriptor, backend, domain, env, b, rfl, hv, rfl⟩
  · exact ⟨current_step h (hi c p hold).1 fun op hl => hd op hl c p hold, (hi c p hold).2⟩
  · refine ⟨current_step h ⟨hv.authorized, hv.buffer, hv.domain, b, hv.backend, rfl⟩ (fun op hl => ?_), rfl⟩
    cases hl

/-- In every run whose operations disturb no registration in flight, every commit makes a record ACTIVE
and VALID under current authority; and an operation that disturbs a registration leaves it not
current. -/
theorem commits_under_current_authority (t : List (Lts.Transition (System Backend) (Option (Action Backend))))
    (σ : System Backend) (h : (interleaved Backend).Run t σ) (hd : ∀ x ∈ t, Undisturbed x) :
    (∀ x ∈ t, ∀ c p bout, x.label = some (.registerCommit c) → x.pre.clients c = some (.registered p bout) →
      ∃ rec, x.post.runtime.registrations.lookup p.record.id = some rec ∧ rec.lifecycle = .active ∧
        rec.freshness = .valid ∧ Current x.post.runtime p.env rec ∧
        rec.boot = rec.localKey.boot ∧ rec.boot = rec.remoteKey.boot) ∧
    ∀ s env rec op, Current s env rec → disturbs s env rec op = true → ¬Current (op.run s) env rec := by
  refine ⟨fun x hx c p bout hl hc => ?_, fun s env rec op hc hd => not_current_run hc hd⟩
  obtain ⟨t₁, t₂, rfl, h₁, hs, -⟩ := h.at_mem hx
  have hi : InFlightCurrent x.pre := by
    refine h₁.inv_of (I := InFlightCurrent) (C := Undisturbed) ?_
      (fun _ _ _ hs hd hi => inFlightCurrent_step hs hd hi) fun y hy => hd y (by simp [hy])
    rintro _ rfl c p (hp | ⟨bout, hp⟩) <;> cases hp
  obtain ⟨hcur, hboot⟩ := hi c p (.inr ⟨bout, hc⟩)
  rw [hl] at hs
  have hpost : x.post = x.pre.exec (.registerCommit c) := hs
  have hb : p.record.boot = x.pre.runtime.authority.workerBoot := hboot.trans hcur.authorized.incarnation.2
  refine ⟨commitRecord x.pre.runtime.authority p bout, ?_, rfl, rfl, ?_, hb, hb⟩
  · rw [hpost]
    exact committed_lookup hc
  · rw [hpost, exec_registerCommit hc]
    exact ⟨hcur.authorized, hcur.buffer, hcur.domain, hcur.backend⟩

open Session

/-! ## Operations between the sections -/

/-- The client of a section; a whole operation has none. -/
def Action.client : Action Backend → Option Nat
  | .atomic _ => none
  | .registerBegin c _ _ _ _ | .registerCall c | .registerCommit c | .deregisterBegin c _ | .deregisterCall c
  | .deregisterFinish c => some c

/-- A step leaves alone what other clients have in flight. -/
theorem clients_exec {σ : System Backend} {a : Action Backend} {c : Nat} (h : a.client ≠ some c) :
    (σ.exec a).clients c = σ.clients c := by
  have hmove : ∀ (s : Rdmabuffer Backend) (c' : Nat) (f : Option InFlight), some c' ≠ some c →
      (σ.move s c' f).clients c = σ.clients c := by
    intro s c' f hne
    exact Function.update_of_ne (fun he => hne (congrArg some he.symm)) _ _
  generalize σ.exec a = σ', σ.exec_cases a = hs
  cases hs with
  | idle | atomic => rfl
  | _ => exact hmove _ _ _ h

theorem clients_trace {c : Nat} {as : List (Action Backend)} (h : ∀ a ∈ as, a.client ≠ some c) :
    ∀ σ : System Backend, ∀ x ∈ σ.trace as, x.pre.clients c = σ.clients c := by
  induction as with
  | nil => intro σ x hx; cases hx
  | cons a as ih =>
    intro σ x hx
    rcases List.mem_cons.1 hx with rfl | hx
    · rfl
    · rw [ih (fun b hb => h b (List.mem_cons_of_mem _ hb)) (σ.exec a) x hx]
      exact clients_exec (h a List.mem_cons_self)

/-- The operation takes nothing away from what client 0 has in flight. -/
def sparesFirst (x : Lts.Transition (System Backend) (Option (Action Backend))) : Bool :=
  match x.label, x.pre.clients 0 with
  | some (.atomic op), some (.registering p) => !disturbs x.pre.runtime p.env p.record op
  | some (.atomic op), some (.registered p _) => !disturbs x.pre.runtime p.env p.record op
  | _, _ => true

theorem undisturbed_of_spares {x : Lts.Transition (System Backend) (Option (Action Backend))}
    (hothers : ∀ c, c ≠ 0 → x.pre.clients c = none) (h : sparesFirst x = true) : Undisturbed x := by
  intro op hl c p hp
  by_cases hc : c = 0
  · subst hc
    rcases hp with hp | ⟨bout, hp⟩
    · simpa [sparesFirst, hl, hp] using h
    · simpa [sparesFirst, hl, hp] using h
  · rcases hp with hp | ⟨bout, hp⟩
    · rw [hothers c hc] at hp
      cases hp
    · rw [hothers c hc] at hp
      cases hp

/-- A registration of the page with operations between its sections that take nothing away from it: on another buffer and
another domain, and a control of its backend that keeps the generation. -/
def interrupted : List (Action Backend) :=
  [.registerBegin 0 page synthetic ⟨1⟩ envelope, .atomic (.createBuffer { page with id := ⟨2⟩ }),
    .atomic (.createProtectionDomain ⟨1⟩ ⟨1⟩), .registerCall 0, .atomic (.destroyProtectionDomain ⟨2⟩),
    .atomic (.control synthetic (.synthetic (.configureAtomicSupport true))), .registerCommit 0]

theorem commits_under_current_authority_alone :
    ∃ t x p bout, (interleaved Backend).Run (t ++ [x]) (after interrupted) ∧ (∀ y ∈ t ++ [x], Undisturbed y) ∧
      x.label = some (.registerCommit 0) ∧ x.pre.clients 0 = some (.registered p bout) ∧
      ∃ rec, x.post.runtime.registrations.lookup p.record.id = some rec ∧ rec.lifecycle = .active ∧
        rec.freshness = .valid ∧ Current x.post.runtime p.env rec ∧
        rec.boot = rec.localKey.boot ∧ rec.boot = rec.remoteKey.boot := by
  have hr : (interleaved Backend).Run (System.trace {} (setup.map .atomic ++ interrupted)) (after interrupted) :=
    ⟨{}, rfl, System.path_run _ _⟩
  have hclients : ∀ c, c ≠ 0 → ∀ a ∈ setup.map .atomic ++ interrupted, a.client ≠ some c := by
    intro c hc a ha
    have hfirst : ∀ a ∈ setup.map .atomic ++ interrupted, a.client.all (· == 0) = true := by decide
    intro he
    have := hfirst a ha
    rw [he] at this
    exact hc (by simpa using this)
  have hspares : ∀ x ∈ System.trace {} (setup.map .atomic ++ interrupted), sparesFirst x = true := by decide +kernel
  have hd : ∀ x ∈ System.trace {} (setup.map .atomic ++ interrupted), Undisturbed x := fun x hx =>
    undisturbed_of_spares (fun c hc => clients_trace (hclients c hc) {} x hx) (hspares x hx)
  have hlast : System.trace {} (setup.map .atomic ++ interrupted) =
      (System.trace {} (setup.map .atomic ++ interrupted.take 6)) ++
        [⟨after (interrupted.take 6), some (.registerCommit 0), after interrupted⟩] := rfl
  rw [hlast] at hr hd
  exact ⟨_, _, _, _, hr, hd, rfl, rfl,
    (commits_under_current_authority _ _ hr hd).1 _ (List.mem_append_right _ List.mem_cons_self) 0 _ _ rfl rfl⟩

/-- A registration that was validated at epoch 1 commits at epoch 2. -/
theorem commits_under_older_epoch :
    ∃ t σ p bout, (interleaved Backend).Run t σ ∧ σ.clients 0 = some (.registered p bout) ∧
      ∃ rec, (σ.exec (.registerCommit 0)).runtime.registrations.lookup p.record.id = some rec ∧
        rec.lifecycle = .active ∧ rec.freshness = .valid ∧ ¬Authorized σ.runtime.authority p.env := by
  obtain ⟨t, h⟩ := run_after [.registerBegin 0 page synthetic ⟨1⟩ envelope, .atomic .advanceEpoch, .registerCall 0]
  exact ⟨t, _, _, _, h, rfl, _, rfl, by decide, by decide, by decide⟩

end RdmaBuffer
