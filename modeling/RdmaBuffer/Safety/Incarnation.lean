/-
The incarnation fence. The access check compares the caller's envelope with the snapshot, never the
record's boot and epoch with either: a registration is fenced off by a new incarnation only when no
VALID record outlives the change and none is committed from an older incarnation.
-/
import RdmaBuffer.Registry.Access
import RdmaBuffer.Runtime.Execution
import RdmaBuffer.Runtime.RecordStep

namespace RdmaBuffer

open Rdmabuffer

section

variable {β : Type} [IBackend β] [Environment β]

/-- The record was issued under the boot and the epoch of the snapshot. -/
def issuedUnder (snap : AuthoritySnapshot) (rec : RegistrationRecord) : Bool :=
  rec.boot == snap.workerBoot && rec.epoch == snap.coordinatorEpoch

/-- The operation replaces the record of `r` with a recovered one. -/
def AtomicOp.replaces (op : AtomicOp β) (r : RegistrationId) : Bool :=
  op.restores.any fun state => state.registrations.any fun rec => rec.id == r

/-- The step leaves a VALID record of another incarnation than the snapshot it leaves in force. -/
def outlives (σ : System β) : Option (Action β) → Bool
  | some (.atomic op) =>
    σ.runtime.registrations.entries.any fun e =>
      e.2.freshness == .valid && !op.replaces e.1 && !issuedUnder (op.nextAuthority σ.runtime) e.2
  | some (.registerCommit c) =>
    match σ.clients c with
    | some (.registered p _) => !issuedUnder σ.runtime.authority p.record
    | _ => false
  | _ => false

/-- Every VALID record was issued under the current incarnation. -/
def Fenced (s : Rdmabuffer β) : Prop :=
  ∀ r rec, s.registrations.lookup r = some rec → rec.freshness = .valid → issuedUnder s.authority rec = true

/-- A VALID record that a step leaves as it was is of the incarnation the step leaves in force. -/
theorem issuedUnder_kept {σ σ' : System β} {l : Option (Action β)} (h : (interleaved β).step σ l σ')
    (hc : outlives σ l = false) (hi : Fenced σ.runtime) {r : RegistrationId} {rec rec' : RegistrationRecord}
    (hr : σ.runtime.registrations.lookup r = some rec) (hv : rec.freshness = .valid)
    (hr' : σ'.runtime.registrations.lookup r = some rec') (hv' : rec'.freshness = .valid) :
    issuedUnder (authorityAfter σ l) rec = true := by
  cases l with
  | none => exact hi r rec hr hv
  | some a =>
    cases a with
    | atomic op =>
      by_contra hne
      have hm := Table.mem_entries.2 hr
      simp only [outlives, List.any_eq_false, Bool.and_eq_true, not_and, Bool.not_eq_true'] at hc
      have hrep : op.replaces r = true := by
        by_contra hrep
        exact hc _ hm ⟨by simp [hv], by simpa using hrep⟩ (by simpa [authorityAfter] using hne)
      obtain rfl : σ' = σ.exec (.atomic op) := h
      unfold AtomicOp.replaces at hrep
      rcases hs : op.restores with _ | state
      · simp [hs] at hrep
      · rcases (run_restores (s := σ.runtime) hs).registration r with ⟨hno, -⟩ | ⟨rec₁, -, -, hl⟩
        · simp only [hs, Option.any_some, List.any_eq_true, beq_iff_eq] at hrep
          obtain ⟨rec₁, hm₁, hid⟩ := hrep
          exact hno rec₁ hm₁ hid
        · rw [show (σ.exec (.atomic op)).runtime = op.run σ.runtime from rfl, hl, Option.some.injEq] at hr'
          subst hr'
          cases hv'
    | _ => exact hi r rec hr hv

theorem fenced_step {σ σ' : System β} {l : Option (Action β)} (h : (interleaved β).step σ l σ')
    (hc : outlives σ l = false) (hi : Fenced σ.runtime) : Fenced σ'.runtime := by
  intro r rec' hr' hv'
  rw [step_authority h]
  have hs := recordStep h r
  rw [hr'] at hs
  generalize ho : σ.runtime.registrations.lookup r = o at hs
  cases hs with
  | keep => exact issuedUnder_kept h hc hi ho hv' hr' hv'
  | leases rec n =>
    have hk := issuedUnder_kept h hc hi ho hv' hr' hv'
    exact hk
  | destroyed | reallocated | hardRevoked | softRevoked | recovered => cases hv'
  | rotated rec hl hlive =>
    have hk := issuedUnder_kept h hc hi ho hv' hr' hv'
    exact hk
  | committed c p bout o hl hcl hid =>
    subst hl
    have hk : issuedUnder σ.runtime.authority p.record = true := by simpa [outlives, hcl] using hc
    exact hk
  | deregistering c rec hl hcl hd hn =>
    have hk := issuedUnder_kept h hc hi ho hv' hr' hv'
    exact hk
  | failed c d bo rec hl hcl hid =>
    have hk := issuedUnder_kept h hc hi ho hv' hr' hv'
    exact hk

theorem fenced_run {t : List (Lts.Transition (System β) (Option (Action β)))} {σ : System β}
    (h : (interleaved β).Run t σ) (hc : ∀ x ∈ t, outlives x.pre x.label = false) : Fenced σ.runtime :=
  h.inv_of (I := fun σ => Fenced σ.runtime) (by rintro _ rfl r rec hr; cases hr)
    (fun _ _ _ hs hc hi => fenced_step hs hc hi) hc

omit [Environment β] in
/-- An allowed request is still allowed under any other snapshot, with an envelope that is current
there. -/
theorem allow_under {s : Rdmabuffer β} {q : RemoteAccessRequest} (ha : (s.validateRemoteAccess q).2.outcome = .allow)
    {snap : AuthoritySnapshot} {acct : Accounting} {env : AuthorityEnvelope} (he : Authorized snap env) :
    (validateRemoteAccess { s with authority := snap, acct := acct } { q with authority := env }).2.outcome =
      .allow := by
  obtain ⟨rec, b, h⟩ := (allow_iff _ _).1 ha
  exact (allow_iff _ _).2 ⟨rec, b, { h with authority := he }⟩

/-- In every run in which no VALID record outlives its incarnation, ALLOW names a record issued
under the current boot and epoch; and whatever changes the incarnation, a request that was allowed
before is allowed again with a current envelope. -/
theorem allow_is_current_incarnation :
    (∀ (t : List (Lts.Transition (System β) (Option (Action β)))) (σ : System β), (interleaved β).Run t σ →
      (∀ x ∈ t, outlives x.pre x.label = false) → ∀ q, (σ.runtime.validateRemoteAccess q).2.outcome = .allow →
        ∃ rec, σ.runtime.registrations.lookup q.sourceRegistration = some rec ∧
          rec.boot = σ.runtime.authority.workerBoot ∧ rec.epoch = σ.runtime.authority.coordinatorEpoch) ∧
    ∀ (s : Rdmabuffer β) (q : RemoteAccessRequest) (env : AuthorityEnvelope) (op : AtomicOp β),
      ((∃ snap, op = .setAuthority snap) ∨ op = .advanceEpoch ∨ op = .noteParticipantRestart) →
      (s.validateRemoteAccess q).2.outcome = .allow → Authorized (op.run s).authority env →
      ((op.run s).validateRemoteAccess { q with authority := env }).2.outcome = .allow := by
  refine ⟨fun t σ h hc q ha => ?_, fun s q env op hop ha he => ?_⟩
  · obtain ⟨rec, b, hq⟩ := (allow_iff _ _).1 ha
    have := fenced_run h hc _ rec hq.registration hq.freshness
    simp only [issuedUnder, Bool.and_eq_true, beq_iff_eq] at this
    exact ⟨rec, hq.registration, this⟩
  · rcases hop with ⟨snap, rfl⟩ | rfl | rfl
    · exact allow_under ha he
    · exact allow_under ha he
    · exact allow_under ha he

end

open Session

/-- The envelope of the second epoch. -/
def nextEnvelope : AuthorityEnvelope := { envelope with coordinatorEpoch := ⟨2⟩ }

/-- The page is revoked before the epoch advances, and registered again after. -/
def registeredAnew : List (Action Backend) :=
  registration 0 page ++ [.atomic (.revoke ⟨1⟩ .hardRevoke), .atomic .advanceEpoch,
    .registerBegin 0 page Session.synthetic ⟨1⟩ nextEnvelope, .registerCall 0, .registerCommit 0]

/-- The registration that is revoked in time does not outlive its epoch, and the one of the second epoch is allowed. -/
theorem allow_is_current_incarnation_renewed :
    ∃ t, (interleaved Backend).Run t (after registeredAnew) ∧ (∀ x ∈ t, outlives x.pre x.label = false) ∧
      (after registeredAnew).runtime.authority.coordinatorEpoch = ⟨2⟩ ∧
      ∃ q rec, ((after registeredAnew).runtime.validateRemoteAccess q).2.outcome = .allow ∧
        (after registeredAnew).runtime.registrations.lookup q.sourceRegistration = some rec ∧
        rec.boot = (after registeredAnew).runtime.authority.workerBoot ∧
        rec.epoch = (after registeredAnew).runtime.authority.coordinatorEpoch := by
  have hr : (interleaved Backend).Run _ (after registeredAnew) := ⟨{}, rfl, System.path_run _ _⟩
  have hc : ∀ x ∈ System.trace {} (setup.map .atomic ++ registeredAnew), outlives x.pre x.label = false := by
    decide +kernel
  have ha : ((after registeredAnew).runtime.validateRemoteAccess
      { write ⟨2⟩ with authority := nextEnvelope }).2.outcome = .allow := by decide +kernel
  obtain ⟨rec, hrec⟩ := allow_is_current_incarnation.1 _ _ hr hc _ ha
  exact ⟨_, hr, hc, by decide +kernel, _, rec, ha, hrec⟩

/-- A registration of epoch 1 is allowed at epoch 2. -/
theorem older_epoch_allowed :
    ∃ t σ q rec, (interleaved Backend).Run t σ ∧ (σ.runtime.validateRemoteAccess q).2.outcome = .allow ∧
      σ.runtime.registrations.lookup q.sourceRegistration = some rec ∧
      rec.epoch ≠ σ.runtime.authority.coordinatorEpoch := by
  obtain ⟨t, h⟩ := run_after (registration 0 page ++ [.atomic .advanceEpoch])
  exact ⟨t, _, { write ⟨1⟩ with authority := nextEnvelope }, _, h, by decide, rfl, by decide⟩

end RdmaBuffer
