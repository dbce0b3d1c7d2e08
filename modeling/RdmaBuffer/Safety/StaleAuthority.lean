/-
Requests under an authority that is not current: whichever entry point they take and whatever else they carry, nothing
of the runtime changes but the two counters of failed accesses.
-/
import RdmaBuffer.Registry.Access
import RdmaBuffer.Runtime.Execution

namespace RdmaBuffer

open Rdmabuffer

/-! ## Which authority is current -/

/-- Both identities are present, and they agree. -/
def Agree {α : Type} (valid : α → Bool) (presented current : α) : Prop :=
  valid presented = true ∧ valid current = true ∧ presented = current

/-- Both generations are present, and they differ. -/
def Reissued {α : Type} (valid : α → Bool) (presented current : α) : Prop :=
  valid presented = true ∧ valid current = true ∧ presented ≠ current

/-- The envelope is current under the snapshot. -/
structure CurrentAuthority (snap : AuthoritySnapshot) (env : AuthorityEnvelope) : Prop where
  epoch : Agree (·.isValid) env.coordinatorEpoch snap.coordinatorEpoch
  boot : Agree (·.isValid) env.workerBoot snap.workerBoot
  owner : Agree (·.isValid) env.owner snap.owner
  ownerGeneration : ¬Reissued (·.isValid) env.ownerGeneration snap.ownerGeneration
  workerGeneration : ¬Reissued (·.isValid) env.workerGeneration snap.workerGeneration
  node : Agree (·.isValid) env.node snap.node

theorem not_stale_iff {α : Type} [BEq α] [LawfulBEq α] {valid : α → Bool} {a b : α} :
    ¬(!valid a || !valid b || a != b) = true ↔ Agree valid a b := by
  unfold Agree
  simp only [Bool.or_eq_true, Bool.not_eq_true', bne_iff_ne, ne_eq, not_or, Bool.not_eq_false, not_not,
    and_assoc]

theorem not_reissued_iff {α : Type} [BEq α] [LawfulBEq α] {valid : α → Bool} {a b : α} :
    ¬(valid a && valid b && a != b) = true ↔ ¬Reissued valid a b := by
  unfold Reissued
  simp only [Bool.and_eq_true, bne_iff_ne, and_assoc]

/-- A check of the authority that refuses is passed by every authorized envelope. -/
theorem ite_makeDecision_allow {o : AccessOutcome} {e : StdString} {c : Prop} [Decidable c] {x : AccessDecision}
    (ho : o ≠ .allow) :
    (if c then makeDecision o e else x).outcome = .allow ↔ ¬c ∧ x.outcome = .allow := by
  split
  · rename_i h; simp [ho, h]
  · rename_i h; simp [h]

/-- `validate_authority` answers ALLOW for the current envelopes. -/
theorem authorized_iff (snap : AuthoritySnapshot) (env : AuthorityEnvelope) :
    Authorized snap env ↔ CurrentAuthority snap env := by
  unfold Authorized validateAuthority
  rw [ite_makeDecision_allow (by decide), ite_makeDecision_allow (by decide), ite_makeDecision_allow (by decide),
    ite_makeDecision_allow (by decide), ite_makeDecision_allow (by decide), ite_makeDecision_allow (by decide),
    not_stale_iff, not_stale_iff, not_stale_iff, not_stale_iff, not_reissued_iff, not_reissued_iff]
  constructor
  · rintro ⟨he, hb, ho, hog, hwg, hn, -⟩
    exact ⟨he, hb, ho, hog, hwg, hn⟩
  · intro h
    exact ⟨h.epoch, h.boot, h.owner, h.ownerGeneration, h.workerGeneration, h.node, rfl⟩

/-! ## What a request under it may do -/

section

variable {β : Type} [IBackend β]

/-- Nothing but the two counters of failed accesses may differ. -/
def CountsRefusal (s s' : Rdmabuffer β) : Prop :=
  ∃ failed stale, s' = { s with
    acct := { s.acct with failedAccessAttempts := failed, staleAccessRejections := stale } }

omit [IBackend β] in
theorem CountsRefusal.refl (s : Rdmabuffer β) : CountsRefusal s s :=
  ⟨s.acct.failedAccessAttempts, s.acct.staleAccessRejections, rfl⟩

omit [IBackend β] in
theorem decision_counts (s : Rdmabuffer β) (o : AccessOutcome) (e : StdString) :
    CountsRefusal s (s.decision o e).1 := by
  unfold decision
  split
  · exact .refl s
  · exact ⟨_, _, rfl⟩

omit [IBackend β] in
/-- A check that rejects with a decision counts at most a refusal when what follows it does. -/
theorem ite_decision_counts {s : Rdmabuffer β} {o : AccessOutcome} {e : StdString} {c : Prop} [Decidable c]
    {x : Rdmabuffer β × AccessDecision} (hx : CountsRefusal s x.1) :
    CountsRefusal s (if c then s.decision o e else x).1 := by
  split
  · exact decision_counts s o e
  · exact hx

/-- Every request under the envelope fails, and leaves the state as it is up to the counters of failed accesses. -/
structure Inert (s : Rdmabuffer β) (env : AuthorityEnvelope) : Prop where
  register : ∀ descriptor backend domain,
    (s.registerBuffer descriptor backend domain env).1 = s ∧
      (s.registerBuffer descriptor backend domain env).2.ok = false
  reuse : ∀ descriptor backend domain,
    (s.registerBufferReuse descriptor backend domain env).1 = s ∧
      (s.registerBufferReuse descriptor backend domain env).2.ok = false
  lease : ∀ r needed, (s.acquireLease r env needed).1 = s ∧ (s.acquireLease r env needed).2.ok = false
  access : ∀ q : RemoteAccessRequest, q.authority = env →
    (s.validateRemoteAccess q).2.outcome ≠ .allow ∧ CountsRefusal s (s.validateRemoteAccess q).1

/-- The check of the authority comes before every answer that could change more than a counter. -/
theorem validateRemoteAccess_unauthorized {s : Rdmabuffer β} {q : RemoteAccessRequest}
    (h : ¬Authorized s.authority q.authority) : CountsRefusal s (s.validateRemoteAccess q).1 := by
  unfold validateRemoteAccess
  rcases s.registrations.lookup q.sourceRegistration with _ | rec
  · exact decision_counts s _ _
  · refine ite_decision_counts (ite_decision_counts (ite_decision_counts ?_))
    rw [if_pos (show (validateAuthority s.authority q.authority).outcome ≠ .allow from h)]
    exact .refl s

theorem inert_of_unauthorized {s : Rdmabuffer β} {env : AuthorityEnvelope} (h : ¬Authorized s.authority env) :
    Inert s env where
  register descriptor backend domain := by
    have hbegin : s.registerBegin descriptor backend domain env = (s, .error _) := if_pos h
    unfold registerBuffer
    rw [hbegin]
    exact ⟨rfl, rfl⟩
  reuse descriptor backend domain := by
    have hreuse : s.registerBufferReuse descriptor backend domain env = (s, _) := if_pos h
    rw [hreuse]
    exact ⟨rfl, rfl⟩
  lease r needed := by
    have hlease : s.acquireLease r env needed = (s, _) := if_pos h
    rw [hlease]
    exact ⟨rfl, rfl⟩
  access q hq := by
    subst hq
    refine ⟨fun hallow => ?_, validateRemoteAccess_unauthorized h⟩
    obtain ⟨rec, b, hallows⟩ := (allow_iff s q).1 hallow
    exact h hallows.authority

/-- Stale authority never mutates state. -/
theorem stale_authority_inert (s : Rdmabuffer β) (env : AuthorityEnvelope) :
    (Authorized s.authority env ↔ CurrentAuthority s.authority env) ∧
      (¬Authorized s.authority env → Inert s env) :=
  ⟨authorized_iff s.authority env, inert_of_unauthorized⟩

end

/-- In a session the envelope of an epoch that has passed is inert. -/
theorem stale_authority_inert_epoch :
    Inert (Session.afterOps [.atomic .advanceEpoch]) Session.envelope :=
  (stale_authority_inert _ _).2 (by decide +kernel)

end RdmaBuffer
