/-
The complete currentness predicate: `validate_authority` against the two partial predicates beside it, fact by fact, for
envelopes that present, omit or get wrong each of the seven facts.
-/
import RdmaBuffer.Safety.StaleAuthority

namespace RdmaBuffer

open Rdmabuffer

/-- Every fact of the envelope is current under the snapshot. -/
structure FullyCurrent (snap : AuthoritySnapshot) (env : AuthorityEnvelope) : Prop where
  authority : authorityCurrent snap env = true
  owner : ownerCurrent snap env = true
  workerGeneration : Agree (·.isValid) env.workerGeneration snap.workerGeneration
  node : Agree (·.isValid) env.node snap.node
  process : Agree (·.isValid) env.process snap.process

/-- The envelope presents all of its facts. -/
structure Complete (env : AuthorityEnvelope) : Prop where
  epoch : env.coordinatorEpoch.isValid = true
  boot : env.workerBoot.isValid = true
  owner : env.owner.isValid = true
  ownerGeneration : env.ownerGeneration.isValid = true
  workerGeneration : env.workerGeneration.isValid = true
  node : env.node.isValid = true
  process : env.process.isValid = true

/-- `validate_authority` allows what is current in every fact and nothing else, and nothing that omits a fact. -/
structure CompletelyValidated (snap : AuthoritySnapshot) (env : AuthorityEnvelope) : Prop where
  allow_iff : (validateAuthority snap env).outcome = .allow ↔ FullyCurrent snap env
  omitted : ¬Complete env → (validateAuthority snap env).outcome ≠ .allow

/-- The four identities agree, neither generation has been reissued, and yet a generation is absent on one of the sides
or the process is absent or another one. -/
structure Overlooked (snap : AuthoritySnapshot) (env : AuthorityEnvelope) : Prop where
  current : CurrentAuthority snap env
  missed : ¬Agree (·.isValid) env.ownerGeneration snap.ownerGeneration ∨
    ¬Agree (·.isValid) env.workerGeneration snap.workerGeneration ∨ ¬Agree (·.isValid) env.process snap.process

/-! ## The partial predicates -/

/-- A valid fact of one side that the other side equals is presented by both. -/
theorem agree_iff {α : Type} [BEq α] [LawfulBEq α] {valid : α → Bool} {presented current : α} :
    Agree valid presented current ↔ (valid current && current == presented) = true := by
  unfold Agree
  rw [Bool.and_eq_true, beq_iff_eq]
  constructor
  · rintro ⟨-, hcurrent, heq⟩
    exact ⟨hcurrent, heq.symm⟩
  · rintro ⟨hcurrent, rfl⟩
    exact ⟨hcurrent, hcurrent, rfl⟩

theorem Agree.not_reissued {α : Type} {valid : α → Bool} {a b : α} (h : Agree valid a b) : ¬Reissued valid a b :=
  fun hr => hr.2.2 h.2.2

theorem incarnationMatches_iff (snap : AuthoritySnapshot) (boot : WorkerBootId) :
    incarnationMatches snap boot = true ↔ Agree (·.isValid) boot snap.workerBoot := by
  unfold incarnationMatches Agree
  rw [Bool.and_eq_true, beq_iff_eq]
  constructor
  · rintro ⟨hvalid, rfl⟩
    exact ⟨hvalid, hvalid, rfl⟩
  · rintro ⟨hvalid, -, rfl⟩
    exact ⟨hvalid, rfl⟩

theorem authorityCurrent_iff (snap : AuthoritySnapshot) (env : AuthorityEnvelope) :
    authorityCurrent snap env = true ↔
      Agree (·.isValid) env.workerBoot snap.workerBoot ∧
        Agree (·.isValid) env.coordinatorEpoch snap.coordinatorEpoch := by
  unfold authorityCurrent
  rw [Bool.and_eq_true]
  exact and_congr (incarnationMatches_iff snap env.workerBoot) agree_iff.symm

theorem ownerCurrent_iff (snap : AuthoritySnapshot) (env : AuthorityEnvelope) :
    ownerCurrent snap env = true ↔
      Agree (·.isValid) env.owner snap.owner ∧ Agree (·.isValid) env.ownerGeneration snap.ownerGeneration := by
  unfold ownerCurrent
  rw [Bool.and_assoc, Bool.and_eq_true, agree_iff, agree_iff]

/-! ## The complete one -/

theorem FullyCurrent.current {snap : AuthoritySnapshot} {env : AuthorityEnvelope} (h : FullyCurrent snap env) :
    CurrentAuthority snap env := by
  obtain ⟨hboot, hepoch⟩ := (authorityCurrent_iff snap env).1 h.authority
  obtain ⟨howner, hgeneration⟩ := (ownerCurrent_iff snap env).1 h.owner
  exact ⟨hepoch, hboot, howner, hgeneration.not_reissued, h.workerGeneration.not_reissued, h.node⟩

theorem FullyCurrent.complete {snap : AuthoritySnapshot} {env : AuthorityEnvelope} (h : FullyCurrent snap env) :
    Complete env := by
  obtain ⟨hboot, hepoch⟩ := (authorityCurrent_iff snap env).1 h.authority
  obtain ⟨howner, hgeneration⟩ := (ownerCurrent_iff snap env).1 h.owner
  exact ⟨hepoch.1, hboot.1, howner.1, hgeneration.1, h.workerGeneration.1, h.node.1, h.process.1⟩

/-- The facts that `validate_authority` does not insist on are all that separates the two. -/
theorem fullyCurrent_iff (snap : AuthoritySnapshot) (env : AuthorityEnvelope) :
    FullyCurrent snap env ↔ CurrentAuthority snap env ∧ ¬Overlooked snap env := by
  constructor
  · intro h
    have hgeneration := ((ownerCurrent_iff snap env).1 h.owner).2
    refine ⟨h.current, fun hover => ?_⟩
    rcases hover.missed with hmissed | hmissed | hmissed
    · exact hmissed hgeneration
    · exact hmissed h.workerGeneration
    · exact hmissed h.process
  · rintro ⟨h, hover⟩
    have hfacts : Agree (·.isValid) env.ownerGeneration snap.ownerGeneration ∧
        Agree (·.isValid) env.workerGeneration snap.workerGeneration ∧
        Agree (·.isValid) env.process snap.process := by
      by_contra hmissed
      exact hover ⟨h, by simpa only [not_and_or] using hmissed⟩
    exact
      { authority := (authorityCurrent_iff snap env).2 ⟨h.boot, h.epoch⟩
        owner := (ownerCurrent_iff snap env).2 ⟨h.owner, hfacts.1⟩
        workerGeneration := hfacts.2.1
        node := h.node
        process := hfacts.2.2 }

/-- `validate_authority` is the complete currentness predicate for an envelope iff it overlooks nothing there. -/
theorem completelyValidated_iff (snap : AuthoritySnapshot) (env : AuthorityEnvelope) :
    CompletelyValidated snap env ↔ ¬Overlooked snap env := by
  have hallow : (validateAuthority snap env).outcome = .allow ↔ CurrentAuthority snap env := authorized_iff snap env
  constructor
  · intro h hover
    have hfully := h.allow_iff.1 (hallow.2 hover.current)
    exact ((fullyCurrent_iff snap env).1 hfully).2 hover
  · intro hover
    have hiff : (validateAuthority snap env).outcome = .allow ↔ FullyCurrent snap env := by
      rw [hallow, fullyCurrent_iff, and_iff_left hover]
    exact ⟨hiff, fun hincomplete h => hincomplete (hiff.1 h).complete⟩

/-- An envelope that omits its generations and its process passes as the current one. -/
theorem omitted_generation_allowed :
    ¬CompletelyValidated Session.snapshot { Session.envelope with
      ownerGeneration := {}, workerGeneration := {}, process := {} } :=
  fun h => h.omitted (fun hcomplete => absurd hcomplete.ownerGeneration (by decide)) (by decide)

end RdmaBuffer
