/-
The pure checks of the headers: authority currentness and range arithmetic.
-/
import RdmaBuffer.Model.Records

namespace RdmaBuffer

/-! ## Authority -/

def makeDecision (outcome : AccessOutcome) (explanation : StdString) : AccessDecision :=
  { outcome := outcome, code := accessOutcomeName outcome, explanation := explanation }

def incarnationMatches (snap : AuthoritySnapshot) (boot : WorkerBootId) : Bool :=
  boot.isValid && snap.workerBoot == boot

def authorityCurrent (snap : AuthoritySnapshot) (env : AuthorityEnvelope) : Bool :=
  incarnationMatches snap env.workerBoot &&
    (snap.coordinatorEpoch.isValid && snap.coordinatorEpoch == env.coordinatorEpoch)

def ownerCurrent (snap : AuthoritySnapshot) (env : AuthorityEnvelope) : Bool :=
  snap.owner.isValid && snap.owner == env.owner && snap.ownerGeneration.isValid &&
    snap.ownerGeneration == env.ownerGeneration

def validateAuthority (snap : AuthoritySnapshot) (env : AuthorityEnvelope) : AccessDecision :=
  if !env.coordinatorEpoch.isValid || !snap.coordinatorEpoch.isValid ||
      env.coordinatorEpoch != snap.coordinatorEpoch then
    makeDecision .rejectStaleEpoch
      (lit "CoordinatorEpoch mismatch: request " ++ intToStr env.coordinatorEpoch.value ++
        lit " is not current " ++ intToStr snap.coordinatorEpoch.value ++ lit ".")
  else if !env.workerBoot.isValid || !snap.workerBoot.isValid || env.workerBoot != snap.workerBoot then
    makeDecision .rejectStaleBoot (lit "WorkerBootId is stale or absent; authority is incarnation-scoped.")
  else if !env.owner.isValid || !snap.owner.isValid || env.owner != snap.owner then
    makeDecision .rejectPermission (lit "Owner is not current for this authority snapshot.")
  else if env.ownerGeneration.isValid && snap.ownerGeneration.isValid &&
      env.ownerGeneration != snap.ownerGeneration then
    makeDecision .rejectPermission (lit "OwnerGeneration mismatch; owner authority has been reissued.")
  else if env.workerGeneration.isValid && snap.workerGeneration.isValid &&
      env.workerGeneration != snap.workerGeneration then
    makeDecision .rejectPermission (lit "WorkerGeneration mismatch; worker incarnation has been reissued.")
  else if !env.node.isValid || !snap.node.isValid || env.node != snap.node then
    makeDecision .rejectPermission (lit "Node identity mismatch.")
  else makeDecision .allow (lit "Authority is current.")

/-- The envelope passes `validateAuthority` against the snapshot. -/
def Authorized (snap : AuthoritySnapshot) (env : AuthorityEnvelope) : Prop :=
  (validateAuthority snap env).outcome = .allow

instance (snap : AuthoritySnapshot) (env : AuthorityEnvelope) : Decidable (Authorized snap env) :=
  inferInstanceAs (Decidable (_ = _))

@[simp] theorem makeDecision_outcome (o : AccessOutcome) (e : StdString) : (makeDecision o e).outcome = o := rfl

/-- An authorized envelope carries the epoch and the boot of the snapshot. -/
theorem Authorized.incarnation {snap : AuthoritySnapshot} {env : AuthorityEnvelope} (h : Authorized snap env) :
    env.coordinatorEpoch = snap.coordinatorEpoch ∧ env.workerBoot = snap.workerBoot := by
  unfold Authorized validateAuthority at h
  split at h
  · cases h
  · rename_i he
    split at h
    · cases h
    · rename_i hb
      simp only [Bool.or_eq_true, not_or, bne_iff_ne, ne_eq, Decidable.not_not] at he hb
      exact ⟨he.2, hb.2⟩

/-! ## Ranges -/

/-- `checked_add`: the sum, unless it exceeds 64 bits. -/
def checkedAdd (a b : UInt64) : Option UInt64 :=
  if a > 0xFFFFFFFFFFFFFFFF - b then none else some (a + b)

def validateRange (d : BufferDescriptor) : BufferValidation :=
  if d.byteLength == 0 then { ok := false, code := lit "ZERO_LENGTH" }
  else if !d.base.isValid && d.domain != .syntheticRemoteCapable && d.domain != .fileBacked then
    { ok := false, code := lit "NULL_OR_INVALID_POINTER" }
  else if d.alignment == 0 then { ok := false, code := lit "ZERO_ALIGNMENT" }
  else if d.alignment != 0 && d.base.address % d.alignment != 0 then
    { ok := false, code := lit "MISALIGNED_BASE" }
  else match checkedAdd d.base.address d.byteLength with
    | none => { ok := false, code := lit "OVERFLOW" }
    | some _ => { ok := true, code := lit "OK" }

/-- Whether `offset`, `length` lie inside the descriptor's bytes. -/
def rangeInside (d : BufferDescriptor) (offset length : UInt64) : Bool :=
  if offset > d.byteLength then false
  else match checkedAdd offset length with
    | none => false
    | some requestedEnd => requestedEnd ≤ d.byteLength

theorem checkedAdd_eq_some {a b c : UInt64} :
    checkedAdd a b = some c ↔ a.toNat + b.toNat < 2 ^ 64 ∧ c = a + b := by
  unfold checkedAdd
  have hb : b.toNat < 2 ^ 64 := b.toNat_lt
  have hsub : ((0xFFFFFFFFFFFFFFFF : UInt64) - b).toNat = 2 ^ 64 - 1 - b.toNat := by
    have hmax : (0xFFFFFFFFFFFFFFFF : UInt64).toNat = 2 ^ 64 - 1 := rfl
    rw [UInt64.toNat_sub_of_le _ _ (by rw [UInt64.le_iff_toNat_le]; omega)]
    rfl
  split
  · rename_i h
    rw [gt_iff_lt, UInt64.lt_iff_toNat_lt, hsub] at h
    simp only [reduceCtorEq, false_iff]; omega
  · rename_i h
    rw [gt_iff_lt, UInt64.lt_iff_toNat_lt, hsub] at h
    rw [Option.some.injEq, eq_comm (a := a + b)]
    exact ⟨fun hc => ⟨by omega, hc⟩, fun hc => hc.2⟩

/-- What `validate_range` accepts. -/
structure ValidRange (d : BufferDescriptor) : Prop where
  length : d.byteLength ≠ 0
  pointer : d.base.isValid = true ∨ d.domain = .syntheticRemoteCapable ∨ d.domain = .fileBacked
  alignment : d.alignment ≠ 0
  aligned : d.base.address % d.alignment = 0
  fits : d.base.address.toNat + d.byteLength.toNat < 2 ^ 64

/-- A check that rejects is passed by every range that is valid. -/
theorem ite_range_ok {c : Prop} [Decidable c] {code : StdString} {x : BufferValidation} :
    (if c then { ok := false, code := code } else x).ok = true ↔ ¬c ∧ x.ok = true := by
  split
  · rename_i h; simp [h]
  · rename_i h; simp [h]

theorem validateRange_ok {d : BufferDescriptor} : (validateRange d).ok = true ↔ ValidRange d := by
  have hfits : (match checkedAdd d.base.address d.byteLength with
      | none => ({ ok := false, code := lit "OVERFLOW" } : BufferValidation)
      | some _ => { ok := true, code := lit "OK" }).ok = true ↔
      d.base.address.toNat + d.byteLength.toNat < 2 ^ 64 := by
    rcases h : checkedAdd d.base.address d.byteLength with _ | e
    · simp only [Bool.false_eq_true, false_iff]
      intro hlt
      rw [checkedAdd_eq_some.2 ⟨hlt, rfl⟩] at h
      cases h
    · exact iff_of_true rfl (checkedAdd_eq_some.1 h).1
  unfold validateRange
  rw [ite_range_ok, ite_range_ok, ite_range_ok, ite_range_ok, hfits]
  simp only [beq_iff_eq, Bool.and_eq_true, Bool.not_eq_true', bne_iff_ne, ne_eq, not_and, Decidable.not_not]
  constructor
  · rintro ⟨hlength, hpointer, hzero, haligned, hfits⟩
    refine ⟨hlength, ?_, hzero, haligned hzero, hfits⟩
    by_cases hv : d.base.isValid = true
    · exact .inl hv
    · by_cases hs : d.domain = .syntheticRemoteCapable
      · exact .inr (.inl hs)
      · exact .inr (.inr (hpointer ⟨by simpa using hv, hs⟩))
  · intro h
    refine ⟨h.length, ?_, h.alignment, fun _ => h.aligned, h.fits⟩
    rintro ⟨hv, hs⟩
    rcases h.pointer with hp | hp | hp
    · rw [hv] at hp
      cases hp
    · exact absurd hp hs
    · exact hp

/-- `rangeInside` decides the inequality on natural numbers, where nothing wraps. -/
theorem rangeInside_iff {d : BufferDescriptor} {offset length : UInt64} :
    rangeInside d offset length = true ↔ offset.toNat + length.toNat ≤ d.byteLength.toNat := by
  have hl : d.byteLength.toNat < 2 ^ 64 := d.byteLength.toNat_lt
  unfold rangeInside
  split
  · rename_i h
    rw [gt_iff_lt, UInt64.lt_iff_toNat_lt] at h
    simp only [Bool.false_eq_true, false_iff]; omega
  · split
    · rename_i hc
      simp only [Bool.false_eq_true, false_iff]
      intro h
      have : checkedAdd offset length = some (offset + length) := checkedAdd_eq_some.2 ⟨by omega, rfl⟩
      rw [this] at hc; cases hc
    · rename_i e hc
      obtain ⟨hlt, rfl⟩ := checkedAdd_eq_some.1 hc
      rw [decide_eq_true_iff, UInt64.le_iff_toNat_le, UInt64.toNat_add, Nat.mod_eq_of_lt hlt]

end RdmaBuffer
