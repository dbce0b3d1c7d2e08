/-
What a runtime stores, as a file will hold it. Every record it holds can be filed; the stored descriptors can
as long as none is stored with generation zero and no two are stored without an identity.
-/
import RdmaBuffer.Persistence.RoundTrip
import RdmaBuffer.Runtime.Execution
import RdmaBuffer.Runtime.InFlight

namespace RdmaBuffer

open Codec Persistence Rdmabuffer

/-- What the parser asks of a record besides its identity. -/
structure RegistrationRecord.Filed (rec : RegistrationRecord) : Prop where
  generation : rec.registrationGeneration.value ≠ 0
  reason : rec.invalidationReason.length ≤ maxCount

/-! ## Records -/

theorem RegistrationRecord.Filed.withdraw {rec : RegistrationRecord} (h : rec.Filed) (lifecycle : RegistrationLifecycle)
    {reason : StdString} (hr : reason.length ≤ maxCount) : (withdraw lifecycle reason rec).Filed :=
  ⟨h.generation, hr⟩

theorem RegistrationRecord.Filed.hardRevoked {rec : RegistrationRecord} (h : rec.Filed) : (hardRevoked rec).Filed := by
  refine ⟨h.generation, ?_⟩
  show (lit "hard revoke").length ≤ maxCount
  decide

theorem RegistrationRecord.Filed.softRevoked {rec : RegistrationRecord} (h : rec.Filed) : (softRevoked rec).Filed := by
  refine ⟨h.generation, ?_⟩
  show (lit "soft revoke").length ≤ maxCount
  decide

section

variable {β : Type} [IBackend β] [Environment β]

/-- Every record can be filed, and is stored under its own id; those in flight can be filed too. -/
structure RecordsFiled (σ : System β) : Prop where
  id : ∀ r rec, σ.runtime.registrations.lookup r = some rec → rec.id = r
  record : ∀ r rec, σ.runtime.registrations.lookup r = some rec → rec.Filed
  pending : ∀ c p, σ.HasPending c p → p.record.Filed

theorem recordsFiled_step {σ σ' : System β} {l : Option (Action β)} (h : (interleaved β).step σ l σ')
    (hi : RecordsFiled σ) : RecordsFiled σ' := by
  constructor
  · intro r rec' hr'
    have hs := recordStep h r
    rw [hr'] at hs
    generalize ho : σ.runtime.registrations.lookup r = o at hs
    cases hs with
    | keep => exact hi.id r rec' ho
    | leases rec | destroyed d rec | reallocated descriptor rec | hardRevoked rec | softRevoked rec | rotated rec
      | deregistering c rec | failed c d bo rec => exact hi.id r rec ho
    | recovered bytes state rec o hl hp hm hid => exact hid
    | committed c p bout o hl hcl hid => exact hid
  · intro r rec' hr'
    have hs := recordStep h r
    rw [hr'] at hs
    generalize ho : σ.runtime.registrations.lookup r = o at hs
    cases hs with
    | keep => exact hi.record r rec' ho
    | leases rec | rotated rec | deregistering c rec | failed c d bo rec => exact { hi.record r rec ho with }
    | destroyed d rec | reallocated descriptor rec => exact (hi.record r rec ho).withdraw _ (by decide)
    | hardRevoked rec => exact (hi.record r rec ho).hardRevoked
    | softRevoked rec => exact (hi.record r rec ho).softRevoked
    | recovered bytes state rec o hl hp hm hid =>
      obtain ⟨hfits, hintact⟩ := parse_sound hp
      exact ⟨hintact.registrationGenerations rec hm, (hfits.2.1.2 rec hm).2⟩
    | committed c p bout o hl hcl hid => exact { hi.pending c p (.inr ⟨bout, hcl⟩) with }
  · intro c p hp
    rcases hasPending_step h hp with hold | ⟨descriptor, backend, domain, env, b, -, -, rfl⟩
    · exact hi.pending c p hold
    · exact ⟨(by decide : (1 : UInt64) ≠ 0), Nat.zero_le _⟩

theorem recordsFiled_run {t : List (Lts.Transition (System β) (Option (Action β)))} {σ : System β}
    (h : (interleaved β).Run t σ) : RecordsFiled σ := by
  apply h.inv (I := RecordsFiled) _ fun _ _ _ hs hi => recordsFiled_step hs hi
  rintro _ rfl
  constructor
  · intro r rec hr
    cases hr
  · intro r rec hr
    cases hr
  · rintro c p (hp | ⟨bout, hp⟩) <;> cases hp

end

/-! ## Buffers -/

section

variable {β : Type}

/-- Another key than `k` holds a descriptor without an identity. -/
def anonymousBeside (s : Rdmabuffer β) (k : BufferId) : Bool :=
  s.buffers.entries.any fun e => e.1 != k && !e.2.descriptor.id.isValid

/-- `create_buffer` stores the descriptor: its buffer is new or has an older generation. -/
def stores (s : Rdmabuffer β) (descriptor : BufferDescriptor) : Bool :=
  match s.buffers.lookup (bufferTarget s descriptor) with
  | none => true
  | some be => decide (be.descriptor.generation.value < descriptor.generation.value)

theorem eq_invalid {k : BufferId} (h : k.isValid = false) : k = {} := by
  simpa [StrongId.isValid, ← StrongId.value_inj] using h

/-- The stored descriptors have generations and an identity each, the one they are stored under; at most one is
stored without. -/
structure BuffersFiled (s : Rdmabuffer β) : Prop where
  named : ∀ k be, s.buffers.lookup k = some be → be.descriptor.id = k ∨ be.descriptor.id.isValid = false
  generation : ∀ k be, s.buffers.lookup k = some be → be.descriptor.generation.value ≠ 0
  anonymous : ∀ k k' be be', s.buffers.lookup k = some be → s.buffers.lookup k' = some be' →
    be.descriptor.id.isValid = false → be'.descriptor.id.isValid = false → k = k'

theorem named_of_not_anonymousBeside {s : Rdmabuffer β} {k : BufferId} (h : anonymousBeside s k = false) {k' : BufferId}
    {be : BufferEntry} (hk : s.buffers.lookup k' = some be) (hne : k' ≠ k) : be.descriptor.id.isValid = true := by
  have := List.any_eq_false.1 h ⟨k', be⟩ (Table.mem_entries.2 hk)
  simpa [hne] using this

theorem exists_of_anonymousBeside {s : Rdmabuffer β} {k : BufferId} (h : anonymousBeside s k = true) :
    ∃ k' be, s.buffers.lookup k' = some be ∧ k' ≠ k ∧ be.descriptor.id.isValid = false := by
  obtain ⟨⟨k', be⟩, he, hv⟩ := List.any_eq_true.1 h
  simp only [bne_iff_ne, Bool.and_eq_true, Bool.not_eq_true'] at hv
  exact ⟨k', be, Table.mem_entries.1 he, hv⟩

theorem BuffersFiled.of_lookup {s s' : Rdmabuffer β} (hi : BuffersFiled s)
    (h : ∀ k, s'.buffers.lookup k = s.buffers.lookup k) : BuffersFiled s' := by
  constructor
  · intro k be hk
    exact hi.named k be (h k ▸ hk)
  · intro k be hk
    exact hi.generation k be (h k ▸ hk)
  · intro k k' be be' hk hk'
    exact hi.anonymous k k' be be' (h k ▸ hk) (h k' ▸ hk')

theorem buffersFiled_put {s s' : Rdmabuffer β} {k : BufferId} {be : BufferEntry} (hi : BuffersFiled s)
    (hs : s'.buffers = Table.put k be s.buffers) (hn : be.descriptor.id = k ∨ be.descriptor.id.isValid = false)
    (hg : be.descriptor.generation.value ≠ 0)
    (ha : be.descriptor.id.isValid = false → anonymousBeside s k = false) : BuffersFiled s' := by
  constructor
  · intro k' be' hk'
    rw [hs, Table.lookup_put] at hk'
    split at hk'
    · rename_i h
      cases hk'
      rw [h]
      exact hn
    · exact hi.named k' be' hk'
  · intro k' be' hk'
    rw [hs, Table.lookup_put] at hk'
    split at hk'
    · cases hk'
      exact hg
    · exact hi.generation k' be' hk'
  · intro k₁ k₂ be₁ be₂ h₁ h₂ ha₁ ha₂
    rw [hs, Table.lookup_put] at h₁ h₂
    split at h₁
    · rename_i hk₁
      cases h₁
      split at h₂
      · rename_i hk₂
        rw [hk₁, hk₂]
      · rename_i hk₂
        rw [named_of_not_anonymousBeside (ha ha₁) h₂ hk₂] at ha₂
        cases ha₂
    · rename_i hk₁
      split at h₂
      · cases h₂
        rw [named_of_not_anonymousBeside (ha ha₂) h₁ hk₁] at ha₁
        cases ha₁
      · exact hi.anonymous k₁ k₂ be₁ be₂ h₁ h₂ ha₁ ha₂

/-- A descriptor is stored under its own identity, or has none. -/
theorem named_bufferTarget (s : Rdmabuffer β) (descriptor : BufferDescriptor) :
    descriptor.id = bufferTarget s descriptor ∨ descriptor.id.isValid = false := by
  unfold bufferTarget
  cases hv : descriptor.id.isValid with
  | true => exact .inl rfl
  | false => exact .inr rfl

theorem buffersFiled_create {s s' : Rdmabuffer β} {descriptor : BufferDescriptor} {registered : Bool}
    (hi : BuffersFiled s)
    (hs : s'.buffers = Table.put (bufferTarget s descriptor)
      { descriptor := descriptor, registered := registered } s.buffers)
    (hc : (descriptor.generation.value == 0 ||
      !descriptor.id.isValid && anonymousBeside s (bufferTarget s descriptor)) = false) : BuffersFiled s' := by
  simp only [Bool.or_eq_false_iff, beq_eq_false_iff_ne] at hc
  refine buffersFiled_put hi hs (named_bufferTarget s descriptor) hc.1 ?_
  intro hv
  simpa only [show descriptor.id.isValid = false from hv, Bool.not_false, Bool.true_and] using hc.2

theorem buffersFiled_restore {s : Rdmabuffer β} {state : PersistableState} (hi : BuffersFiled s)
    (hg : ∀ b ∈ state.buffers, b.generation.value ≠ 0)
    (ha : ∀ b ∈ state.buffers, b.id.isValid = false → anonymousBeside s {} = false) :
    BuffersFiled (restore s state).1 := by
  have hspec := (restore_spec s state).buffer
  -- what is new is stored under its own identity
  have hnew : ∀ k be, (restore s state).1.buffers.lookup k = some be →
      s.buffers.lookup k = some be ∨ be.descriptor ∈ state.buffers ∧ be.descriptor.id = k := by
    intro k be hk
    rcases hspec k with hold | ⟨-, b, hb, hid, hput⟩
    · exact .inl (hold ▸ hk)
    · rw [hput] at hk
      cases hk
      exact .inr ⟨hb, hid⟩
  constructor
  · intro k be hk
    rcases hnew k be hk with hold | ⟨-, hid⟩
    · exact hi.named k be hold
    · exact .inl hid
  · intro k be hk
    rcases hnew k be hk with hold | ⟨hb, -⟩
    · exact hi.generation k be hold
    · exact hg _ hb
  · intro k k' be be' hk hk' hv hv'
    rcases hnew k be hk with hold | ⟨hb, rfl⟩
    · rcases hnew k' be' hk' with hold' | ⟨hb', rfl⟩
      · exact hi.anonymous k k' be be' hold hold' hv hv'
      · by_contra hne
        rw [named_of_not_anonymousBeside (ha _ hb' hv') hold (eq_invalid hv' ▸ hne)] at hv
        cases hv
    · rcases hnew k' be' hk' with hold' | ⟨hb', rfl⟩
      · by_contra hne
        rw [named_of_not_anonymousBeside (ha _ hb hv) hold' (eq_invalid hv ▸ Ne.symm hne)] at hv'
        cases hv'
      · rw [eq_invalid hv, eq_invalid hv']

theorem deregisterFinish_buffers (s : Rdmabuffer β) (d : PendingDeregistration) (refusal : Option RegisterOutcome) :
    (s.deregisterFinish d refusal).1.buffers = s.buffers := by
  unfold deregisterFinish
  split <;> rfl

end

/-! ## Steps that misfile no descriptor -/

section

variable {β : Type} [IBackend β] [Environment β]

/-- The step stores a descriptor of generation zero, or one without an identity beside another. -/
def misfiles (σ : System β) : Option (Action β) → Bool
  | some (.atomic (.createBuffer descriptor)) =>
    stores σ.runtime descriptor &&
      (descriptor.generation.value == 0 ||
        !descriptor.id.isValid && anonymousBeside σ.runtime (bufferTarget σ.runtime descriptor))
  | some (.atomic (.recover (some bytes))) =>
    match parse bytes with
    | .ok state => state.buffers.any (fun b => !b.id.isValid) && anonymousBeside σ.runtime {}
    | .error _ => false
  | _ => false

theorem buffersFiled_effect {σ : System β} {op : AtomicOp β} {s' : Rdmabuffer β} (he : Effect σ.runtime op s')
    (hc : misfiles σ (some (.atomic op)) = false) (hi : BuffersFiled σ.runtime) : BuffersFiled s' := by
  cases he with
  | bufferCreated descriptor nextBuffer acct h ha =>
    refine buffersFiled_create hi rfl ?_
    simpa only [misfiles, stores, h, Bool.true_and] using hc
  | bufferReallocated descriptor be nextBuffer acct h hg ha =>
    refine buffersFiled_create hi rfl ?_
    simpa only [misfiles, stores, h, decide_eq_true hg, Bool.true_and] using hc
  | recovered bytes state h =>
    refine buffersFiled_restore hi (parse_sound h).2.bufferGenerations ?_
    intro b hb hv
    simp only [misfiles, h, Bool.and_eq_false_iff, List.any_eq_false, Bool.not_eq_true'] at hc
    rcases hc with hc | hc
    · exact absurd hv (hc b hb)
    · exact hc
  | _ => exact { hi with }

theorem buffersFiled_section {σ σ' : System β} {a : Action β} (hs : SectionStep σ a σ')
    (hc : misfiles σ (some a) = false) (hi : BuffersFiled σ.runtime) : BuffersFiled σ'.runtime := by
  cases hs with
  | atomic op s h => exact buffersFiled_effect h hc hi
  | deregisterFinished c d refusal hcl =>
    exact hi.of_lookup fun k => congrArg (·.lookup k) (deregisterFinish_buffers σ.runtime d refusal)
  | _ => exact hi.of_lookup fun _ => rfl

theorem buffersFiled_step {σ σ' : System β} {l : Option (Action β)} (h : (interleaved β).step σ l σ')
    (hc : misfiles σ l = false) (hi : BuffersFiled σ.runtime) : BuffersFiled σ'.runtime := by
  cases l with
  | none => exact hi.of_lookup fun k => (Table.lookup_perm h.1.buffers k).symm
  | some a =>
    obtain rfl : σ' = σ.exec a := h
    exact buffersFiled_section (σ.exec_cases a) hc hi

theorem buffersFiled_run {t : List (Lts.Transition (System β) (Option (Action β)))} {σ : System β}
    (h : (interleaved β).Run t σ) (hc : ∀ x ∈ t, misfiles x.pre x.label = false) : BuffersFiled σ.runtime := by
  apply h.inv_of (I := fun σ => BuffersFiled σ.runtime) (C := fun x => misfiles x.pre x.label = false) _
    (fun _ _ _ hs hc hi => buffersFiled_step hs hc hi) hc
  rintro _ rfl
  constructor
  · intro k be hk
    cases hk
  · intro k be hk
    cases hk
  · intro k k' be be' hk
    cases hk

end

end RdmaBuffer
