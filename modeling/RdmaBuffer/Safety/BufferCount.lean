/-
The accounting of buffers. As long as the sum of the lengths does not reach `2 ^ 64`, both counters are exact in every
state of a run and no buffer shrinks by more than the bytes that are counted. That the number of buffers does not reach
`2 ^ 64` is the container's doing: a `std::unordered_map` counts its entries in 64 bits.
-/
import RdmaBuffer.Runtime.AuditStep
import RdmaBuffer.Runtime.Tallies
import RdmaBuffer.Safety.BufferIds

namespace RdmaBuffer

open Rdmabuffer

section

variable {β : Type}

/-! ## The two counts -/

/-- Both counters of buffers are what the table holds. -/
structure BuffersCounted (s : Rdmabuffer β) : Prop where
  count : s.acct.logicalBuffers.value.toNat = s.buffers.entries.length
  bytes : s.acct.liveBufferBytes.value.toNat = Table.total bufferBytes s.buffers

/-- The lengths of all buffers add up to less than the counter can hold. -/
def BytesFit (s : Rdmabuffer β) : Prop := Table.total bufferBytes s.buffers < 2 ^ 64

/-- The number of buffers is one that `std::unordered_map` can hold. -/
def CountFits (s : Rdmabuffer β) : Prop := s.buffers.entries.length < 2 ^ 64

/-! ## One operation -/

theorem createBuffer_count (s : Rdmabuffer β) (d : BufferDescriptor) :
    (s.createBuffer d).1.acct.logicalBuffers =
      if (s.buffers.lookup (bufferTarget s d)).isSome then s.acct.logicalBuffers
      else s.acct.logicalBuffers.increment := by
  have hs : (if d.id.isValid then s else { s with nextBuffer := s.nextBuffer + 1 }) =
      { s with nextBuffer := if d.id.isValid then s.nextBuffer else s.nextBuffer + 1 } := by
    split <;> rfl
  unfold createBuffer bufferTarget
  simp only [hs]
  split
  · rename_i be hbe
    rw [hbe, Option.isSome_some, if_pos rfl]
    split
    · rfl
    · split
      · rfl
      · exact congrArg Accounting.Tallies.logicalBuffers
          (invalidated_tallies (onBuffer (bufferTarget s d)) s.registrations s.acct)
  · rename_i hnone
    rw [hnone]
    rfl

theorem entries_put_new {m : Table BufferId BufferEntry} {k : BufferId} (be : BufferEntry) (h : m.lookup k = none) :
    (Table.put k be m).entries.length = m.entries.length + 1 := by
  rw [← Table.total_one, Table.total_put_new be h, Table.total_one]

theorem entries_put_old {m : Table BufferId BufferEntry} {k : BufferId} (be : BufferEntry) {w : BufferEntry}
    (h : m.lookup k = some w) : (Table.put k be m).entries.length = m.entries.length := by
  have hput := Table.total_put_old (f := fun _ => 1) be h
  rw [Table.total_one, Table.total_one] at hput
  omega

/-- A creation counts the buffer it adds. -/
theorem count_created {s : Rdmabuffer β} (hi : s.acct.logicalBuffers.value.toNat = s.buffers.entries.length)
    (d : BufferDescriptor) (hfit : CountFits (s.createBuffer d).1) :
    (s.createBuffer d).1.acct.logicalBuffers.value.toNat = (s.createBuffer d).1.buffers.entries.length := by
  unfold CountFits at hfit
  rw [createBuffer_count]
  rcases hk : s.buffers.lookup (bufferTarget s d) with _ | be
  · obtain ⟨-, hb, -, -⟩ := createBuffer_new hk
    rw [hb, entries_put_new _ hk] at hfit ⊢
    rw [Option.isSome_none, if_neg Bool.false_ne_true,
      Counter.increment_toNat (by rw [hi, UInt64.toNat_one]; exact hfit), hi, UInt64.toNat_one]
  · rw [Option.isSome_some, if_pos rfl, hi]
    rcases createBuffer_buffers s d with ⟨-, hb⟩ | ⟨-, registered, hb⟩
    · rw [hb]
    · rw [hb, entries_put_old _ hk]

/-- The sum of `f` over the buffers of the file that a recovery adds. -/
def newBuffers (f : BufferEntry → Nat) (s : Rdmabuffer β) (bs : List BufferDescriptor) : Nat :=
  ((Table.absent (fun b => b.id) bs s.buffers).map fun b => f { descriptor := b, registered := false }).sum

/-- The buffer loop of a recovery adds the buffers that are not there, and counts them and their bytes. -/
theorem recoverBuffers_counted (bs : List BufferDescriptor) : ∀ sr : Rdmabuffer β × RecoveryReport,
    (bs.map fun b => b.id).Nodup →
    (∀ f : BufferEntry → Nat, Table.total f (bs.foldl recoverBuffer sr).1.buffers =
        Table.total f sr.1.buffers + newBuffers f sr.1 bs) ∧
      (bs.foldl recoverBuffer sr).1.acct.logicalBuffers.value.toNat =
        (sr.1.acct.logicalBuffers.value.toNat + newBuffers (fun _ => 1) sr.1 bs) % 2 ^ 64 ∧
      (bs.foldl recoverBuffer sr).1.acct.liveBufferBytes.value.toNat =
        (sr.1.acct.liveBufferBytes.value.toNat + newBuffers bufferBytes sr.1 bs) % 2 ^ 64 := by
  induction bs with
  | nil =>
    rintro ⟨s, report⟩ -
    refine ⟨fun f => rfl, ?_, ?_⟩
    · exact (Nat.mod_eq_of_lt s.acct.logicalBuffers.value.toNat_lt).symm
    · exact (Nat.mod_eq_of_lt s.acct.liveBufferBytes.value.toNat_lt).symm
  | cons b bs ih =>
    rintro ⟨s, report⟩ hnd
    rw [List.foldl_cons]
    obtain ⟨htotal, hcount, hbytes⟩ := ih (recoverBuffer (s, report) b) (List.nodup_cons.1 hnd).2
    rw [hcount, hbytes]
    simp only [htotal]
    unfold newBuffers recoverBuffer
    dsimp only
    rcases hb : s.buffers.lookup b.id with _ | be
    · rw [if_neg (by simp), Table.absent_cons_of_absent (fun b : BufferDescriptor => b.id) hb
        { descriptor := b, registered := false } hnd]
      dsimp only
      simp only [Table.total_put_new _ hb, List.map_cons, List.sum_cons, Counter.increment, UInt64.toNat_add,
        UInt64.toNat_one, Nat.mod_add_mod, bufferBytes, Nat.add_assoc, implies_true, true_and]
    · rw [if_pos (by simp), Table.absent_cons_of_present (fun b : BufferDescriptor => b.id) (by simp [hb])]
      exact ⟨fun f => rfl, rfl, rfl⟩

theorem buffersCounted_restore {s : Rdmabuffer β} (hi : BuffersCounted s) {state : PersistableState}
    (hnd : (state.buffers.map fun b => b.id).Nodup) (hbytes : BytesFit (restore s state).1)
    (hcount : CountFits (restore s state).1) : BuffersCounted (restore s state).1 := by
  obtain ⟨htotal, hc, hb⟩ := recoverBuffers_counted state.buffers (s, {}) hnd
  rcases hsr : state.buffers.foldl recoverBuffer (s, {}) with ⟨s₁, report₁⟩
  rw [hsr] at htotal hc hb
  -- the other two loops touch neither the buffers nor their counters
  obtain ⟨domains, acct, report₂, hd, -⟩ := recoverDomains_spec state.domains s₁ report₁
  obtain ⟨n, hacct⟩ := recoverDomains_acct state.domains (s₁, report₁)
  obtain ⟨registrations, report₃, hr, -⟩ :=
    recoverRegistrations_spec state.registrations { s₁ with domains := domains, acct := acct } report₂
  rw [hd] at hacct
  dsimp only at hacct htotal hc hb
  subst hacct
  have hrestore : (restore s state).1.buffers = s₁.buffers ∧
      (restore s state).1.acct.logicalBuffers = s₁.acct.logicalBuffers ∧
      (restore s state).1.acct.liveBufferBytes = s₁.acct.liveBufferBytes := by
    unfold restore
    simp only [hsr, hd, hr]
    exact ⟨trivial, trivial, trivial⟩
  obtain ⟨hbuffers, hlogical, hlive⟩ := hrestore
  unfold BytesFit at hbytes
  unfold CountFits at hcount
  rw [hbuffers, htotal] at hbytes
  rw [hbuffers, ← Table.total_one, htotal] at hcount
  constructor
  · rw [hlogical, hbuffers, hc, ← Table.total_one, htotal, hi.count, ← Table.total_one, Nat.mod_eq_of_lt hcount]
  · rw [hlive, hbuffers, hb, htotal, hi.bytes, Nat.mod_eq_of_lt hbytes]

end

/-! ## Along a run -/

section

variable {β : Type} [IBackend β] [Environment β]

/-- A recovery is refused, or restores the file. -/
theorem recover_run (s : Rdmabuffer β) (file : Option Bytes) : (AtomicOp.recover file : AtomicOp β).run s = s ∨
    ∃ bytes state, Persistence.parse bytes = .ok state ∧
      (AtomicOp.recover file : AtomicOp β).run s = (restore s state).1 := by
  rcases file with _ | bytes
  · exact .inl rfl
  · rcases hp : Persistence.parse bytes with e | state
    · left
      simp only [AtomicOp.run, recover, hp]
    · right
      exact ⟨bytes, state, hp, congrArg Prod.fst (recover_of_parse s hp)⟩

theorem count_run {s : Rdmabuffer β} {op : AtomicOp β} (hc : ∀ d, op ≠ .createBuffer d)
    (hr : ∀ file, op ≠ .recover file) :
    (op.run s).acct.logicalBuffers = s.acct.logicalBuffers ∧ (op.run s).buffers = s.buffers := by
  constructor
  · have ht := op.tallied s
    generalize hs : (op.run s).acct.tallies = a at ht
    have hcount : (op.run s).acct.logicalBuffers = a.logicalBuffers := hs ▸ rfl
    rw [hcount]
    cases ht with
    | buffered d => exact absurd rfl (hc d)
    | recovered file => exact absurd rfl (hr file)
    | _ => rfl
  · have he := op.effect s
    generalize op.run s = s' at he
    cases he with
    | bufferRefused d | bufferCreated d | bufferReallocated d => exact absurd rfl (hc d)
    | recovered => exact absurd rfl (hr _)
    | _ => rfl

theorem buffersCounted_atomic {s : Rdmabuffer β} (hi : BuffersCounted s) (op : AtomicOp β)
    (hbytes : BytesFit (op.run s)) (hcount : CountFits (op.run s)) : BuffersCounted (op.run s) := by
  by_cases hr : ∃ file, op = .recover file
  · obtain ⟨file, rfl⟩ := hr
    rcases recover_run s file with he | ⟨bytes, state, hp, he⟩
    · rw [he]
      exact hi
    · rw [he] at hbytes hcount ⊢
      exact buffersCounted_restore hi (Persistence.parse_sound hp).2.buffers hbytes hcount
  · have hnr : ∀ file, op ≠ .recover file := fun file h => hr ⟨file, h⟩
    have hrec : Op.recovers (some (.atomic op)) = false := by
      cases op with
      | recover file => exact absurd rfl (hnr file)
      | _ => rfl
    refine ⟨?_, bytes_effect (op.effect s) hrec hbytes hi.bytes⟩
    by_cases hc : ∃ d, op = .createBuffer d
    · obtain ⟨d, rfl⟩ := hc
      exact count_created hi.count d hcount
    · obtain ⟨hlogical, hbuffers⟩ := count_run (s := s) (fun d h => hc ⟨d, h⟩) hnr
      rw [hlogical, hbuffers, hi.count]

theorem buffersCounted_step {σ σ' : System β} {l : Option (Action β)} (h : (interleaved β).step σ l σ')
    (hbytes : BytesFit σ'.runtime) (hcount : CountFits σ'.runtime) (hi : BuffersCounted σ.runtime) :
    BuffersCounted σ'.runtime := by
  cases l with
  | none =>
    have hacct : σ'.runtime.acct = σ.runtime.acct := by rw [h.1.others]
    constructor
    · rw [hacct, hi.count, h.1.buffers.length_eq]
    · rw [hacct, hi.bytes, Table.total_perm _ h.1.buffers]
  | some a =>
    obtain rfl : σ' = σ.exec a := h
    by_cases ha : ∃ op, a = .atomic op
    · obtain ⟨op, rfl⟩ := ha
      exact buffersCounted_atomic hi op hbytes hcount
    · have hs := σ.exec_cases a
      obtain ⟨n, hn⟩ := section_tallies hs fun op h => ha ⟨op, h⟩
      have hlogical : (σ.exec a).runtime.acct.logicalBuffers = σ.runtime.acct.logicalBuffers :=
        congrArg Accounting.Tallies.logicalBuffers hn
      have hkept : (σ.exec a).runtime.buffers = σ.runtime.buffers ∧
          (σ.exec a).runtime.acct.liveBufferBytes = σ.runtime.acct.liveBufferBytes := by
        generalize σ.exec a = σ' at hs
        cases hs with
        | atomic op => exact absurd ⟨op, rfl⟩ ha
        | deregisterFinished c d refusal =>
          show (σ.runtime.deregisterFinish d refusal).1.buffers = _ ∧
            (σ.runtime.deregisterFinish d refusal).1.acct.liveBufferBytes = _
          unfold deregisterFinish
          split <;> exact ⟨rfl, rfl⟩
        | _ => exact ⟨rfl, rfl⟩
      constructor
      · rw [hlogical, hkept.1, hi.count]
      · rw [hkept.2, hkept.1, hi.bytes]

/-- The decrement of a creation that shrinks a buffer is accepted. -/
def ShrinksAccepted (s : Rdmabuffer β) : Prop :=
  ∀ d be, s.buffers.lookup (bufferTarget s d) = some be →
    adjustAccepted (invalidated (onBuffer (bufferTarget s d)) s.registrations s.acct).liveBufferBytes
      be.descriptor.byteLength d.byteLength = true

omit [IBackend β] [Environment β] in
theorem BuffersCounted.shrinks {s : Rdmabuffer β} (hi : BuffersCounted s) : ShrinksAccepted s := by
  intro d be hbe
  apply adjustAccepted_of_le
  rw [bytes_rest hi.bytes hbe]
  exact Nat.le_add_left _ _

/-- In every run whose states all have buffers of fewer than `2 ^ 64` bytes together, both counters are exact and no
decrement of a creation is refused. -/
theorem buffers_counted {σ : System β} {t : List (Lts.Transition (System β) (Option (Action β)))}
    (h : (interleaved β).Run t σ) (hbytes : ∀ x ∈ t, BytesFit x.post.runtime)
    (hcount : ∀ x ∈ t, CountFits x.post.runtime) : BuffersCounted σ.runtime ∧ ShrinksAccepted σ.runtime := by
  have hi : BuffersCounted σ.runtime := by
    refine h.inv_of (I := fun σ => BuffersCounted σ.runtime)
      (C := fun x => BytesFit x.post.runtime ∧ CountFits x.post.runtime) ?_ ?_ fun x hx => ⟨hbytes x hx, hcount x hx⟩
    · rintro _ rfl
      exact ⟨rfl, rfl⟩
    · exact fun σ l σ' hs hc hi => buffersCounted_step hs hc.1 hc.2 hi
  exact ⟨hi, hi.shrinks⟩

end

namespace Session

/-- The page, reallocated to twice its length and then to a half of it. -/
def resized : List (Action Backend) :=
  [.atomic (.createBuffer { page with generation := ⟨2⟩, byteLength := 8192 }),
    .atomic (.createBuffer { page with generation := ⟨3⟩, byteLength := 2048 })]

theorem resized_counted : BuffersCounted (after resized).runtime ∧ ShrinksAccepted (after resized).runtime := by
  have hr : (interleaved Backend).Run _ (after resized) := ⟨{}, rfl, System.path_run _ _⟩
  exact buffers_counted hr (by unfold BytesFit; decide +kernel) (by unfold CountFits; decide +kernel)

end Session

end RdmaBuffer
