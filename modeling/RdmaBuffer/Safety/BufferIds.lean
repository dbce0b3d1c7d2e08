/-
The ids of buffers. A creation without an id draws a fresh one, in every state of a run, exactly when no step brings
the counter of ids and the table together; and the stored descriptors have the ids they are stored under exactly when
none is stored without one.
-/
import RdmaBuffer.Safety.SavedFile

namespace RdmaBuffer

open Rdmabuffer

section

variable {β : Type}

/-! ## A creation without an id -/

/-- The creation succeeds under an id that was free and leaves everything else there is as it was. -/
structure CreatesFresh (s : Rdmabuffer β) (d : BufferDescriptor) : Prop where
  succeeds : (s.createBuffer d).2.isValid = true
  fresh : s.buffers.lookup (s.createBuffer d).2 = none
  buffers : ∀ id be, s.buffers.lookup id = some be → (s.createBuffer d).1.buffers.lookup id = some be
  registrations : (s.createBuffer d).1.registrations = s.registrations
  leases : (s.createBuffer d).1.leases = s.leases

/-- The next id is an id, and no buffer has it. -/
def nextFree (s : Rdmabuffer β) : Bool := s.nextBuffer != 0 && (s.buffers.lookup ⟨s.nextBuffer⟩).isNone

/-- Every stored descriptor has the id it is stored under. -/
def KeyedById (s : Rdmabuffer β) : Prop := ∀ id be, s.buffers.lookup id = some be → be.descriptor.id = id

theorem createBuffer_nextBuffer (s : Rdmabuffer β) (d : BufferDescriptor) :
    (s.createBuffer d).1.nextBuffer = if d.id.isValid then s.nextBuffer else s.nextBuffer + 1 := by
  have hs : (if d.id.isValid then s else { s with nextBuffer := s.nextBuffer + 1 }) =
      { s with nextBuffer := if d.id.isValid then s.nextBuffer else s.nextBuffer + 1 } := by
    split <;> rfl
  unfold createBuffer
  simp only [hs]
  split
  · split
    · rfl
    · split <;> rfl
  · rfl

/-- A creation stores the descriptor under its target, or leaves the table as it was. -/
theorem createBuffer_buffers (s : Rdmabuffer β) (d : BufferDescriptor) :
    (stores s d = false ∧ (s.createBuffer d).1.buffers = s.buffers) ∨
      stores s d = true ∧ ∃ registered, (s.createBuffer d).1.buffers =
        Table.put (bufferTarget s d) { descriptor := d, registered := registered } s.buffers := by
  rcases hst : stores s d with _ | _
  · refine .inl ⟨rfl, ?_⟩
    have hs : (if d.id.isValid then s else { s with nextBuffer := s.nextBuffer + 1 }) =
        { s with nextBuffer := if d.id.isValid then s.nextBuffer else s.nextBuffer + 1 } := by
      split <;> rfl
    unfold stores bufferTarget at hst
    unfold createBuffer
    simp only [hs]
    split
    · rename_i be hbe
      simp only [hbe, decide_eq_false_iff_not] at hst
      split
      · rfl
      · split
        · rfl
        · rename_i hne hlt
          rw [beq_iff_eq, ← UInt64.toNat_inj] at hne
          rw [UInt64.lt_iff_toNat_lt] at hst hlt
          omega
    · rename_i hnone
      simp [hnone] at hst
  · exact .inr ⟨rfl, createBuffer_stores hst⟩

theorem createBuffer_new {s : Rdmabuffer β} {d : BufferDescriptor}
    (h : s.buffers.lookup (bufferTarget s d) = none) :
    (s.createBuffer d).2 = bufferTarget s d ∧
      (s.createBuffer d).1.buffers = Table.put (bufferTarget s d) { descriptor := d, registered := false } s.buffers ∧
      (s.createBuffer d).1.registrations = s.registrations ∧ (s.createBuffer d).1.leases = s.leases := by
  have hs : (if d.id.isValid then s else { s with nextBuffer := s.nextBuffer + 1 }) =
      { s with nextBuffer := if d.id.isValid then s.nextBuffer else s.nextBuffer + 1 } := by
    split <;> rfl
  unfold bufferTarget at h
  unfold createBuffer bufferTarget
  simp only [hs, h]
  exact ⟨trivial, trivial, trivial, trivial⟩

/-- The answer of a creation is its target or the refusal. -/
theorem createBuffer_answer (s : Rdmabuffer β) (d : BufferDescriptor) :
    (s.createBuffer d).2 = bufferTarget s d ∨ (s.createBuffer d).2 = {} := by
  have hs : (if d.id.isValid then s else { s with nextBuffer := s.nextBuffer + 1 }) =
      { s with nextBuffer := if d.id.isValid then s.nextBuffer else s.nextBuffer + 1 } := by
    split <;> rfl
  unfold createBuffer bufferTarget
  simp only [hs]
  split
  · split
    · exact .inr rfl
    · split
      · exact .inr rfl
      · exact .inl rfl
  · exact .inl rfl

/-- A creation without an id draws a fresh one exactly when the next id is free. -/
theorem createsFresh_iff {s : Rdmabuffer β} {d : BufferDescriptor} (hd : d.id.isValid = false) :
    CreatesFresh s d ↔ nextFree s = true := by
  have htarget : bufferTarget s d = ⟨s.nextBuffer⟩ := by
    unfold bufferTarget
    rw [hd, if_neg Bool.false_ne_true]
  unfold nextFree
  rw [Bool.and_eq_true, bne_iff_ne, Option.isNone_iff_eq_none]
  constructor
  · rintro ⟨hv, hf, -, -, -⟩
    rcases createBuffer_answer s d with ha | ha
    · rw [ha, htarget] at hv hf
      refine ⟨fun h0 => ?_, hf⟩
      rw [h0] at hv
      cases hv
    · rw [ha] at hv
      cases hv
  · rintro ⟨h0, hn⟩
    obtain ⟨ha, hb, hr, hl⟩ := createBuffer_new (htarget ▸ hn)
    rw [htarget] at ha hb
    refine ⟨by simpa [ha, StrongId.isValid] using h0, by rw [ha, hn], ?_, hr, hl⟩
    intro id be hbe
    rw [hb, Table.lookup_put, if_neg]
    · exact hbe
    · rintro rfl
      rw [hn] at hbe
      cases hbe

end

/-! ## Along a run -/

section

variable {β : Type} [IBackend β] [Environment β]

/-- The step brings the counter of ids and the table together: a creation or a recovery under the id that is next, or
a creation without an id after which the next id is taken or is zero. -/
def meetsCounter (s : Rdmabuffer β) : Option (Action β) → Bool
  | some (.atomic (.createBuffer d)) =>
    if d.id.isValid then d.id.value == s.nextBuffer
    else s.nextBuffer + 1 == 0 || (s.buffers.lookup ⟨s.nextBuffer + 1⟩).isSome
  | some (.atomic op) => op.restores.any fun state => state.buffers.any fun b => b.id.value == s.nextBuffer
  | _ => false

/-- The step stores a descriptor without an id, under the one drawn for it. -/
def storesUnnamed (s : Rdmabuffer β) : Option (Action β) → Bool
  | some (.atomic (.createBuffer d)) => !d.id.isValid && s.nextBuffer != 0 && stores s d
  | _ => false

/-- What a step does to the buffers and the counter of their ids. -/
inductive BuffersStep (s : Rdmabuffer β) : Option (Action β) → Rdmabuffer β → Prop
  | kept (l : Option (Action β)) (s' : Rdmabuffer β) (hc : ∀ d, l ≠ some (.atomic (.createBuffer d)))
      (hr : ∀ op, l = some (.atomic op) → op.restores = none)
      (hb : ∀ id, s'.buffers.lookup id = s.buffers.lookup id) (hn : s'.nextBuffer = s.nextBuffer) :
      BuffersStep s l s'
  | created (d : BufferDescriptor) : BuffersStep s (some (.atomic (.createBuffer d))) (s.createBuffer d).1
  | recovered (bytes : Bytes) (state : PersistableState) (hp : Persistence.parse bytes = .ok state) :
      BuffersStep s (some (.atomic (.recover (some bytes)))) (restore s state).1

theorem effect_buffersStep {s s' : Rdmabuffer β} {op : AtomicOp β} (he : Effect s op s') (ho : s' = op.run s) :
    BuffersStep s (some (.atomic op)) s' := by
  by_cases hc : ∃ d, op = .createBuffer d
  · obtain ⟨d, rfl⟩ := hc
    rw [ho]
    exact .created d
  · rcases hr : op.restores with _ | state
    · have hnot : ∀ d, some (Action.atomic op) ≠ some (.atomic (.createBuffer d)) := by
        rintro d ⟨⟩
        exact hc ⟨d, rfl⟩
      have hnone : ∀ op', some (Action.atomic op) = some (.atomic op') → op'.restores = none := by
        rintro _ ⟨⟩
        exact hr
      cases he with
      | bufferRefused d | bufferCreated d | bufferReallocated d => exact absurd ⟨d, rfl⟩ hc
      | recovered bytes state hp => cases (restores_of_parse hp).symm.trans hr
      | _ => exact .kept _ _ hnot hnone (fun _ => rfl) rfl
    · obtain ⟨bytes, rfl, hp⟩ := restores_eq_some hr
      rw [ho, AtomicOp.run, recover_of_parse s hp]
      exact .recovered bytes state hp

theorem buffersStep {σ σ' : System β} {l : Option (Action β)} (h : (interleaved β).step σ l σ') :
    BuffersStep σ.runtime l σ'.runtime := by
  cases l with
  | none =>
    refine .kept _ _ (fun d hd => by cases hd) (fun op ho => by cases ho) ?_ ?_
    · exact fun id => (Table.lookup_perm h.1.buffers id).symm
    · rw [h.1.others]
  | some a =>
    obtain rfl : σ' = σ.exec a := h
    by_cases ha : ∃ op, a = .atomic op
    · obtain ⟨op, rfl⟩ := ha
      exact effect_buffersStep (op.effect σ.runtime) rfl
    · have hc : ∀ d, some a ≠ some (.atomic (.createBuffer d)) := by
        rintro d ⟨⟩
        exact ha ⟨_, rfl⟩
      have hr : ∀ op, some a = some (.atomic op) → op.restores = none := by
        rintro op ⟨⟩
        exact absurd ⟨_, rfl⟩ ha
      have hs := σ.exec_cases a
      generalize σ.exec a = σ' at hs
      cases hs with
      | atomic op => exact absurd ⟨op, rfl⟩ ha
      | deregisterFinished c d refusal =>
        refine .kept _ _ hc hr (fun id => ?_) ?_
        · show (σ.runtime.deregisterFinish d refusal).1.buffers.lookup id = _
          unfold deregisterFinish
          split <;> rfl
        · show (σ.runtime.deregisterFinish d refusal).1.nextBuffer = _
          unfold deregisterFinish
          split <;> rfl
      | _ => exact .kept _ _ hc hr (fun _ => rfl) rfl

omit [IBackend β] in
theorem meetsCounter_kept {s : Rdmabuffer β} {l : Option (Action β)}
    (hc : ∀ d, l ≠ some (.atomic (.createBuffer d))) (hr : ∀ op, l = some (.atomic op) → op.restores = none) :
    meetsCounter s l = false := by
  unfold meetsCounter
  split
  · exact absurd rfl (hc _)
  · rw [hr _ rfl]
    rfl
  · rfl

omit [IBackend β] in
theorem nextFree_created {s : Rdmabuffer β} (hi : nextFree s = true) (d : BufferDescriptor) :
    nextFree (s.createBuffer d).1 = true ↔ meetsCounter s (some (.atomic (.createBuffer d))) = false := by
  unfold nextFree at hi ⊢
  rw [Bool.and_eq_true, bne_iff_ne, Option.isNone_iff_eq_none] at hi ⊢
  obtain ⟨hnz, hnone⟩ := hi
  rw [createBuffer_nextBuffer]
  unfold meetsCounter
  dsimp only
  rcases hv : d.id.isValid with _ | _
  · -- the counter goes on to the id after the one that is taken
    have htarget : bufferTarget s d = ⟨s.nextBuffer⟩ := by
      unfold bufferTarget
      rw [hv, if_neg Bool.false_ne_true]
    obtain ⟨-, hb, -, -⟩ := createBuffer_new (htarget ▸ hnone)
    have hne : (⟨s.nextBuffer + 1⟩ : BufferId) ≠ bufferTarget s d := by
      rw [htarget, ne_eq, StrongId.mk.injEq, ← UInt64.toNat_inj, UInt64.toNat_add, UInt64.toNat_one]
      have hlt := s.nextBuffer.toNat_lt
      omega
    rw [if_neg Bool.false_ne_true, if_neg Bool.false_ne_true, hb, Table.lookup_put, if_neg hne]
    simp
  · have htarget : bufferTarget s d = d.id := by
      unfold bufferTarget
      rw [hv, if_pos rfl]
    rw [if_pos rfl, if_pos rfl, beq_eq_false_iff_ne]
    constructor
    · rintro ⟨-, hfree⟩ heq
      have hid : bufferTarget s d = ⟨s.nextBuffer⟩ := by rw [htarget, ← heq]
      obtain ⟨-, hb, -, -⟩ := createBuffer_new (hid ▸ hnone)
      rw [hb, hid, Table.lookup_put_self] at hfree
      cases hfree
    · intro hne
      have hne : (⟨s.nextBuffer⟩ : BufferId) ≠ bufferTarget s d := by
        rw [htarget]
        intro h
        exact hne (congrArg StrongId.value h).symm
      refine ⟨hnz, ?_⟩
      rcases createBuffer_buffers s d with ⟨-, hb⟩ | ⟨-, registered, hb⟩
      · rw [hb, hnone]
      · rw [hb, Table.lookup_put, if_neg hne, hnone]

omit [IBackend β] in
theorem nextFree_recovered {s : Rdmabuffer β} (hi : nextFree s = true) {bytes : Bytes} {state : PersistableState}
    (hp : Persistence.parse bytes = .ok state) : nextFree (restore s state).1 = true ↔
      meetsCounter s (some (.atomic (.recover (some bytes)) : Action β)) = false := by
  have hspec := restore_spec s state
  unfold nextFree at hi ⊢
  rw [Bool.and_eq_true, bne_iff_ne, Option.isNone_iff_eq_none] at hi ⊢
  obtain ⟨hnz, hnone⟩ := hi
  simp only [hspec.nextBuffer, meetsCounter, restores_of_parse hp, Option.any_some, List.any_eq_false, beq_iff_eq]
  constructor
  · rintro ⟨-, hfree⟩ b hb heq
    -- a buffer of the file is in the table afterwards
    have hsome := restore_isSome s hb
    have hid : b.id = ⟨s.nextBuffer⟩ := by rw [← heq]
    rw [hspec.nextBuffer] at hfree
    rw [hid, hfree] at hsome
    cases hsome
  · intro hno
    refine ⟨hnz, ?_⟩
    rcases hspec.buffer ⟨s.nextBuffer⟩ with hold | ⟨-, b, hb, hid, -⟩
    · rw [hspec.nextBuffer, hold, hnone]
    · exact absurd (congrArg StrongId.value hid) (hno b hb)

theorem nextFree_step {σ σ' : System β} {l : Option (Action β)} (h : (interleaved β).step σ l σ')
    (hi : nextFree σ.runtime = true) : nextFree σ'.runtime = true ↔ meetsCounter σ.runtime l = false := by
  have hs := buffersStep h
  generalize σ'.runtime = s' at hs
  cases hs with
  | kept _ _ hc hr hb hn =>
    refine iff_of_true ?_ (meetsCounter_kept hc hr)
    unfold nextFree at hi ⊢
    rw [hn, hb, hi]
  | created d => exact nextFree_created hi d
  | recovered bytes state hp => exact nextFree_recovered hi hp

omit [IBackend β] [Environment β] in
/-- A stored descriptor keeps the table keyed exactly if it has the id it is stored under. -/
theorem keyedById_put {s s' : Rdmabuffer β} (hi : KeyedById s) {k : BufferId} {be : BufferEntry}
    (hb : s'.buffers = Table.put k be s.buffers) : KeyedById s' ↔ be.descriptor.id = k := by
  constructor
  · intro h
    exact h k be (by rw [hb, Table.lookup_put_self])
  · intro hk id be' hbe
    rw [hb] at hbe
    rcases Table.lookup_put_some hbe with ⟨hid, rfl⟩ | ⟨-, hbe⟩
    · rw [hid, hk]
    · exact hi id be' hbe

theorem keyedById_step {σ σ' : System β} {l : Option (Action β)} (h : (interleaved β).step σ l σ')
    (hi : KeyedById σ.runtime) : KeyedById σ'.runtime ↔ storesUnnamed σ.runtime l = false := by
  have hs := buffersStep h
  generalize σ'.runtime = s' at hs
  cases hs with
  | kept _ _ hc hr hb hn =>
    refine iff_of_true (fun id be hbe => hi id be ((hb id).symm.trans hbe)) ?_
    unfold storesUnnamed
    split
    · exact absurd rfl (hc _)
    · rfl
  | recovered bytes state hp =>
    refine iff_of_true (fun id be hbe => ?_) rfl
    rcases (restore_spec σ.runtime state).buffer id with hold | ⟨-, b, -, hid, hnew⟩
    · exact hi id be (hold.symm.trans hbe)
    · obtain rfl := Option.some.inj (hnew.symm.trans hbe)
      exact hid
  | created d =>
    unfold storesUnnamed
    dsimp only
    rcases createBuffer_buffers σ.runtime d with ⟨hst, hb⟩ | ⟨hst, registered, hb⟩
    · rw [hst, Bool.and_false]
      refine iff_of_true (fun id be hbe => ?_) rfl
      rw [hb] at hbe
      exact hi id be hbe
    · rw [hst, Bool.and_true, keyedById_put hi hb, bufferTarget]
      rcases hv : d.id.isValid with _ | _
      · -- the descriptor keeps the id zero, and is stored under the counter's
        rw [if_neg Bool.false_ne_true, Bool.not_false, Bool.true_and, bne_eq_false_iff_eq, eq_invalid hv]
        constructor
        · exact fun hid => (congrArg StrongId.value hid).symm
        · intro h0
          rw [h0]
      · rw [if_pos rfl]
        exact iff_of_true rfl rfl

/-- In every run, a creation without an id draws a fresh one in all states reached exactly when no step brings the
counter of ids and the table together, and all stored descriptors have the ids they are stored under exactly when no
step stores one without an id. -/
theorem buffer_ids_iff {σ : System β} {t : List (Lts.Transition (System β) (Option (Action β)))}
    (h : (interleaved β).Run t σ) :
    ((∀ x ∈ t, ∀ d : BufferDescriptor, d.id.isValid = false → CreatesFresh x.post.runtime d) ↔
      ∀ x ∈ t, meetsCounter x.pre.runtime x.label = false) ∧
    ((∀ x ∈ t, KeyedById x.post.runtime) ↔ ∀ x ∈ t, storesUnnamed x.pre.runtime x.label = false) := by
  constructor
  · have hfree : (∀ x ∈ t, nextFree x.post.runtime = true) ↔ ∀ x ∈ t, meetsCounter x.pre.runtime x.label = false := by
      refine h.inv_iff (I := fun σ => nextFree σ.runtime = true)
        (C := fun x => meetsCounter x.pre.runtime x.label = false) ?_ fun σ l σ' hs hi => nextFree_step hs hi
      rintro _ rfl
      rfl
    rw [← hfree]
    refine forall₂_congr fun x _ => ⟨fun hc => ?_, fun hf d hd => (createsFresh_iff hd).2 hf⟩
    exact (createsFresh_iff rfl).1 (hc {} rfl)
  · refine h.inv_iff (I := fun σ => KeyedById σ.runtime)
      (C := fun x => storesUnnamed x.pre.runtime x.label = false) ?_ fun σ l σ' hs hi => keyedById_step hs hi
    rintro _ rfl id be hbe
    cases hbe

end

/-! ## A page without an id -/

namespace Session

/-- The page, with its id left to the runtime. -/
def unnamed : BufferDescriptor := { page with id := {} }

/-- The page under its explicit id 1, and then one without an id: it is refused as a duplicate of the page. -/
theorem unnamed_refused :
    ∃ t, (interleaved Backend).Run t (after []) ∧ unnamed.id.isValid = false ∧
      ((after []).runtime.createBuffer unnamed).2.isValid = false ∧ ¬CreatesFresh (after []).runtime unnamed ∧
      ¬KeyedById (System.exec {} (.atomic (.createBuffer unnamed) : Action Backend)).runtime := by
  have hno : ((after []).runtime.createBuffer unnamed).2.isValid = false := by decide +kernel
  refine ⟨_, ⟨{}, rfl, System.path_run _ _⟩, rfl, hno, ?_, ?_⟩
  · intro h
    rw [h.succeeds] at hno
    cases hno
  · intro h
    have hid := h ⟨1⟩ { descriptor := unnamed, registered := false } rfl
    cases hid

/-- A page under the explicit id 7, and then one without an id. -/
def namedApart : List (Action Backend) := [.atomic (.createBuffer { page with id := ⟨7⟩ })]

theorem unnamed_created_apart :
    ∃ t, (interleaved Backend).Run t (System.run {} namedApart) ∧
      (∀ x ∈ t, ∀ d : BufferDescriptor, d.id.isValid = false → CreatesFresh x.post.runtime d) ∧
      ∀ x ∈ t, KeyedById x.post.runtime := by
  have hr : (interleaved Backend).Run _ (System.run {} namedApart) := ⟨{}, rfl, System.path_run _ _⟩
  obtain ⟨hfresh, hkeyed⟩ := buffer_ids_iff hr
  exact ⟨_, hr, hfresh.2 (by decide +kernel), hkeyed.2 (by decide +kernel)⟩

end Session

end RdmaBuffer
