/-
The saved file is accepted, in every state of a run, exactly when no step of it stores a descriptor with
generation zero or a second one without an identity, and the backends are within the parser's bounds.
-/
import RdmaBuffer.Registry.Save
import RdmaBuffer.Safety.Filed

namespace RdmaBuffer

open Codec Persistence Rdmabuffer

/-! ## What the parser asks of the buffers -/

section

variable {β : Type}

/-- No two stored descriptors have one identity, and none has generation zero. -/
structure BuffersFit (s : Rdmabuffer β) : Prop where
  ids : (s.buffers.entries.map fun e => e.2.descriptor.id).Nodup
  generations : ∀ e ∈ s.buffers.entries, e.2.descriptor.generation.value ≠ 0

theorem BuffersFiled.fit {s : Rdmabuffer β} (hi : BuffersFiled s) : BuffersFit s := by
  constructor
  · apply List.Nodup.map_on _ s.buffers.nodupKeys.nodup
    rintro ⟨k, be⟩ he ⟨k', be'⟩ he' hid
    rw [Table.mem_entries] at he he'
    have hid : be.descriptor.id = be'.descriptor.id := hid
    have hk : k = k' := by
      rcases hi.named k be he with hn | hn
      · rcases hi.named k' be' he' with hn' | hn'
        · rw [← hn, hid, hn']
        · exact hi.anonymous k k' be be' he he' (hid ▸ hn') hn'
      · exact hi.anonymous k k' be be' he he' hn (hid ▸ hn)
    obtain rfl := hk
    rw [he] at he'
    cases he'
    rfl
  · rintro ⟨k, be⟩ he
    exact hi.generation k be (Table.mem_entries.1 he)

/-- At most one of the stored descriptors is without an identity. -/
theorem BuffersFit.anonymous {s : Rdmabuffer β} (h : BuffersFit s) {k k' : BufferId} {be be' : BufferEntry}
    (hk : s.buffers.lookup k = some be) (hk' : s.buffers.lookup k' = some be')
    (hv : be.descriptor.id.isValid = false) (hv' : be'.descriptor.id.isValid = false) : k = k' := by
  have hid : be.descriptor.id = be'.descriptor.id := by
    rw [eq_invalid hv, eq_invalid hv']
  have := List.inj_on_of_nodup_map h.ids (Table.mem_entries.2 hk) (Table.mem_entries.2 hk') hid
  exact congrArg Sigma.fst this

theorem createBuffer_stores {s : Rdmabuffer β} {descriptor : BufferDescriptor} (h : stores s descriptor = true) :
    ∃ registered, (s.createBuffer descriptor).1.buffers =
      Table.put (bufferTarget s descriptor) { descriptor := descriptor, registered := registered } s.buffers := by
  unfold stores bufferTarget at h
  unfold createBuffer bufferTarget
  simp only [draws_next]
  split
  · rename_i be hbe
    simp only [hbe, decide_eq_true_eq] at h
    have hne : (descriptor.generation.value == be.descriptor.generation.value) = false := by
      rw [beq_eq_false_iff_ne]
      intro he
      rw [he] at h
      exact UInt64.lt_irrefl _ h
    rw [hne, if_neg Bool.false_ne_true, if_neg (UInt64.not_lt.2 (UInt64.le_of_lt h))]
    exact ⟨false, rfl⟩
  · exact ⟨false, rfl⟩

theorem not_buffersFit_createBuffer {s : Rdmabuffer β} {descriptor : BufferDescriptor}
    (hs : stores s descriptor = true)
    (hc : (descriptor.generation.value == 0 ||
      !descriptor.id.isValid && anonymousBeside s (bufferTarget s descriptor)) = true) :
    ¬BuffersFit (s.createBuffer descriptor).1 := by
  obtain ⟨registered, hput⟩ := createBuffer_stores hs
  intro hfit
  have hnew : (s.createBuffer descriptor).1.buffers.lookup (bufferTarget s descriptor) =
      some { descriptor := descriptor, registered := registered } := by
    rw [hput, Table.lookup_put_self]
  simp only [Bool.or_eq_true, beq_iff_eq, Bool.and_eq_true, Bool.not_eq_true'] at hc
  rcases hc with hg | ⟨hv, ha⟩
  · exact hfit.generations _ (Table.mem_entries.2 hnew) hg
  · obtain ⟨k, be, hk, hne, hv'⟩ := exists_of_anonymousBeside ha
    have hold : (s.createBuffer descriptor).1.buffers.lookup k = some be := by
      rw [hput, Table.lookup_put, if_neg hne, hk]
    exact hne (hfit.anonymous hold hnew hv' hv)

/-- The buffer loop keeps what is in the table and adds what is not. -/
theorem recoverBuffers_isSome (bs : List BufferDescriptor) {k : BufferId} :
    ∀ sr : Rdmabuffer β × RecoveryReport, (sr.1.buffers.lookup k).isSome ∨ (∃ b ∈ bs, b.id = k) →
      ((bs.foldl recoverBuffer sr).1.buffers.lookup k).isSome := by
  induction bs with
  | nil => simp
  | cons b bs ih =>
    rintro ⟨s, report⟩ h
    rw [List.foldl_cons]
    apply ih
    unfold recoverBuffer
    by_cases hb : (s.buffers.lookup b.id).isSome
    · simp only [if_pos hb]
      rcases h with h | ⟨b', hb', rfl⟩
      · exact .inl h
      · rcases List.mem_cons.1 hb' with rfl | hm
        · exact .inl hb
        · exact .inr ⟨b', hm, rfl⟩
    · simp only [if_neg hb, Table.lookup_put]
      rcases h with h | ⟨b', hb', rfl⟩
      · left
        split
        · rfl
        · exact h
      · rcases List.mem_cons.1 hb' with rfl | hm
        · left
          rw [if_pos rfl]
          rfl
        · exact .inr ⟨b', hm, rfl⟩

/-- Every buffer of the file is in the table afterwards. -/
theorem restore_isSome (s : Rdmabuffer β) {state : PersistableState} {b : BufferDescriptor} (hb : b ∈ state.buffers) :
    ((restore s state).1.buffers.lookup b.id).isSome := by
  have h := recoverBuffers_isSome state.buffers (k := b.id) (s, {}) (.inr ⟨b, hb, rfl⟩)
  rcases hsr : state.buffers.foldl recoverBuffer (s, {}) with ⟨s₁, report⟩
  rw [hsr] at h
  -- the other two loops leave the buffers alone
  obtain ⟨domains, acct, report', hd, -⟩ := recoverDomains_spec state.domains s₁ report
  obtain ⟨registrations, report'', hr, -⟩ :=
    recoverRegistrations_spec state.registrations { s₁ with domains := domains, acct := acct } report'
  unfold restore
  simp only [hsr, hd, hr]
  exact h

theorem not_buffersFit_restore {s : Rdmabuffer β} {state : PersistableState} (hi : BuffersFiled s)
    {b : BufferDescriptor} (hb : b ∈ state.buffers) (hv : b.id.isValid = false)
    (ha : anonymousBeside s {} = true) : ¬BuffersFit (restore s state).1 := by
  have hspec := (restore_spec s state).buffer
  intro hfit
  -- whatever is stored under the absent identity has none
  obtain ⟨be, hbe⟩ := Option.isSome_iff_exists.1 (restore_isSome s hb)
  rw [eq_invalid hv] at hbe
  have hanon : be.descriptor.id.isValid = false := by
    rcases hspec {} with hold | ⟨-, b', -, hid, hput⟩
    · rw [hold] at hbe
      rcases hi.named {} be hbe with hn | hn
      · rw [hn]
        rfl
      · exact hn
    · rw [hput] at hbe
      cases hbe
      show b'.id.isValid = false
      rw [hid]
      rfl
  obtain ⟨k, be', hk, hne, hv'⟩ := exists_of_anonymousBeside ha
  have hk' : (restore s state).1.buffers.lookup k = some be' := by
    rcases hspec k with hold | ⟨hnone, -⟩
    · rw [hold, hk]
    · rw [hk] at hnone
      cases hnone
  exact hne (hfit.anonymous hk' hbe hv' hanon)

/-- A step that misfiles a descriptor leaves buffers that are refused. -/
theorem not_buffersFit_step [IBackend β] [Environment β] {σ σ' : System β} {l : Option (Action β)}
    (h : (interleaved β).step σ l σ')
    (hc : misfiles σ l = true) (hi : BuffersFiled σ.runtime) : ¬BuffersFit σ'.runtime := by
  unfold misfiles at hc
  split at hc
  · rename_i descriptor
    obtain rfl : σ' = σ.exec _ := h
    rw [Bool.and_eq_true] at hc
    exact not_buffersFit_createBuffer hc.1 hc.2
  · rename_i bytes
    obtain rfl : σ' = σ.exec _ := h
    split at hc
    · rename_i state hp
      simp only [Bool.and_eq_true, List.any_eq_true, Bool.not_eq_true'] at hc
      obtain ⟨⟨b, hb, hv⟩, ha⟩ := hc
      show ¬BuffersFit (σ.runtime.recover (some bytes)).1
      rw [recover_of_parse _ hp]
      exact not_buffersFit_restore hi hb hv ha
    · cases hc
  · cases hc

/-- A run whose states all have buffers that are accepted misfiles none. -/
theorem misfiles_none [IBackend β] [Environment β] {t : List (Lts.Transition (System β) (Option (Action β)))}
    {σ : System β} (h : (interleaved β).Run t σ) (hfit : ∀ x ∈ t, BuffersFit x.post.runtime) :
    ∀ x ∈ t, misfiles x.pre x.label = false := by
  obtain ⟨σ₀, h₀, hp⟩ := h
  induction hp with
  | nil => simp
  | @snoc u v t l hp hs ih =>
    simp only [List.forall_mem_append, List.forall_mem_singleton] at hfit ⊢
    have hi := ih hfit.1
    refine ⟨hi, ?_⟩
    by_contra hm
    exact not_buffersFit_step hs (Bool.not_eq_false _ ▸ hm) (buffersFiled_run ⟨σ₀, h₀, hp⟩ hi) hfit.2

end

/-! ## What is saved is accepted -/

section

variable {β : Type}

/-- Every record can be filed, and is stored under its own id. -/
def Fileable (s : Rdmabuffer β) : Prop := ∀ r rec, s.registrations.lookup r = some rec → rec.id = r ∧ rec.Filed

theorem RecordsFiled.fileable {σ : System β} (hi : RecordsFiled σ) : Fileable σ.runtime := by
  intro r rec hr
  exact ⟨hi.id r rec hr, hi.record r rec hr⟩

theorem Fileable.entry {s : Rdmabuffer β} (hi : Fileable s) {e : Sigma fun _ : RegistrationId => RegistrationRecord}
    (he : e ∈ s.registrations.entries) : e.2.id = e.1 ∧ e.2.Filed :=
  hi e.1 e.2 (Table.mem_entries.1 he)

/-- Fewer than `2 ^ 20` buffers, registrations and domains. -/
def BelowLimit (s : Rdmabuffer β) : Prop :=
  s.buffers.entries.length < 2 ^ 20 ∧ s.registrations.entries.length < 2 ^ 20 ∧ s.domains.entries.length < 2 ^ 20
deriving Decidable

/-- As many buffers, registrations and domains as the parser takes. -/
def WithinLimit (s : Rdmabuffer β) : Prop :=
  s.buffers.entries.length ≤ maxCount ∧ s.registrations.entries.length ≤ maxCount ∧ s.domains.entries.length ≤ maxCount

theorem BelowLimit.within {s : Rdmabuffer β} (h : BelowLimit s) : WithinLimit s := by
  have hle : ∀ {n : Nat}, n < 2 ^ 20 → n ≤ maxCount := by
    intro n hn
    exact hn.le.trans (by decide)
  exact ⟨hle h.1, hle h.2.1, hle h.2.2⟩

variable [IBackend β]

/-- What `std::unordered_map`, `std::string` and `std::vector` guarantee of the attached backends. -/
structure BackendsSized (s : Rdmabuffer β) : Prop where
  count : s.backendSummaries.length < 2 ^ 64
  summaries : ∀ b ∈ s.backendSummaries, BackendSized b

/-- The parser's bounds on the attached backends: at most `2 ^ 20`, with their names and lists of domains. -/
def BackendsFit (s : Rdmabuffer β) : Prop :=
  s.backendSummaries.length ≤ maxCount ∧ ∀ b ∈ s.backendSummaries, BackendFits b
deriving Decidable

theorem BackendsFit.sized {s : Rdmabuffer β} (h : BackendsFit s) : BackendsSized s := by
  have hmax : maxCount < 2 ^ 64 := by decide
  refine ⟨h.1.trans_lt hmax, ?_⟩
  intro b hb
  obtain ⟨hname, hdescription, hdomains⟩ := h.2 b hb
  constructor
  · omega
  · omega
  · exact hdomains.trans_lt hmax

/-- The saved file is accepted, and every runtime can recover it. -/
structure Savable (s : Rdmabuffer β) : Prop where
  parsed : ∃ state, parse s.saveBlob = .ok state
  recovers : ∀ s' : Rdmabuffer β, ∃ report, (s'.recover (some s.saveBlob)).2 = .ok report

theorem savable_of_parsed {s : Rdmabuffer β} (h : ∃ state, parse s.saveBlob = .ok state) : Savable s := by
  refine ⟨h, ?_⟩
  obtain ⟨state, hp⟩ := h
  intro s'
  rw [recover_of_parse s' hp]
  exact ⟨_, rfl⟩

theorem sized_persistableState {s : Rdmabuffer β} (hi : Fileable s) (hb : WithinLimit s) (hz : BackendsSized s) :
    Sized s.persistableState := by
  have hmax : maxCount < 2 ^ 64 := by decide
  have hlt : ∀ {n : Nat}, n ≤ maxCount → n < 2 ^ 64 := by
    intro n hn
    exact hn.trans_lt hmax
  have hreason : ∀ e ∈ s.registrations.entries, e.2.invalidationReason.length < 2 ^ 64 := by
    intro e he
    exact hlt (hi.entry he).2.reason
  constructor
  case buffers => simpa [persistableState] using hlt hb.1
  case registrations => simpa [persistableState] using hlt hb.2.1
  case domains => simpa [persistableState] using hlt hb.2.2
  case remoteKeyHistory => simpa [persistableState] using hlt hb.2.1
  case localKeyHistory => simpa [persistableState] using hlt hb.2.1
  case revocationHistory =>
    refine (List.length_filter_le _ _).trans_lt ?_
    simpa using hlt hb.2.1
  case backendCapabilitySnapshot => exact hz.count
  case records =>
    intro rec hr
    obtain ⟨e, he, rfl⟩ := List.mem_map.1 hr
    exact ⟨Nat.two_pow_pos 64, hreason e he⟩
  case revocations =>
    intro reason hr
    obtain ⟨e, he, rfl⟩ := List.mem_map.1 (List.mem_of_mem_filter hr)
    exact hreason e he
  case backends => exact hz.summaries

theorem fits_persistableState {s : Rdmabuffer β} (hi : Fileable s) (hb : WithinLimit s) :
    Fits s.persistableState ↔ BackendsFit s := by
  constructor
  · rintro ⟨-, -, -, -, -, -, hcount, hsummaries⟩
    exact ⟨hcount, hsummaries⟩
  · intro h
    refine ⟨?_, ⟨?_, ?_⟩, ?_, ?_, ?_, ⟨?_, ?_⟩, h.1, h.2⟩
    · simpa [persistableState] using hb.1
    · simpa [persistableState] using hb.2.1
    · intro rec hr
      obtain ⟨e, he, rfl⟩ := List.mem_map.1 hr
      exact ⟨Nat.zero_le _, (hi.entry he).2.reason⟩
    · simpa [persistableState] using hb.2.2
    · simpa [persistableState] using hb.2.1
    · simpa [persistableState] using hb.2.1
    · refine (List.length_filter_le _ _).trans ?_
      simpa using hb.2.1
    · intro reason hr
      obtain ⟨e, he, rfl⟩ := List.mem_map.1 (List.mem_of_mem_filter hr)
      exact (hi.entry he).2.reason

theorem intact_persistableState {s : Rdmabuffer β} (hi : Fileable s) : Intact s.persistableState ↔ BuffersFit s := by
  have hids : s.persistableState.registrations.map (fun rec => rec.id) = s.registrations.entries.map fun e => e.1 := by
    rw [persistableState, List.map_map]
    apply List.map_congr_left
    intro e he
    exact (hi.entry he).1
  constructor
  · intro h
    constructor
    · simpa [persistableState, Function.comp_def] using h.buffers
    · intro e he
      exact h.bufferGenerations _ (List.mem_map_of_mem he)
  · intro h
    constructor
    · simpa [persistableState, Function.comp_def] using h.ids
    · rw [hids]
      exact s.registrations.nodupKeys
    · exact s.domains.nodupKeys
    · intro b hb
      obtain ⟨e, he, rfl⟩ := List.mem_map.1 hb
      exact h.generations e he
    · intro rec hr
      obtain ⟨e, he, rfl⟩ := List.mem_map.1 hr
      exact (hi.entry he).2.generation

/-- What is saved is parsed back exactly when the buffers and the backends fit. -/
theorem parse_saveBlob {s : Rdmabuffer β} (hi : Fileable s) (hb : WithinLimit s) (hz : BackendsSized s)
    {state : PersistableState} :
    parse s.saveBlob = .ok state ↔ state = persisted s.persistableState ∧ BackendsFit s ∧ BuffersFit s := by
  rw [← intact_persistableState hi, ← fits_persistableState hi hb]
  exact parse_serialize (sized_persistableState hi hb hz)

theorem savable_iff_fit {σ : System β} (hi : RecordsFiled σ) (hb : BelowLimit σ.runtime)
    (hz : BackendsSized σ.runtime) :
    Savable σ.runtime ↔ BuffersFit σ.runtime ∧ BackendsFit σ.runtime := by
  have hparse := @parse_saveBlob β _ _ hi.fileable hb.within hz
  constructor
  · rintro ⟨⟨state, hp⟩, -⟩
    exact (hparse.1 hp).2.symm
  · rintro ⟨hbuffers, hbackends⟩
    apply savable_of_parsed
    exact ⟨_, hparse.2 ⟨rfl, hbackends, hbuffers⟩⟩

/-! ## The headline -/

variable [Environment β]

theorem savable_of_run {t : List (Lts.Transition (System β) (Option (Action β)))} {σ : System β}
    (h : (interleaved β).Run t σ) (hc : ∀ x ∈ t, misfiles x.pre x.label = false) (hb : BelowLimit σ.runtime)
    (hf : BackendsFit σ.runtime) : Savable σ.runtime := by
  apply (savable_iff_fit (recordsFiled_run h) hb hf.sized).2
  exact ⟨(buffersFiled_run h hc).fit, hf⟩

/-- In a run that misfiles no descriptor every state with less than `2 ^ 20` entries of each kind is saved in a
file that is accepted, as long as its backends fit; and conversely, where all states of a run are, no step of it
misfiled a descriptor and the backends always fitted. -/
theorem savable_iff (t : List (Lts.Transition (System β) (Option (Action β)))) (σ : System β)
    (h : (interleaved β).Run t σ) :
    ((∀ x ∈ t, misfiles x.pre x.label = false) → BelowLimit σ.runtime → BackendsFit σ.runtime → Savable σ.runtime) ∧
      ((∀ x ∈ t, BelowLimit x.post.runtime) → (∀ x ∈ t, BackendsSized x.post.runtime) →
        ((∀ x ∈ t, Savable x.post.runtime) ↔
          ∀ x ∈ t, misfiles x.pre x.label = false ∧ BackendsFit x.post.runtime)) := by
  refine ⟨savable_of_run h, ?_⟩
  intro hb hz
  constructor
  · intro hs
    have hfit : ∀ x ∈ t, BuffersFit x.post.runtime ∧ BackendsFit x.post.runtime := by
      intro x hx
      obtain ⟨t₁, -, hrun⟩ := h.upto hx
      exact (savable_iff_fit (recordsFiled_run hrun) (hb x hx) (hz x hx)).1 (hs x hx)
    have hfiled := misfiles_none h fun x hx => (hfit x hx).1
    intro x hx
    exact ⟨hfiled x hx, (hfit x hx).2⟩
  · intro hc x hx
    obtain ⟨t₁, hpre, hrun⟩ := h.upto hx
    exact savable_of_run hrun (fun y hy => (hc y (hpre.subset hy)).1) (hb x hx) (hc x hx).2

end

open Session

/-- The setup and the registration of its page: every state on the way is saved in a file that is accepted. -/
theorem savable_iff_page : Savable (after (registration 0 page)).runtime ∧
    ∀ x ∈ System.trace {} (setup.map .atomic ++ registration 0 page), Savable x.post.runtime := by
  have hr : (interleaved Backend).Run (System.trace {} (setup.map .atomic ++ registration 0 page))
      (after (registration 0 page)) := ⟨{}, rfl, System.path_run _ _⟩
  have hc : ∀ x ∈ System.trace {} (setup.map .atomic ++ registration 0 page),
      misfiles x.pre x.label = false := by decide
  have hb : ∀ x ∈ System.trace {} (setup.map .atomic ++ registration 0 page), BelowLimit x.post.runtime := by decide
  have hf : ∀ x ∈ System.trace {} (setup.map .atomic ++ registration 0 page), BackendsFit x.post.runtime := by decide
  have h := savable_iff _ _ hr
  constructor
  · exact h.1 hc (by decide) (by decide)
  · exact (h.2 hb fun x hx => (hf x hx).sized).2 fun x hx => ⟨hc x hx, hf x hx⟩

/-- The page stored twice with the identity left to the runtime. -/
def unnamedPages : List (Action Backend) :=
  [.atomic (.createBuffer { page with id := {} }), .atomic (.createBuffer { page with id := {} })]

/-- Both descriptors are stored without an identity, and the parser takes them for duplicates. -/
theorem unnamed_pages_refused : ∃ t σ, (interleaved Backend).Run t σ ∧ BelowLimit σ.runtime ∧
    σ.runtime.buffers.entries.length = 2 ∧ ¬Savable σ.runtime := by
  have hr : (interleaved Backend).Run (System.trace {} unnamedPages) (System.run {} unnamedPages) :=
    ⟨{}, rfl, System.path_run _ _⟩
  have hb : BelowLimit (System.run {} unnamedPages).runtime := by decide
  have hf : BackendsFit (System.run {} unnamedPages).runtime := by decide
  refine ⟨_, _, hr, hb, by decide, ?_⟩
  intro hs
  have hids := ((savable_iff_fit (recordsFiled_run hr) hb hf.sized).1 hs).1.ids
  revert hids
  decide

end RdmaBuffer
