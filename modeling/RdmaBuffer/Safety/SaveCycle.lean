/-
Saving what was recovered. A fresh runtime that recovers a file holds what the file says and nothing else; its
own file is accepted, in whatever order its tables are iterated, and recovers to the same tables.
-/
import RdmaBuffer.Safety.RecoveryMerge
import RdmaBuffer.Safety.SavedFile

namespace RdmaBuffer

open Codec Persistence Rdmabuffer

/-! ## A runtime that holds a file -/

section

variable {β : Type}

/-- The tables of the runtime hold what a recovery makes of the state, and nothing else. -/
structure Loaded (state : PersistableState) (s : Rdmabuffer β) : Prop where
  buffer : ∀ id be, s.buffers.lookup id = some be ↔
    ∃ b ∈ state.buffers, b.id = id ∧ be = { descriptor := b, registered := false }
  domain : ∀ d de, s.domains.lookup d = some de ↔ d ∈ state.domains ∧ de = { state := .active, generation := ⟨1⟩ }
  registration : ∀ r rec, s.registrations.lookup r = some rec ↔
    ∃ rec₀ ∈ state.registrations, rec₀.id = r ∧ rec = recoveredRecord rec₀
  authority : s.authority = state.authoritySnapshot

/-- The domain loop keeps what is in the table and adds what is not. -/
theorem recoverDomains_isSome (ds : List ProtectionDomainId) {d : ProtectionDomainId} :
    ∀ sr : Rdmabuffer β × RecoveryReport, (sr.1.domains.lookup d).isSome ∨ d ∈ ds →
      ((ds.foldl recoverDomain sr).1.domains.lookup d).isSome := by
  induction ds with
  | nil => simp
  | cons d' ds ih =>
    rintro ⟨s, report⟩ h
    rw [List.foldl_cons]
    apply ih
    unfold recoverDomain
    by_cases hd : (s.domains.lookup d').isSome
    · simp only [if_pos hd]
      rcases h with h | h
      · exact .inl h
      · rcases List.mem_cons.1 h with rfl | hm
        · exact .inl hd
        · exact .inr hm
    · simp only [if_neg hd, Table.lookup_put]
      rcases h with h | h
      · left
        split
        · rfl
        · exact h
      · rcases List.mem_cons.1 h with rfl | hm
        · left
          rw [if_pos rfl]
          rfl
        · exact .inr hm

/-- Every protection domain of the file is in the table afterwards. -/
theorem restore_domain_isSome (s : Rdmabuffer β) {state : PersistableState} {d : ProtectionDomainId}
    (hd : d ∈ state.domains) : ((restore s state).1.domains.lookup d).isSome := by
  have h := recoverDomains_isSome state.domains (d := d) (state.buffers.foldl recoverBuffer (s, {})) (.inr hd)
  rcases hsr : state.domains.foldl recoverDomain (state.buffers.foldl recoverBuffer (s, {})) with ⟨s₁, report⟩
  rw [hsr] at h
  -- the last loop leaves the domains alone
  obtain ⟨registrations, report', hr, -⟩ := recoverRegistrations_spec state.registrations s₁ report
  unfold restore
  simp only [hsr, hr]
  exact h

/-- The domain loop adds only domains of the file. -/
theorem recoverDomains_new (ds : List ProtectionDomainId) {d : ProtectionDomainId} (hd : d ∉ ds) :
    ∀ sr : Rdmabuffer β × RecoveryReport, (ds.foldl recoverDomain sr).1.domains.lookup d = sr.1.domains.lookup d := by
  induction ds with
  | nil => intro sr; rfl
  | cons d' ds ih =>
    rintro ⟨s, report⟩
    rw [List.mem_cons, not_or] at hd
    rw [List.foldl_cons, ih hd.2]
    unfold recoverDomain
    by_cases hs : (s.domains.lookup d').isSome
    · simp only [if_pos hs]
    · simp only [if_neg hs, Table.lookup_put, if_neg hd.1]

theorem restore_domain_other (s : Rdmabuffer β) {state : PersistableState} {d : ProtectionDomainId}
    (hd : d ∉ state.domains) : (restore s state).1.domains.lookup d = s.domains.lookup d := by
  have h := recoverDomains_new state.domains hd (state.buffers.foldl recoverBuffer (s, {}))
  rcases hsr : state.domains.foldl recoverDomain (state.buffers.foldl recoverBuffer (s, {})) with ⟨s₁, report⟩
  obtain ⟨buffers, acct, report₀, hb, -⟩ := recoverBuffers_spec state.buffers s {}
  obtain ⟨registrations, report', hr, -⟩ := recoverRegistrations_spec state.registrations s₁ report
  rw [hsr, hb] at h
  unfold restore
  simp only [hsr, hr]
  exact h

/-- The buffers of a runtime that was restored from nothing are those of the file, none of them registered. -/
theorem restored_buffer_iff {state : PersistableState} (hi : Intact state) (backends : Table BackendId β)
    {id : BufferId} {be : BufferEntry} :
    (restore { backends := backends } state).1.buffers.lookup id = some be ↔
      ∃ b ∈ state.buffers, b.id = id ∧ be = { descriptor := b, registered := false } := by
  have hspec := restore_spec { backends := backends } state
  constructor
  · intro hk
    rcases hspec.buffer id with hold | ⟨-, b, hm, hid, hnew⟩
    · rw [hold] at hk
      cases hk
    · rw [hnew] at hk
      exact ⟨b, hm, hid, (Option.some.inj hk).symm⟩
  · rintro ⟨b, hm, rfl, rfl⟩
    obtain ⟨be, hbe⟩ := Option.isSome_iff_exists.1 (restore_isSome { backends := backends } hm)
    rcases hspec.buffer b.id with hold | ⟨-, b', hm', hid, hnew⟩
    · rw [hold] at hbe
      cases hbe
    · rw [hnew, List.inj_on_of_nodup_map hi.buffers hm' hm hid]

/-- Its domains are those of the file, active in their first generation. -/
theorem restored_domain_iff (state : PersistableState) (backends : Table BackendId β) {d : ProtectionDomainId}
    {de : DomainEntry} :
    (restore { backends := backends } state).1.domains.lookup d = some de ↔
      d ∈ state.domains ∧ de = { state := .active, generation := ⟨1⟩ } := by
  have hspec := restore_spec { backends := backends } state
  constructor
  · intro hk
    have hm : d ∈ state.domains := by
      by_contra hm
      rw [restore_domain_other _ hm] at hk
      cases hk
    rcases hspec.domain d with hold | ⟨-, hnew⟩
    · rw [hold] at hk
      cases hk
    · rw [hnew] at hk
      exact ⟨hm, (Option.some.inj hk).symm⟩
  · rintro ⟨hm, rfl⟩
    obtain ⟨de, hde⟩ := Option.isSome_iff_exists.1 (restore_domain_isSome { backends := backends } hm)
    rcases hspec.domain d with hold | ⟨-, hnew⟩
    · rw [hold] at hde
      cases hde
    · exact hnew

/-- Its registrations are those of the file, as recovery leaves them. -/
theorem restored_registration_iff {state : PersistableState} (hi : Intact state) (backends : Table BackendId β)
    {r : RegistrationId} {rec : RegistrationRecord} :
    (restore { backends := backends } state).1.registrations.lookup r = some rec ↔
      ∃ rec₀ ∈ state.registrations, rec₀.id = r ∧ rec = recoveredRecord rec₀ := by
  constructor
  · intro hk
    rcases (restore_spec { backends := backends } state).registration r with ⟨-, hold⟩ | ⟨rec₀, hm, hid, hnew⟩
    · rw [hold] at hk
      cases hk
    · rw [hnew] at hk
      exact ⟨rec₀, hm, hid, (Option.some.inj hk).symm⟩
  · rintro ⟨rec₀, hm, rfl, rfl⟩
    exact restore_registration _ hi.registrations hm

/-- A recovery into a runtime with empty tables loads the file. -/
theorem loaded_restore {state : PersistableState} (hi : Intact state) (backends : Table BackendId β) :
    Loaded state (restore { backends := backends } state).1 where
  buffer _ _ := restored_buffer_iff hi backends
  domain _ _ := restored_domain_iff state backends
  registration _ _ := restored_registration_iff hi backends
  authority := (restore_spec { backends := backends } state).authority

/-- The order of the tables does not matter. -/
theorem Loaded.rehash {state : PersistableState} {s s' : Rdmabuffer β} (h : Loaded state s) (hr : Rehash s s') :
    Loaded state s' := by
  constructor
  case buffer =>
    intro id be
    rw [← Table.lookup_perm hr.buffers]
    exact h.buffer id be
  case domain =>
    intro d de
    rw [← Table.lookup_perm hr.domains]
    exact h.domain d de
  case registration =>
    intro r rec
    rw [← Table.lookup_perm hr.registrations]
    exact h.registration r rec
  case authority =>
    rw [hr.others]
    exact h.authority

/-! ## What is saved of it -/

theorem Loaded.fileable {state : PersistableState} {s : Rdmabuffer β} (h : Loaded state s) (hf : Fits state)
    (hi : Intact state) : Fileable s := by
  intro r rec hr
  obtain ⟨rec₀, hm, hid, rfl⟩ := (h.registration r rec).1 hr
  exact ⟨hid, hi.registrationGenerations rec₀ hm, (hf.2.1.2 rec₀ hm).2⟩

theorem Loaded.withinLimit {state : PersistableState} {s : Rdmabuffer β} (h : Loaded state s) (hf : Fits state) :
    WithinLimit s := by
  obtain ⟨hbuffers, ⟨hregistrations, -⟩, hdomains, -⟩ := hf
  refine ⟨?_, ?_, ?_⟩
  · refine le_trans (Table.length_le_of_keys (state.buffers.map fun b => b.id) ?_) (by simpa using hbuffers)
    intro id be hbe
    obtain ⟨b, hm, hid, -⟩ := (h.buffer id be).1 hbe
    exact List.mem_map.2 ⟨b, hm, hid⟩
  · refine le_trans (Table.length_le_of_keys (state.registrations.map fun rec => rec.id) ?_)
      (by simpa using hregistrations)
    intro r rec hr
    obtain ⟨rec₀, hm, hid, -⟩ := (h.registration r rec).1 hr
    exact List.mem_map.2 ⟨rec₀, hm, hid⟩
  · refine le_trans (Table.length_le_of_keys state.domains ?_) hdomains
    intro d de hd
    exact ((h.domain d de).1 hd).1

theorem Loaded.buffersFit {state : PersistableState} {s : Rdmabuffer β} (h : Loaded state s) (hi : Intact state) :
    BuffersFit s := by
  have hentry : ∀ e ∈ s.buffers.entries, ∃ b ∈ state.buffers, b.id = e.1 ∧ e.2.descriptor = b := by
    intro e he
    obtain ⟨b, hm, hid, hbe⟩ := (h.buffer e.1 e.2).1 (Table.mem_entries.1 he)
    exact ⟨b, hm, hid, congrArg BufferEntry.descriptor hbe⟩
  constructor
  · have hids : (s.buffers.entries.map fun e => e.2.descriptor.id) = s.buffers.entries.map fun e => e.1 := by
      apply List.map_congr_left
      intro e he
      obtain ⟨b, -, hid, hb⟩ := hentry e he
      rw [hb, hid]
    rw [hids]
    exact s.buffers.nodupKeys
  · intro e he
    obtain ⟨b, hm, -, hb⟩ := hentry e he
    rw [hb]
    exact hi.bufferGenerations b hm

/-! ## The cycle -/

/-- The tables of buffers, domains and registrations and the snapshot are the same. -/
structure SameTables {β' : Type} (s : Rdmabuffer β) (s' : Rdmabuffer β') : Prop where
  buffers : ∀ id, s'.buffers.lookup id = s.buffers.lookup id
  domains : ∀ d, s'.domains.lookup d = s.domains.lookup d
  registrations : ∀ r, s'.registrations.lookup r = s.registrations.lookup r
  authority : s'.authority = s.authority

/-- A record that was recovered, saved and read is recovered to itself. -/
theorem recoveredRecord_saved {rec : RegistrationRecord} (h : persistedRecord rec = rec) :
    recoveredRecord (persistedRecord (logicalRecord (recoveredRecord rec))) = recoveredRecord rec := by
  have hlogical : logicalRecord (recoveredRecord rec) = recoveredRecord rec := rfl
  have hpersisted : persistedRecord (recoveredRecord rec) = recoveredRecord (persistedRecord rec) := rfl
  rw [hlogical, hpersisted, h]
  rfl

variable [IBackend β]

theorem Loaded.mem_saved_buffers {state : PersistableState} {s : Rdmabuffer β} (h : Loaded state s)
    (b : BufferDescriptor) : b ∈ (persisted s.persistableState).buffers ↔ b ∈ state.buffers := by
  constructor
  · intro hm
    obtain ⟨e, he, rfl⟩ := List.mem_map.1 hm
    obtain ⟨b, hm, -, hbe⟩ := (h.buffer e.1 e.2).1 (Table.mem_entries.1 he)
    rw [hbe]
    exact hm
  · intro hm
    have hbe := (h.buffer b.id { descriptor := b, registered := false }).2 ⟨b, hm, rfl, rfl⟩
    exact List.mem_map.2 ⟨_, Table.mem_entries.2 hbe, rfl⟩

theorem Loaded.mem_saved_domains {state : PersistableState} {s : Rdmabuffer β} (h : Loaded state s)
    (d : ProtectionDomainId) : d ∈ (persisted s.persistableState).domains ↔ d ∈ state.domains := by
  constructor
  · intro hm
    obtain ⟨e, he, rfl⟩ := List.mem_map.1 hm
    exact ((h.domain e.1 e.2).1 (Table.mem_entries.1 he)).1
  · intro hm
    exact List.mem_map.2 ⟨_, Table.mem_entries.2 ((h.domain d _).2 ⟨hm, rfl⟩), rfl⟩

theorem Loaded.mem_saved_registrations {state : PersistableState} {s : Rdmabuffer β} (h : Loaded state s)
    (rec : RegistrationRecord) : rec ∈ (persisted s.persistableState).registrations ↔
      ∃ rec₀ ∈ state.registrations, rec = persistedRecord (logicalRecord (recoveredRecord rec₀)) := by
  have hsaved : rec ∈ (persisted s.persistableState).registrations ↔
      ∃ e ∈ s.registrations.entries, rec = persistedRecord (logicalRecord e.2) := by
    simp [persisted, persistableState, eq_comm]
  rw [hsaved]
  constructor
  · rintro ⟨e, he, rfl⟩
    obtain ⟨rec₀, hm, -, hrec⟩ := (h.registration e.1 e.2).1 (Table.mem_entries.1 he)
    exact ⟨rec₀, hm, by rw [hrec]⟩
  · rintro ⟨rec₀, hm, rfl⟩
    have hr := (h.registration rec₀.id (recoveredRecord rec₀)).2 ⟨rec₀, hm, rfl, rfl⟩
    exact ⟨_, Table.mem_entries.2 hr, rfl⟩

/-- What a loaded runtime saves loads to the same tables. -/
theorem loaded_saved {β' : Type} {state : PersistableState} {s : Rdmabuffer β} {s' : Rdmabuffer β'}
    (hk : persisted state = state) (h : Loaded state s) (h' : Loaded (persisted s.persistableState) s') :
    SameTables s s' := by
  constructor
  case authority =>
    rw [h'.authority]
    show persistedAuthority s.authority = s.authority
    rw [h.authority]
    exact congrArg PersistableState.authoritySnapshot hk
  case buffers =>
    intro id
    apply Option.ext
    intro be
    simp only [h'.buffer, h.mem_saved_buffers]
    exact (h.buffer id be).symm
  case domains =>
    intro d
    apply Option.ext
    intro de
    rw [h'.domain, h.mem_saved_domains]
    exact (h.domain d de).symm
  case registrations =>
    have hrecord : ∀ rec ∈ state.registrations, persistedRecord rec = rec := by
      have hmap : state.registrations.map persistedRecord = state.registrations.map id := by
        rw [List.map_id]
        exact congrArg PersistableState.registrations hk
      exact List.map_inj_left.1 hmap
    intro r
    apply Option.ext
    intro rec
    rw [h'.registration, h.registration]
    simp only [h.mem_saved_registrations]
    constructor
    · rintro ⟨_, ⟨rec₀, hm, rfl⟩, hid, rfl⟩
      exact ⟨rec₀, hm, hid, recoveredRecord_saved (hrecord rec₀ hm)⟩
    · rintro ⟨rec₀, hm, hid, rfl⟩
      exact ⟨_, ⟨rec₀, hm, rfl⟩, hid, (recoveredRecord_saved (hrecord rec₀ hm)).symm⟩

/-- What is saved of a loaded file is accepted exactly when the backends are within the parser's bounds. -/
theorem Loaded.parse_saveBlob {state saved : PersistableState} {s : Rdmabuffer β} (h : Loaded state s) (hf : Fits state)
    (hi : Intact state) (hz : BackendsSized s) :
    parse s.saveBlob = .ok saved ↔ saved = persisted s.persistableState ∧ BackendsFit s := by
  rw [RdmaBuffer.parse_saveBlob (h.fileable hf hi) (h.withinLimit hf) hz, and_iff_left (h.buffersFit hi)]

/-- The order of the backends does not matter to the bounds. -/
theorem BackendsFit.rehash {s s' : Rdmabuffer β} (h : BackendsFit s)
    (hb : s.backends.entries.Perm s'.backends.entries) :
    BackendsFit s' := by
  have hp : s.backendSummaries.Perm s'.backendSummaries := hb.map _
  refine ⟨hp.length_eq ▸ h.1, ?_⟩
  intro b hm
  exact h.2 b (hp.mem_iff.2 hm)

/-- Recover, save, recover: for every accepted file and every backends within the parser's bounds, the file that
the recovered runtime saves, in any order of its tables, is accepted, and a fresh runtime recovers from it the
same buffers, domains, registrations and authority. -/
theorem save_cycle_fixpoint {β' : Type} (bytes : Bytes) (state : PersistableState) (hp : parse bytes = .ok state)
    (backends : Table BackendId β) (hf : BackendsFit { backends := backends }) (backends' : Table BackendId β')
    (s : Rdmabuffer β) (hr : Rehash (recover { backends := backends } (some bytes)).1 s) :
    (∃ report, (recover { backends := backends } (some bytes)).2 = .ok report) ∧
      (∃ report, (recover { backends := backends' } (some s.saveBlob)).2 = .ok report) ∧
      SameTables (recover { backends := backends } (some bytes)).1
        (recover { backends := backends' } (some s.saveBlob)).1 := by
  obtain ⟨hfits, hintact⟩ := parse_sound hp
  rw [recover_of_parse _ hp] at hr ⊢
  have hA := loaded_restore hintact backends
  have hB := hA.rehash hr
  have hb : BackendsFit s := by
    apply BackendsFit.rehash (s := (restore { backends := backends } state).1) _ hr.backends
    unfold BackendsFit backendSummaries
    rw [(restore_spec { backends := backends } state).backends]
    exact hf
  have hsave : parse s.saveBlob = .ok (persisted s.persistableState) :=
    (hB.parse_saveBlob hfits hintact hb.sized).2 ⟨rfl, hb⟩
  rw [recover_of_parse _ hsave]
  refine ⟨⟨_, rfl⟩, ⟨_, rfl⟩, ?_⟩
  have hC := loaded_restore (parse_sound hsave).2 backends'
  have hsame := loaded_saved (parse_kept hp) hB hC
  constructor
  · intro id
    rw [hsame.buffers, Table.lookup_perm hr.buffers]
  · intro d
    rw [hsame.domains, Table.lookup_perm hr.domains]
  · intro r
    rw [hsame.registrations, Table.lookup_perm hr.registrations]
  · rw [hsame.authority, hB.authority, hA.authority]

/-- Backends beyond the parser's bounds make every saved file one that is refused. -/
theorem save_refused {bytes : Bytes} {state : PersistableState} (hp : parse bytes = .ok state)
    {backends : Table BackendId β} (hz : BackendsSized { backends := backends })
    (hf : ¬BackendsFit { backends := backends })
    {β' : Type} (s' : Rdmabuffer β') :
    ∃ err, (s'.recover (some (recover { backends := backends } (some bytes)).1.saveBlob)).2 = .error err := by
  obtain ⟨hfits, hintact⟩ := parse_sound hp
  rw [recover_of_parse _ hp]
  have hA := loaded_restore hintact backends
  have hsummaries : (restore { backends := backends } state).1.backendSummaries =
      ({ backends := backends } : Rdmabuffer β).backendSummaries := by
    unfold backendSummaries
    rw [(restore_spec { backends := backends } state).backends]
  rcases hs : parse (restore { backends := backends } state).1.saveBlob with err | saved
  · refine ⟨err, ?_⟩
    unfold recover
    simp only [hs]
  · have hz' : BackendsSized (restore { backends := backends } state).1 :=
      ⟨hsummaries ▸ hz.count, hsummaries ▸ hz.summaries⟩
    have hf' := ((hA.parse_saveBlob hfits hintact hz').1 hs).2
    unfold BackendsFit at hf hf'
    rw [hsummaries] at hf'
    exact absurd hf' hf

/-- For some backends with short names the file saved after the recovery is refused. -/
def Refuses (β : Type) [IBackend β] : Prop :=
  ∃ backends : Table BackendId β, (∀ e ∈ backends.entries, (IBackend.name e.2).length ≤ 256) ∧
    ∃ err, (recover ({} : Rdmabuffer β) (some (recover { backends := backends } (some file)).1.saveBlob)).2 = .error err

end

open Session

/-- The cycle of the session's file, with its synthetic backend attached. -/
theorem save_cycle_fixpoint_file : ∃ s s' : Rdmabuffer Backend,
    s = (recover { backends := (after []).runtime.backends } (some file)).1 ∧
      s' = (recover {} (some s.saveBlob)).1 ∧ (s.registrations.lookup ⟨1⟩).isSome = true ∧ SameTables s s' := by
  have hf : BackendsFit { backends := (after []).runtime.backends } := by decide
  have h := save_cycle_fixpoint file _ parse_file _ hf (∅ : Table BackendId Backend) _ (Rehash.refl _)
  refine ⟨_, _, rfl, rfl, ?_, h.2.2⟩
  rw [recover_of_parse _ parse_file]
  decide +kernel

/-! ## Beyond the parser's bounds -/

/-- Reference backends with the ids below `n`. -/
def referenceBackends (n : Nat) (hn : n < 2 ^ 64) : Table BackendId Backend where
  entries := (List.range n).map fun i => ⟨⟨UInt64.ofNat i⟩, .reference (ReferenceBackend.new ⟨UInt64.ofNat i⟩)⟩
  nodupKeys := by
    rw [List.NodupKeys, List.keys, List.map_map]
    apply List.Nodup.map_on _ List.nodup_range
    intro i hi j hj he
    have hi := List.mem_range.1 hi
    have hj := List.mem_range.1 hj
    have hv : UInt64.ofNat i = UInt64.ofNat j := congrArg StrongId.value he
    have := congrArg UInt64.toNat hv
    rwa [UInt64.toNat_ofNat_of_lt' (hi.trans hn), UInt64.toNat_ofNat_of_lt' (hj.trans hn)] at this

theorem too_many_backends : Refuses Backend := by
  obtain ⟨n, hmany, hn⟩ : ∃ n, maxCount < n ∧ n < 2 ^ 64 := ⟨maxCount + 1, by omega, by decide⟩
  have hlength : ({ backends := referenceBackends n hn } : Rdmabuffer Backend).backendSummaries.length = n := by
    unfold backendSummaries referenceBackends
    simp only [List.length_map, List.length_range]
  refine ⟨referenceBackends n hn, ?_, ?_⟩
  · intro e he
    obtain ⟨i, -, rfl⟩ := List.mem_map.1 he
    show (lit "reference-tcp").length ≤ 256
    decide
  · apply save_refused parse_file
    · constructor
      · rw [hlength]
        exact hn
      · intro b hb
        obtain ⟨e, he, rfl⟩ := List.mem_map.1 hb
        obtain ⟨i, -, rfl⟩ := List.mem_map.1 he
        constructor
        · show (lit "reference-tcp").length < 2 ^ 64
          decide
        · exact Nat.two_pow_pos 64
        · show 4 < 2 ^ 64
          omega
    · intro hf
      have hle : n ≤ maxCount := hlength ▸ hf.1
      omega

/-- A reference backend that lists `n` memory domains. -/
@[reducible] def listingDomains (n : Nat) : IBackend ReferenceBackend :=
  { (inferInstance : IBackend ReferenceBackend) with
    capabilities := fun _ => { supportedDomains := List.replicate n .hostPinned } }

/-- The summary of such a backend. -/
def listed (n : Nat) : BackendInfo := @backendSummary _ (listingDomains n) ⟨1⟩ (ReferenceBackend.new ⟨1⟩)

theorem length_listed (n : Nat) : (listed n).capabilities.supportedDomains.length = n := List.length_replicate

theorem too_many_domains : ∃ n, @Refuses ReferenceBackend (listingDomains n) := by
  obtain ⟨n, hmany, hn⟩ : ∃ n, maxCount < n ∧ n < 2 ^ 64 := ⟨maxCount + 1, by omega, by decide⟩
  have hsummaries : @backendSummaries _ (listingDomains n)
      { backends := Table.put ⟨1⟩ (ReferenceBackend.new ⟨1⟩) ∅ } = [listed n] := rfl
  refine ⟨n, Table.put ⟨1⟩ (ReferenceBackend.new ⟨1⟩) ∅, ?_, ?_⟩
  · intro e he
    show (lit "reference-tcp").length ≤ 256
    decide
  · apply @save_refused _ (listingDomains n) _ _ parse_file
    · refine @BackendsSized.mk _ (listingDomains n) _ ?_ ?_
      · rw [hsummaries]
        exact Nat.one_lt_two_pow (by omega)
      · intro b hb
        rw [hsummaries] at hb
        obtain rfl := List.mem_singleton.1 hb
        constructor
        · show (lit "reference-tcp").length < 2 ^ 64
          decide
        · exact Nat.two_pow_pos 64
        · rw [length_listed]
          exact hn
    · intro hf
      have hle : n ≤ maxCount := length_listed n ▸ (hf.2 (listed n) (hsummaries ▸ List.mem_singleton_self _)).2.2
      omega

/-- The cycle is not restored with more than `2 ^ 20` backends attached, nor with one that lists more memory domains,
though their names are short. -/
theorem save_cycle_refused : Refuses Backend ∧ ∃ n, @Refuses ReferenceBackend (listingDomains n) :=
  ⟨too_many_backends, too_many_domains⟩

end RdmaBuffer
