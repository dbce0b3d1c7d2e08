/-
The iteration order of the tables in the saved file. `save` writes the tables in the order in which it walks
them: the bytes do not depend on it exactly when no table holds two entries that are written differently.
-/
import RdmaBuffer.Persistence.Acceptance
import RdmaBuffer.Registry.Save
import RdmaBuffer.Runtime.Execution

namespace RdmaBuffer

open Codec Persistence Rdmabuffer

/-- What of a record is written, in the records and in the key histories. -/
def RegistrationRecord.written (rec : RegistrationRecord) : RegistrationRecord :=
  { rec with
    backendHandle := []
    memoryRegionId := {}
    lifecycle := .revalidationRequired
    freshness := .revalidationRequired
    policyGeneration := {} }

/-- No table holds two entries that are written differently. -/
structure Uniform {β : Type} (s : Rdmabuffer β) : Prop where
  buffers : ∀ e ∈ s.buffers.entries, ∀ e' ∈ s.buffers.entries, e.2.descriptor = e'.2.descriptor
  registrations : ∀ e ∈ s.registrations.entries, ∀ e' ∈ s.registrations.entries, e.2.written = e'.2.written
  domains : s.domains.entries.length ≤ 1
  backends : s.backends.entries.length ≤ 1

/-! ## Sections of the file -/

/-- A state without the policy generations of its records, which are not written. -/
def withoutPolicies (p : PersistableState) : PersistableState :=
  { p with registrations := p.registrations.map persistedRecord }

theorem serialize_withoutPolicies (p : PersistableState) : serialize (withoutPolicies p) = serialize p := by
  have hlist : encodeList encodeRegistration (p.registrations.map persistedRecord) =
      encodeList encodeRegistration p.registrations := by
    rw [encodeList, encodeList, List.length_map, List.flatMap_map]
    rfl
  rw [serialize_eq, serialize_eq]
  unfold encodeFields
  rw [withoutPolicies, hlist]

theorem semanticDigest_withoutPolicies (p : PersistableState) :
    semanticDigest (withoutPolicies p) = semanticDigest p := by
  unfold semanticDigest digestText
  simp only [withoutPolicies, List.flatMap_map]
  rfl

/-- The same lists, each in some order. -/
structure Shuffled (p p' : PersistableState) : Prop where
  buffers : p.buffers.Perm p'.buffers
  registrations : p.registrations.Perm p'.registrations
  domains : p.domains.Perm p'.domains
  remoteKeyHistory : p.remoteKeyHistory.Perm p'.remoteKeyHistory
  localKeyHistory : p.localKeyHistory.Perm p'.localKeyHistory
  revocationHistory : p.revocationHistory.Perm p'.revocationHistory
  backends : p.backendCapabilitySnapshot.Perm p'.backendCapabilitySnapshot
  authority : p.authoritySnapshot = p'.authoritySnapshot
  policyGeneration : p.policyGeneration = p'.policyGeneration
  accounting : p.accountingSummary = p'.accountingSummary

theorem length_encodeList_perm {α : Type} {enc : α → Bytes} {as bs : List α} (h : as.Perm bs) :
    (encodeList enc as).length = (encodeList enc bs).length := by
  rw [encodeList, encodeList, h.length_eq, List.length_append, List.length_append, (h.flatMap_right enc).length_eq]

/-- Shuffled states that are written alike are written alike list by list. -/
theorem Shuffled.sections {p p' : PersistableState} (h : Shuffled p p') (he : encodeFields p = encodeFields p') :
    encodeList encodeDescriptor p.buffers = encodeList encodeDescriptor p'.buffers ∧
      encodeList encodeRegistration p.registrations = encodeList encodeRegistration p'.registrations ∧
      encodeList (fun d => putU64 d.value) p.domains = encodeList (fun d => putU64 d.value) p'.domains ∧
      encodeList encodeRemoteKey p.remoteKeyHistory = encodeList encodeRemoteKey p'.remoteKeyHistory ∧
      encodeList encodeLocalKey p.localKeyHistory = encodeList encodeLocalKey p'.localKeyHistory ∧
      encodeList encodeBackendInfo p.backendCapabilitySnapshot =
        encodeList encodeBackendInfo p'.backendCapabilitySnapshot := by
  unfold encodeFields at he
  rw [h.authority, h.policyGeneration, h.accounting] at he
  have he := List.append_cancel_left (List.append_cancel_left he)
  obtain ⟨hbuffers, he⟩ := List.append_inj he (length_encodeList_perm h.buffers)
  obtain ⟨hregistrations, he⟩ := List.append_inj he (length_encodeList_perm h.registrations)
  obtain ⟨hdomains, he⟩ := List.append_inj he (length_encodeList_perm h.domains)
  obtain ⟨hremote, he⟩ := List.append_inj he (length_encodeList_perm h.remoteKeyHistory)
  obtain ⟨hlocal, he⟩ := List.append_inj he (length_encodeList_perm h.localKeyHistory)
  obtain ⟨-, he⟩ := List.append_inj he (length_encodeList_perm h.revocationHistory)
  exact ⟨hbuffers, hregistrations, hdomains, hremote, hlocal, List.append_cancel_left he⟩

/-- The first words of lists that are written alike begin alike. -/
theorem encodeList_head {α : Type} {enc : α → Bytes} {a b : α} {as bs : List α}
    (hl : (a :: as).length = (b :: bs).length) (he : encodeList enc (a :: as) = encodeList enc (b :: bs)) :
    enc a ++ as.flatMap enc = enc b ++ bs.flatMap enc := by
  rw [encodeList, encodeList, hl] at he
  exact List.append_cancel_left he

section

variable {β : Type} [IBackend β]

/-! ## Reordered tables -/

theorem Rehash.shuffled {s s' : Rdmabuffer β} (h : Rehash s s') : Shuffled s.persistableState s'.persistableState := by
  have hauthority : s'.authority = s.authority := by rw [h.others]
  have hacct : s'.acct = s.acct := by rw [h.others]
  constructor
  · exact h.buffers.map _
  · exact h.registrations.map _
  · exact h.domains.map _
  · exact h.registrations.map _
  · exact h.registrations.map _
  · exact (h.registrations.map _).filter _
  · exact h.backends.map _
  · exact hauthority.symm
  · exact congrArg (fun a => a.policyGeneration) hauthority.symm
  · exact hacct.symm

/-- In a runtime without two different entries in a table what is saved does not depend on the order. -/
theorem Uniform.withoutPolicies_eq {s s' : Rdmabuffer β} (hu : Uniform s) (h : Rehash s s') :
    withoutPolicies s'.persistableState = withoutPolicies s.persistableState := by
  have hauthority : s'.authority = s.authority := by rw [h.others]
  have hacct : s'.acct = s.acct := by rw [h.others]
  have hbuffers := Table.map_eq_of_perm h.buffers hu.buffers
  have hwritten := Table.map_eq_of_perm h.registrations hu.registrations
  have hdomains : (s.domains.entries.map fun e => e.1) = s'.domains.entries.map fun e => e.1 :=
    Table.map_eq_of_perm h.domains (Table.alike_of_length_le_one hu.domains)
  have hbackends : (s.backends.entries.map fun e => backendSummary e.1 e.2) =
      s'.backends.entries.map fun e => backendSummary e.1 e.2 :=
    Table.map_eq_of_perm h.backends (Table.alike_of_length_le_one hu.backends)
  -- whatever is a function of what is written
  have hmap {α : Type} (f : RegistrationRecord → α) (g : RegistrationRecord → α) (hf : ∀ rec, f rec = g rec.written) :
      (s'.registrations.entries.map fun e => f e.2) = s.registrations.entries.map fun e => f e.2 := by
    have := congrArg (List.map g) hwritten
    rw [List.map_map, List.map_map] at this
    simpa [Function.comp_def, hf] using this.symm
  have hrecords := hmap (fun rec => persistedRecord (logicalRecord rec)) logicalRecord fun rec => rfl
  have hremote := hmap (fun rec => rec.remoteKey) (fun rec => rec.remoteKey) fun rec => rfl
  have hlocal := hmap (fun rec => rec.localKey) (fun rec => rec.localKey) fun rec => rfl
  have hreasons := hmap (fun rec => rec.invalidationReason) (fun rec => rec.invalidationReason) fun rec => rfl
  unfold withoutPolicies persistableState backendSummaries
  simp only [List.map_map, Function.comp_def]
  rw [hrecords, hremote, hlocal, hreasons, ← hbuffers, ← hdomains, ← hbackends, hauthority, hacct]

theorem Uniform.saves_alike {s s' : Rdmabuffer β} (hu : Uniform s) (h : Rehash s s') :
    saveBlob s' = saveBlob s ∧ semanticDigest s'.persistableState = semanticDigest s.persistableState := by
  have heq := hu.withoutPolicies_eq h
  constructor
  · rw [saveBlob, saveBlob, ← serialize_withoutPolicies, heq, serialize_withoutPolicies]
  · rw [← semanticDigest_withoutPolicies, heq, semanticDigest_withoutPolicies]

/-! ## The order is seen otherwise -/

/-- Every order of the tables is saved as the same bytes. -/
def OrderFree (s : Rdmabuffer β) : Prop := ∀ s', Rehash s s' → saveBlob s' = saveBlob s

/-- The file of a reordered runtime, section by section. -/
theorem OrderFree.sections {s s' : Rdmabuffer β} (ho : OrderFree s) (h : Rehash s s') :
    encodeFields s.persistableState = encodeFields s'.persistableState := by
  have := (ho s' h).symm
  rw [saveBlob, saveBlob, serialize_eq, serialize_eq] at this
  exact List.append_cancel_left (sealed_injective this)

theorem OrderFree.buffers {s : Rdmabuffer β} (ho : OrderFree s) :
    ∀ e ∈ s.buffers.entries, ∀ e' ∈ s.buffers.entries, e.2.descriptor = e'.2.descriptor := by
  apply Table.alike_of_heads
  intro x xs a as hl hp
  have h : Rehash s { s with buffers := s.buffers.reorder (a :: as) hp } :=
    { Rehash.refl s with buffers := hp, others := rfl }
  obtain ⟨hbuffers, -⟩ := h.shuffled.sections (ho.sections h)
  simp only [persistableState, Table.reorder, hl, List.map_cons] at hbuffers
  have hhead := encodeList_head (by simpa [hl] using hp.length_eq) hbuffers
  exact (Exact.append_inj decodeDescriptor hhead).1

theorem OrderFree.registrations {s : Rdmabuffer β} (ho : OrderFree s)
    (hz : ∀ e ∈ s.registrations.entries, e.2.invalidationReason.length < 2 ^ 64) :
    ∀ e ∈ s.registrations.entries, ∀ e' ∈ s.registrations.entries, e.2.written = e'.2.written := by
  apply Table.alike_of_heads
  intro x xs a as hl hp
  have h : Rehash s { s with registrations := s.registrations.reorder (a :: as) hp } :=
    { Rehash.refl s with registrations := hp, others := rfl }
  have hlen : (x :: xs).length = (a :: as).length := hl ▸ hp.length_eq
  have hx : RecordSized (logicalRecord x.2) := ⟨Nat.two_pow_pos 64, hz x (hl ▸ List.mem_cons_self ..)⟩
  have ha : RecordSized (logicalRecord a.2) := ⟨Nat.two_pow_pos 64, hz a (hp.mem_iff.2 (List.mem_cons_self ..))⟩
  obtain ⟨-, hrecords, -, hremote, hlocal, -⟩ := h.shuffled.sections (ho.sections h)
  simp only [persistableState, Table.reorder, hl, List.map_cons] at hrecords hremote hlocal
  obtain ⟨hrecord, -⟩ := encodeRegistration_append_inj hx ha (encodeList_head (by simpa using hlen) hrecords)
  obtain ⟨hrk, -⟩ := encodeRemoteKey_append_inj.1 (encodeList_head (by simpa using hlen) hremote)
  obtain ⟨hlk, -⟩ := Exact.append_inj decodeLocalKey (encodeList_head (by simpa using hlen) hlocal)
  calc x.2.written
      = { persistedRecord (logicalRecord x.2) with remoteKey := x.2.remoteKey, localKey := x.2.localKey } := rfl
    _ = { persistedRecord (logicalRecord a.2) with remoteKey := a.2.remoteKey, localKey := a.2.localKey } := by
      rw [hrecord, hrk, hlk]
    _ = a.2.written := rfl

theorem OrderFree.domains {s : Rdmabuffer β} (ho : OrderFree s) : s.domains.entries.length ≤ 1 := by
  apply Table.length_le_one_of_alike
  apply Table.alike_of_heads
  intro x xs a as hl hp
  have h : Rehash s { s with domains := s.domains.reorder (a :: as) hp } :=
    { Rehash.refl s with domains := hp, others := rfl }
  have hlen : (x :: xs).length = (a :: as).length := hl ▸ hp.length_eq
  obtain ⟨-, -, hdomains, -⟩ := h.shuffled.sections (ho.sections h)
  simp only [persistableState, Table.reorder, hl, List.map_cons] at hdomains
  have hhead := encodeList_head (by simpa using hlen) hdomains
  exact StrongId.value_inj.1 (Exact.append_inj getU64 hhead).1

/-- A summary begins with the backend's id. -/
theorem encodeBackendInfo_head (b : BackendInfo) : ∃ w, encodeBackendInfo b = putU64 b.id.value ++ w := by
  unfold encodeBackendInfo
  simp only [List.append_assoc]
  exact ⟨_, rfl⟩

theorem OrderFree.backends {s : Rdmabuffer β} (ho : OrderFree s) : s.backends.entries.length ≤ 1 := by
  apply Table.length_le_one_of_alike
  apply Table.alike_of_heads
  intro x xs a as hl hp
  have h : Rehash s { s with backends := s.backends.reorder (a :: as) hp } :=
    { Rehash.refl s with backends := hp, others := rfl }
  have hlen : (x :: xs).length = (a :: as).length := hl ▸ hp.length_eq
  obtain ⟨-, -, -, -, -, hbackends⟩ := h.shuffled.sections (ho.sections h)
  simp only [persistableState, backendSummaries, Table.reorder, hl, List.map_cons] at hbackends
  have hhead := encodeList_head (by simpa using hlen) hbackends
  obtain ⟨w, hw⟩ := encodeBackendInfo_head (backendSummary x.1 x.2)
  obtain ⟨w', hw'⟩ := encodeBackendInfo_head (backendSummary a.1 a.2)
  rw [hw, hw', List.append_assoc, List.append_assoc] at hhead
  exact StrongId.value_inj.1 (Exact.append_inj getU64 hhead).1

/-- The bytes and the digest that are saved are the same for every order of the tables exactly when no table
holds two entries that are written differently. -/
theorem order_free_iff (s : Rdmabuffer β)
    (hz : ∀ e ∈ s.registrations.entries, e.2.invalidationReason.length < 2 ^ 64) :
    (∀ s', Rehash s s' → saveBlob s' = saveBlob s ∧
      semanticDigest s'.persistableState = semanticDigest s.persistableState) ↔ Uniform s := by
  constructor
  · intro h
    have ho : OrderFree s := fun s' hs => (h s' hs).1
    exact ⟨ho.buffers, ho.registrations hz, ho.domains, ho.backends⟩
  · intro hu s' hs
    exact hu.saves_alike hs

end

open Session

/-- One page, registered, in one protection domain of one backend. -/
theorem order_free_iff_page : Uniform (afterOps [.registerBuffer page synthetic ⟨1⟩ envelope]) ∧
    ∀ s', Rehash (afterOps [.registerBuffer page synthetic ⟨1⟩ envelope]) s' →
      saveBlob s' = saveBlob (afterOps [.registerBuffer page synthetic ⟨1⟩ envelope]) := by
  have hz : ∀ e ∈ (afterOps [.registerBuffer page synthetic ⟨1⟩ envelope]).registrations.entries,
      e.2.invalidationReason.length < 2 ^ 64 := by
    decide
  have hu : Uniform (afterOps [.registerBuffer page synthetic ⟨1⟩ envelope]) := by
    refine ⟨?_, ?_, by decide, by decide⟩
    · exact Table.alike_of_length_le_one (by decide)
    · exact Table.alike_of_length_le_one (by decide)
  refine ⟨hu, ?_⟩
  intro s' hs
  exact ((order_free_iff _ hz).2 hu s' hs).1

/-- With a second protection domain the bytes depend on the order. -/
theorem order_saved : ∃ s', Rehash (afterOps [.atomic (.createProtectionDomain ⟨1⟩ ⟨1⟩)]) s' ∧
    saveBlob s' ≠ saveBlob (afterOps [.atomic (.createProtectionDomain ⟨1⟩ ⟨1⟩)]) := by
  by_contra h
  have ho : OrderFree (afterOps [.atomic (.createProtectionDomain ⟨1⟩ ⟨1⟩)]) := by
    intro s' hs
    by_contra hne
    exact h ⟨s', hs, hne⟩
  have := ho.domains
  revert this
  decide

end RdmaBuffer
