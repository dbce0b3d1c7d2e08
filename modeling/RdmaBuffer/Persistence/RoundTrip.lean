/-
What survives the file. A state within the reader's bounds and with sound identities is parsed back, and
comes back as it was up to the policy generation of its records and the provenance of its authority,
which the format does not keep; any other state is refused.
-/
import Mathlib.Data.List.Nodup
import RdmaBuffer.Persistence.Acceptance

namespace RdmaBuffer

namespace Persistence

open Codec

/-! ## Integrity -/

theorem checkIdentities_eq_ok {α : Type} {regressed : α → Bool} {identity : α → UInt64} (as : List α) :
    ∀ (seen : List UInt64) {u : Unit}, checkIdentities regressed identity seen as = .ok u ↔
      (∀ a ∈ as, regressed a = false) ∧ (as.map identity).Nodup ∧ ∀ a ∈ as, identity a ∉ seen := by
  induction as with
  | nil => simp [checkIdentities]
  | cons a as ih =>
    intro seen u
    unfold checkIdentities
    cases hr : regressed a with
    | true => simp [hr]
    | false =>
      by_cases hs : identity a ∈ seen
      · simp [hs]
      · simp only [Bool.false_eq_true, if_false, List.contains_eq_mem, hs, decide_false, ih, List.mem_append,
          List.mem_cons, List.not_mem_nil, or_false, List.map_cons, List.nodup_cons, forall_eq_or_imp, hr, not_or,
          List.mem_map]
        constructor
        · rintro ⟨hrs, hnd, hseen⟩
          exact ⟨⟨trivial, hrs⟩, ⟨fun ⟨b, hb, he⟩ => (hseen b hb).2 he, hnd⟩, not_false, fun b hb => (hseen b hb).1⟩
        · rintro ⟨⟨-, hrs⟩, ⟨hna, hnd⟩, -, hseen⟩
          exact ⟨hrs, hnd, fun b hb => ⟨hseen b hb, fun he => hna ⟨b, hb, he⟩⟩⟩

/-- What the integrity checks ask of a state. -/
structure Intact (s : PersistableState) : Prop where
  buffers : (s.buffers.map fun b => b.id).Nodup
  registrations : (s.registrations.map fun rec => rec.id).Nodup
  domains : s.domains.Nodup
  bufferGenerations : ∀ b ∈ s.buffers, b.generation.value ≠ 0
  registrationGenerations : ∀ rec ∈ s.registrations, rec.registrationGeneration.value ≠ 0

theorem nodup_values {α : Type} {kind : IdKind} {f : α → StrongId kind} {as : List α} :
    (as.map fun a => (f a).value).Nodup ↔ (as.map f).Nodup := by
  have hinj : Function.Injective (StrongId.value : StrongId kind → UInt64) := by
    rintro ⟨v⟩ ⟨w⟩ rfl
    rfl
  rw [← List.nodup_map_iff hinj, List.map_map]
  rfl

theorem checkIntegrity_eq_ok {s : PersistableState} : checkIntegrity s = .ok () ↔ Intact s := by
  unfold checkIntegrity
  simp only [bind_eq_ok, checkIdentities_eq_ok, List.not_mem_nil, not_false_eq_true, implies_true, and_true,
    beq_eq_false_iff_ne, nodup_values]
  constructor
  · rintro ⟨-, ⟨hbg, hb⟩, -, ⟨hrg, hr⟩, hd⟩
    rw [List.map_id'] at hd
    exact ⟨hb, hr, hd.2, hbg, hrg⟩
  · intro h
    refine ⟨(), ⟨h.bufferGenerations, h.buffers⟩, (), ⟨h.registrationGenerations, h.registrations⟩, ?_⟩
    rw [List.map_id']
    exact ⟨trivial, h.domains⟩

/-! ## Sizes and bounds -/

/-- What every `std::vector` and `std::string` of a state guarantees. -/
structure Sized (s : PersistableState) : Prop where
  buffers : s.buffers.length < 2 ^ 64
  registrations : s.registrations.length < 2 ^ 64
  domains : s.domains.length < 2 ^ 64
  remoteKeyHistory : s.remoteKeyHistory.length < 2 ^ 64
  localKeyHistory : s.localKeyHistory.length < 2 ^ 64
  revocationHistory : s.revocationHistory.length < 2 ^ 64
  backendCapabilitySnapshot : s.backendCapabilitySnapshot.length < 2 ^ 64
  records : ∀ rec ∈ s.registrations, RecordSized rec
  revocations : ∀ reason ∈ s.revocationHistory, reason.length < 2 ^ 64
  backends : ∀ b ∈ s.backendCapabilitySnapshot, BackendSized b

/-- The bounds of the reader, list by list. -/
def Fits (s : PersistableState) : Prop :=
  s.buffers.length ≤ maxCount ∧ (s.registrations.length ≤ maxCount ∧ ∀ rec ∈ s.registrations, RecordFits rec) ∧
    s.domains.length ≤ maxCount ∧ s.remoteKeyHistory.length ≤ maxCount ∧ s.localKeyHistory.length ≤ maxCount ∧
    (s.revocationHistory.length ≤ maxCount ∧ ∀ reason ∈ s.revocationHistory, reason.length ≤ maxCount) ∧
    s.backendCapabilitySnapshot.length ≤ maxCount ∧ ∀ b ∈ s.backendCapabilitySnapshot, BackendFits b
deriving Decidable

/-- What is read is within the bounds. -/
theorem fields_fits : Ensures fields fun _ s _ => Fits s := by
  have hmax : maxCount < 2 ^ 64 := by decide
  unfold fields
  refine ensures_true.value_bind fun policyGeneration _ => ensures_true.value_bind fun authority _ => ?_
  refine (ensures_getCounted ensures_true).value_bind fun buffers hbuffers => ?_
  refine (ensures_getCounted decodeRegistration_fits).value_bind fun registrations hregistrations => ?_
  refine (ensures_getCounted ensures_true).value_bind fun domains hdomains => ?_
  refine (ensures_getCounted ensures_true).value_bind fun remoteKeys hremote => ?_
  refine (ensures_getCounted ensures_true).value_bind fun localKeys hlocal => ?_
  refine (ensures_getCounted (ensures_getStr hmax)).value_bind fun revocations hrevocations => ?_
  refine ensures_true.value_bind fun accounting _ => ?_
  refine (ensures_getCounted decodeBackendInfo_fits).value_bind fun backends hbackends => ensures_pure.2 fun bs => ?_
  exact ⟨hbuffers.1, hregistrations, hdomains.1, hremote.1, hlocal.1, hrevocations, hbackends⟩

/-- A state as the file keeps it. -/
def persisted (s : PersistableState) : PersistableState :=
  { s with
    formatVersion := 1
    registrations := s.registrations.map persistedRecord
    authoritySnapshot := persistedAuthority s.authoritySnapshot }

/-- What is read is as the file keeps it. -/
theorem fields_kept : Ensures fields fun _ s _ => persisted s = s := by
  unfold fields
  refine ensures_true.value_bind fun policyGeneration _ =>
    decodeAuthority_kept.value_bind fun authority hauthority => ?_
  refine ensures_true.value_bind fun buffers _ => ?_
  refine (ensures_getCounted decodeRegistration_kept).value_bind fun registrations hregistrations => ?_
  refine ensures_true.value_bind fun domains _ => ?_
  refine ensures_true.value_bind fun remoteKeys _ => ?_
  refine ensures_true.value_bind fun localKeys _ => ?_
  refine ensures_true.value_bind fun revocations _ => ?_
  refine ensures_true.value_bind fun accounting _ => ?_
  refine ensures_true.value_bind fun backends _ => ensures_pure.2 fun bs => ?_
  unfold persisted
  dsimp only
  rw [hauthority, List.map_congr_left hregistrations.2, List.map_id']

theorem fields_conveys {s : PersistableState} (h : Sized s) : Conveys fields encodeFields Fits persisted s := by
  intro rest
  unfold fields encodeFields
  simp only [List.append_assoc, getGeneration_bind]
  rw [bind_of_some (decodeAuthority_encode _ _)]
  have hbuffers := getCounted_conveys_id (Exact.read decodeDescriptor) h.buffers
  have hregistrations := getCounted_conveys h.registrations fun rec hr => decodeRegistration_conveys (h.records rec hr)
  have hdomains := getCounted_conveys_id (Exact.read getId) h.domains
  have hremote := getCounted_conveys_id decodeRemoteKey_encode h.remoteKeyHistory
  have hlocal := getCounted_conveys_id (Exact.read decodeLocalKey) h.localKeyHistory
  have hrevocations := getCounted_conveys h.revocationHistory
    fun reason hr => getStr_conveys (h.revocations reason hr) maxCount
  have hbackends := getCounted_conveys h.backendCapabilitySnapshot
    fun b hb => decodeBackendInfo_conveys (h.backends b hb)
  refine (hbuffers.bind (hregistrations.bind (hdomains.bind (hremote.bind (hlocal.bind (hrevocations.bind
    (p := (s.backendCapabilitySnapshot.length ≤ maxCount ∧ ∀ b ∈ s.backendCapabilitySnapshot, BackendFits b) ∧ True)
    (o := some (persisted s, rest)) ?_)))))).trans ?_
  · rw [Exact.read_bind decodeAccounting]
    refine hbackends.bind ?_
    simp only [id, List.map_id]
    rfl
  · simp only [and_true]
    rfl

/-! ## Parsing what was serialized -/

/-- The integrity checks look at nothing the file drops. -/
theorem intact_persisted {s : PersistableState} : Intact (persisted s) ↔ Intact s := by
  have hids : ((persisted s).registrations.map fun rec => rec.id) = s.registrations.map fun rec => rec.id := by
    simp [persisted, persistedRecord, Function.comp_def]
  have hgenerations : (∀ rec ∈ (persisted s).registrations, rec.registrationGeneration.value ≠ 0) ↔
      ∀ rec ∈ s.registrations, rec.registrationGeneration.value ≠ 0 := by
    simp [persisted, persistedRecord]
  constructor
  · intro h
    exact ⟨h.buffers, hids ▸ h.registrations, h.domains, h.bufferGenerations, hgenerations.1 h.registrationGenerations⟩
  · intro h
    exact ⟨h.buffers, hids.symm ▸ h.registrations, h.domains, h.bufferGenerations,
      hgenerations.2 h.registrationGenerations⟩

theorem parse_serialize {s s' : PersistableState} (h : Sized s) :
    parse (serialize s) = .ok s' ↔ s' = persisted s ∧ Fits s ∧ Intact s := by
  rw [serialize_eq, parse_eq_ok]
  have hf := fields_conveys h []
  rw [List.append_nil] at hf
  constructor
  · rintro ⟨w, hw, hs, hi⟩
    obtain rfl := List.append_cancel_left (sealed_injective hw)
    rw [hf] at hs
    split at hs
    · rename_i hfits
      cases hs
      exact ⟨rfl, hfits, intact_persisted.1 (checkIntegrity_eq_ok.1 hi)⟩
    · cases hs
  · rintro ⟨rfl, hfits, hi⟩
    exact ⟨_, rfl, hf.trans (if_pos hfits), checkIntegrity_eq_ok.2 (intact_persisted.2 hi)⟩

/-- An accepted state is within the bounds, with sound identities. -/
theorem parse_sound {bytes : Bytes} {s : PersistableState} (h : parse bytes = .ok s) : Fits s ∧ Intact s := by
  obtain ⟨w, -, hf, hi⟩ := parse_eq_ok.1 h
  exact ⟨fields_fits w s [] hf, checkIntegrity_eq_ok.1 hi⟩

/-- An accepted state is as the file keeps it. -/
theorem parse_kept {bytes : Bytes} {s : PersistableState} (h : parse bytes = .ok s) : persisted s = s := by
  obtain ⟨w, -, hf, -⟩ := parse_eq_ok.1 h
  exact fields_kept w s [] hf

theorem semanticDigest_persisted {s : PersistableState} (h : s.formatVersion = 1) :
    semanticDigest (persisted s) = semanticDigest s := by
  unfold semanticDigest digestText
  simp only [persisted, List.flatMap_map, h]
  rfl

/-- The caller's error string after a parse. -/
def errAfter : Except StdString PersistableState → StdString
  | .ok _ => []
  | .error err => err

/-- A state is parsed back exactly when it is within the reader's bounds, its identities are distinct and
its generations are not zero; and then without an error and with the same digest. -/
theorem survives_iff (s : PersistableState) (hv : s.formatVersion = 1) (h : Sized s) :
    ((∃ s', parse (serialize s) = .ok s') ↔ Fits s ∧ Intact s) ∧
      ∀ s', parse (serialize s) = .ok s' →
        errAfter (parse (serialize s)) = [] ∧ semanticDigest s' = semanticDigest s := by
  constructor
  · constructor
    · rintro ⟨s', hs⟩
      exact ((parse_serialize h).1 hs).2
    · intro hf
      exact ⟨persisted s, (parse_serialize h).2 ⟨rfl, hf⟩⟩
  · intro s' hs
    obtain ⟨rfl, -⟩ := (parse_serialize h).1 hs
    rw [hs]
    exact ⟨rfl, semanticDigest_persisted hv⟩

/-- A buffer, and a registration of it made under policy generation 2 of a real authority. -/
def saved : PersistableState :=
  { buffers := [{ id := ⟨1⟩, generation := ⟨1⟩, byteLength := 4096 }]
    registrations :=
      [{ id := ⟨9⟩, bufferId := ⟨1⟩, bufferGeneration := ⟨1⟩, registrationGeneration := ⟨1⟩, policyGeneration := ⟨2⟩ }]
    domains := [⟨5⟩]
    revocationHistory := [lit "hard revoke"]
    authoritySnapshot := { provenance := .real } }

theorem saved_sized : Sized saved where
  buffers := by decide
  registrations := by decide
  domains := by decide
  remoteKeyHistory := by decide
  localKeyHistory := by decide
  revocationHistory := by decide
  backendCapabilitySnapshot := by decide
  records := by
    intro rec hr
    obtain rfl := List.mem_singleton.1 hr
    constructor <;> decide
  revocations := by
    intro reason hr
    obtain rfl := List.mem_singleton.1 hr
    decide
  backends := by
    intro b hb
    cases hb

theorem saved_intact : Intact saved where
  buffers := by decide
  registrations := by decide
  domains := by decide
  bufferGenerations := by
    intro b hb
    obtain rfl := List.mem_singleton.1 hb
    decide
  registrationGenerations := by
    intro rec hr
    obtain rfl := List.mem_singleton.1 hr
    decide

theorem parse_saved : parse (serialize saved) = .ok (persisted saved) :=
  (parse_serialize saved_sized).2 ⟨rfl, by decide, saved_intact⟩

theorem survives_iff_saved : ∃ s', parse (serialize saved) = .ok s' ∧ semanticDigest s' = semanticDigest saved := by
  have h := survives_iff saved rfl saved_sized
  obtain ⟨s', hs⟩ := h.1.2 ⟨by decide, saved_intact⟩
  exact ⟨s', hs, (h.2 s' hs).2⟩

/-! ## What is lost -/

/-- A parsed state is the one that was serialized exactly when its records had no policy generation and its
authority no provenance. -/
theorem lossless_iff (s s' : PersistableState) (hv : s.formatVersion = 1) (h : Sized s)
    (hp : parse (serialize s) = .ok s') :
    s' = s ↔ (∀ rec ∈ s.registrations, rec.policyGeneration = {}) ∧ s.authoritySnapshot.provenance = .unknown := by
  obtain ⟨rfl, -⟩ := (parse_serialize h).1 hp
  constructor
  · intro he
    constructor
    · intro rec hr
      have hmap : s.registrations.map persistedRecord = s.registrations := congrArg PersistableState.registrations he
      have hrec := List.map_inj_left.1 (hmap.trans (List.map_id _).symm) rec hr
      exact (congrArg RegistrationRecord.policyGeneration hrec).symm
    · have := congrArg (fun s => s.authoritySnapshot.provenance) he
      exact this.symm
  · rintro ⟨hr, ha⟩
    have hmap : s.registrations.map persistedRecord = s.registrations := by
      rw [← List.map_id s.registrations, List.map_map]
      apply List.map_inj_left.2
      intro rec hrec
      show persistedRecord rec = rec
      rw [persistedRecord, ← hr rec hrec]
    have hauth : persistedAuthority s.authoritySnapshot = s.authoritySnapshot := by
      rw [persistedAuthority, ← ha]
    rw [persisted, hmap, hauth, ← hv]

theorem lossless_iff_saved : ∃ s', parse (serialize saved) = .ok s' ∧
    (s' = saved ↔ (∀ rec ∈ saved.registrations, rec.policyGeneration = {}) ∧
      saved.authoritySnapshot.provenance = .unknown) := by
  exact ⟨_, parse_saved, lossless_iff saved _ rfl saved_sized parse_saved⟩

/-- The record comes back without its policy generation, and the authority without its provenance. -/
theorem policy_generation_lost : saved.formatVersion = 1 ∧ ∃ s', parse (serialize saved) = .ok s' ∧ s' ≠ saved ∧
    (s'.registrations.map fun rec => rec.policyGeneration) = [{}] ∧ s'.authoritySnapshot.provenance = .unknown := by
  refine ⟨rfl, _, parse_saved, ?_, rfl, rfl⟩
  intro he
  have := congrArg (fun s => s.authoritySnapshot.provenance) he
  cases this

end Persistence

end RdmaBuffer
