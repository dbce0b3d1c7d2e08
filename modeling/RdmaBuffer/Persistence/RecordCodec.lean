/-
The readers of the persisted records against their writers. Descriptors, local keys and counters are read
exactly as they are written; the other records are conveyed up to the fields the format does not keep.
-/
import RdmaBuffer.Persistence.Codec

namespace RdmaBuffer

namespace Persistence

open Codec

/-! ## Exact records -/

instance : Exact decodeDescriptor encodeDescriptor := by
  apply Exact.of_ensures
  · unfold decodeDescriptor
    simp only [Exact.ensures_bind, ensures_checkEnum_bind]
    rintro id generation domain address kind byteLength alignment pageSize owner process worker node device dr am rm
      lt pv fr direction rfl registrationMode rfl lifetime rfl provenance rfl freshness rfl policyGeneration
    refine ensures_pure.2 fun bs => ?_
    unfold encodeDescriptor
    simp only [putEnum_eq, List.append_assoc]
  · intro b rest
    unfold decodeDescriptor encodeDescriptor
    simp only [putEnum_eq, List.append_assoc, getId_bind, getGeneration_bind, getEnum_bind, getU64_bind, getU8_bind,
      checkEnum_bind]
    rfl

instance : Exact decodeLocalKey encodeLocalKey := by
  apply Exact.of_ensures
  · unfold decodeLocalKey
    simp only [Exact.ensures_bind, ensures_checkEnum_bind]
    rintro id registration registrationGeneration boot backend t access transport rfl opaqueValue pv provenance rfl
    refine ensures_pure.2 fun bs => ?_
    unfold encodeLocalKey
    simp only [putEnum_eq, List.append_assoc]
  · intro k rest
    unfold decodeLocalKey encodeLocalKey
    simp only [putEnum_eq, List.append_assoc, getId_bind, getGeneration_bind, getU64_bind, getU8_bind, checkEnum_bind]
    rfl

instance : Exact decodeAccounting encodeAccounting := by
  apply Exact.of_ensures
  · unfold decodeAccounting
    simp only [Exact.ensures_bind]
    intros
    refine ensures_pure.2 fun bs => ?_
    simp only [encodeAccounting, List.flatMap_cons, List.flatMap_nil, List.append_assoc, List.nil_append]
  · intro a rest
    unfold decodeAccounting encodeAccounting
    simp only [List.flatMap_cons, List.flatMap_nil, List.append_assoc, List.nil_append, getCounter_bind]
    rfl

/-! ## Keys and authority -/

theorem decodeRemoteKey_encode (k : RemoteKey) (rest : Bytes) :
    decodeRemoteKey (encodeRemoteKey k ++ rest) = some (k, rest) := by
  have hrevoked : ((if k.revoked then (1 : UInt8) else 0) != 0) = k.revoked := by
    cases k.revoked <;> rfl
  unfold decodeRemoteKey encodeRemoteKey putBool
  simp only [putEnum_eq, List.append_assoc, getId_bind, getGeneration_bind, getEnum_bind, getU64_bind, getU8_bind,
    checkEnum_bind, hrevoked]
  rfl

theorem encodeRemoteKey_append_inj {k k' : RemoteKey} {x y : Bytes} :
    encodeRemoteKey k ++ x = encodeRemoteKey k' ++ y ↔ k = k' ∧ x = y := by
  constructor
  · exact word_inj decodeRemoteKey_encode
  · rintro ⟨rfl, rfl⟩
    rfl

instance : Local decodeRemoteKey := by
  unfold decodeRemoteKey
  repeat with_reducible refine Local.bind inferInstance fun _ => ?_
  infer_instance

/-- A snapshot as the file keeps it: without its provenance. -/
def persistedAuthority (s : AuthoritySnapshot) : AuthoritySnapshot := { s with provenance := .unknown }

theorem decodeAuthority_encode (s : AuthoritySnapshot) (rest : Bytes) :
    decodeAuthority (encodeAuthority s ++ rest) = some (persistedAuthority s, rest) := by
  unfold decodeAuthority encodeAuthority
  simp only [putEnum_eq, List.append_assoc, getId_bind, getGeneration_bind, getU8_bind]
  rfl

instance : Local decodeAuthority := by
  unfold decodeAuthority
  repeat with_reducible refine Local.bind inferInstance fun _ => ?_
  infer_instance

/-- What is read has no provenance. -/
theorem decodeAuthority_kept : Ensures decodeAuthority fun _ s _ => persistedAuthority s = s := by
  unfold decodeAuthority
  simp only [Exact.ensures_bind]
  intros
  exact ensures_pure.2 fun bs => rfl

/-! ## Widths -/

theorem length_encodeDescriptor (b : BufferDescriptor) : (encodeDescriptor b).length = 104 := by
  unfold encodeDescriptor
  simp only [putEnum_eq, List.length_append, length_putU64, length_putU8]

theorem length_encodeLocalKey (k : LocalKey) : (encodeLocalKey k).length = 51 := by
  unfold encodeLocalKey
  simp only [putEnum_eq, List.length_append, length_putU64, length_putU8]

theorem length_encodeAccounting (a : Accounting) : (encodeAccounting a).length = 152 := by
  unfold encodeAccounting
  simp only [List.flatMap_cons, List.flatMap_nil, List.length_append, length_putU64, List.length_nil]

theorem length_encodeAuthority (s : AuthoritySnapshot) : (encodeAuthority s).length = 97 := by
  unfold encodeAuthority
  simp only [putEnum_eq, List.length_append, length_putU64, length_putU8]

/-! ## Registrations -/

/-- A record as the file keeps it: without its policy generation. -/
def persistedRecord (rec : RegistrationRecord) : RegistrationRecord := { rec with policyGeneration := {} }

/-- The strings a reader accepts in a record. -/
def RecordFits (rec : RegistrationRecord) : Prop :=
  rec.backendHandle.length ≤ maxCount ∧ rec.invalidationReason.length ≤ maxCount
deriving Decidable

/-- What every `std::string` guarantees. -/
structure RecordSized (rec : RegistrationRecord) : Prop where
  backendHandle : rec.backendHandle.length < 2 ^ 64
  invalidationReason : rec.invalidationReason.length < 2 ^ 64

theorem decodeRegistration_conveys {rec : RegistrationRecord} (h : RecordSized rec) :
    Conveys decodeRegistration encodeRegistration RecordFits persistedRecord rec := by
  intro rest
  unfold decodeRegistration encodeRegistration
  simp only [putEnum_eq, List.append_assoc, getId_bind, getGeneration_bind, getU64_bind, getU8_bind, checkEnum_bind]
  refine ((getStr_conveys h.backendHandle maxCount).bind ((getStr_conveys h.invalidationReason maxCount).bind
    (p := True) (o := some (persistedRecord rec, rest)) ?_)).trans ?_
  · rw [Exact.read_bind decodeDescriptor, bind_of_some (decodeRemoteKey_encode _ _), Exact.read_bind decodeLocalKey]
    rfl
  · simp only [and_true]
    rfl

/-- What is read is within the reader's bounds. -/
theorem decodeRegistration_fits : Ensures decodeRegistration fun _ rec _ => RecordFits rec := by
  have hmax : maxCount < 2 ^ 64 := by decide
  unfold decodeRegistration
  simp only [Exact.ensures_bind, ensures_checkEnum_bind]
  intros
  refine (ensures_getStr hmax).value_bind fun backendHandle hhandle => ?_
  refine (ensures_getStr hmax).value_bind fun invalidationReason hreason => ?_
  refine ensures_true.value_bind fun descriptor _ => ?_
  refine ensures_true.value_bind fun remoteKey _ => ?_
  refine ensures_true.value_bind fun localKey _ => ensures_pure.2 fun bs => ?_
  exact ⟨hhandle, hreason⟩

/-- What is read has no policy generation. -/
theorem decodeRegistration_kept : Ensures decodeRegistration fun _ rec _ => persistedRecord rec = rec := by
  unfold decodeRegistration
  simp only [Exact.ensures_bind, ensures_checkEnum_bind]
  intros
  refine ensures_true.value_bind fun backendHandle _ => ?_
  refine ensures_true.value_bind fun invalidationReason _ => ?_
  refine ensures_true.value_bind fun descriptor _ => ?_
  refine ensures_true.value_bind fun remoteKey _ => ?_
  exact ensures_true.value_bind fun localKey _ => ensures_pure.2 fun bs => rfl

/-- Records are told apart in the file, up to what it does not keep. -/
theorem encodeRegistration_append_inj {rec rec' : RegistrationRecord} (h : RecordSized rec) (h' : RecordSized rec')
    {x y : Bytes} (he : encodeRegistration rec ++ x = encodeRegistration rec' ++ y) :
    persistedRecord rec = persistedRecord rec' ∧ x = y := by
  unfold encodeRegistration at he
  simp only [List.append_assoc, Exact.append_inj_iff getU64, Exact.append_inj_iff getU8, putEnum_append_inj,
    putStr_append_inj h.backendHandle h'.backendHandle,
    putStr_append_inj h.invalidationReason h'.invalidationReason, Exact.append_inj_iff decodeDescriptor,
    Exact.append_inj_iff decodeLocalKey, encodeRemoteKey_append_inj, StrongId.value_inj,
    StrongGeneration.value_inj] at he
  cases rec
  cases rec'
  simp_all [persistedRecord]

instance : Local decodeRegistration := by
  unfold decodeRegistration
  repeat with_reducible refine Local.bind inferInstance fun _ => ?_
  infer_instance

/-! ## Backends -/

/-- The strings and the list a reader accepts in a backend's summary. -/
def BackendFits (b : BackendInfo) : Prop :=
  b.name.length ≤ 256 ∧ b.description.length ≤ 1024 ∧ b.capabilities.supportedDomains.length ≤ maxCount
deriving Decidable

/-- What every `std::string` and `std::vector` guarantees. -/
structure BackendSized (b : BackendInfo) : Prop where
  name : b.name.length < 2 ^ 64
  description : b.description.length < 2 ^ 64
  supportedDomains : b.capabilities.supportedDomains.length < 2 ^ 64

theorem cap8_toByte (c : CapabilityState) : cap8 (toByte c) = c := by
  rw [cap8, ofByte_toByte]
  rfl

theorem decodeBackendInfo_conveys {b : BackendInfo} (h : BackendSized b) :
    Conveys decodeBackendInfo encodeBackendInfo BackendFits id b := by
  intro rest
  have hdomains := getCounted_conveys_id (Exact.read getEnum) h.supportedDomains
  unfold decodeBackendInfo encodeBackendInfo
  simp only [fail_bind, ← getCounted_bind]
  -- the list of domains is written in place
  have hlist : putSize b.capabilities.supportedDomains.length ++ b.capabilities.supportedDomains.flatMap putEnum =
    encodeList putEnum b.capabilities.supportedDomains := rfl
  simp only [putEnum_eq, List.append_assoc, getId_bind]
  refine ((getStr_conveys h.name 256).bind ((getStr_conveys h.description 1024).bind
    (p := b.capabilities.supportedDomains.length ≤ maxCount ∧ True) (o := some (b, rest)) ?_)).trans ?_
  · simp only [id, getGeneration_bind, getU64_bind, getU8_bind, checkEnum_bind]
    rw [← List.append_assoc (putSize _), hlist]
    refine hdomains.bind ?_
    simp only [id, getU64_bind, getU8_bind, cap8_toByte, ofByte_toByte, Option.getD_some]
    rfl
  · simp only [and_true]
    rfl

theorem decodeBackendInfo_fits : Ensures decodeBackendInfo fun _ b _ => BackendFits b := by
  unfold decodeBackendInfo
  simp only [fail_bind, ← getCounted_bind]
  refine ensures_true.value_bind fun id _ => ?_
  refine (ensures_getStr (by decide)).value_bind fun name hname => ?_
  refine (ensures_getStr (by decide)).value_bind fun description hdescription => ?_
  simp only [Exact.ensures_bind, ensures_checkEnum_bind]
  intros
  refine (ensures_getCounted ensures_true).value_bind fun supportedDomains hdomains => ?_
  simp only [Exact.ensures_bind]
  intros
  refine ensures_pure.2 fun bs => ?_
  exact ⟨hname, hdescription, hdomains.1⟩

instance : Local decodeBackendInfo := by
  unfold decodeBackendInfo
  simp only [fail_bind, ← getCounted_bind]
  repeat with_reducible refine Local.bind inferInstance fun _ => ?_
  infer_instance

end Persistence

end RdmaBuffer
