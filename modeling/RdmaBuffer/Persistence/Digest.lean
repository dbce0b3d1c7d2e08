/-
The text under the semantic digest: which facts of a state it covers, and which states it does not tell apart.
-/
import RdmaBuffer.Lib.Delimited
import RdmaBuffer.Persistence.Codec

namespace RdmaBuffer

namespace Persistence

open Codec Delimited

/-! ## The covered facts -/

structure BufferFacts where
  id : BufferId
  generation : BufferGeneration
  byteLength : UInt64
  domain : MemoryDomain

structure RegistrationFacts where
  id : RegistrationId
  bufferId : BufferId
  bufferGeneration : BufferGeneration
  registrationGeneration : RegistrationGeneration
  start : UInt64
  length : UInt64

structure KeyFacts where
  id : RemoteKeyId
  registration : RegistrationId
  keyGeneration : RemoteKeyGeneration
  revoked : Bool

/-- The facts of a state that its text covers, but for the revocations. -/
structure NumericFacts where
  formatVersion : UInt32
  policyGeneration : PolicyGeneration
  coordinatorEpoch : CoordinatorEpoch
  workerBoot : WorkerBootId
  backendGeneration : BackendGeneration
  buffers : List BufferFacts
  registrations : List RegistrationFacts
  domains : List ProtectionDomainId
  remoteKeys : List KeyFacts

def numericFacts (state : PersistableState) : NumericFacts :=
  { formatVersion := state.formatVersion
    policyGeneration := state.policyGeneration
    coordinatorEpoch := state.authoritySnapshot.coordinatorEpoch
    workerBoot := state.authoritySnapshot.workerBoot
    backendGeneration := state.authoritySnapshot.backendGeneration
    buffers := state.buffers.map fun b => ⟨b.id, b.generation, b.byteLength, b.domain⟩
    registrations := state.registrations.map fun rec =>
      ⟨rec.id, rec.bufferId, rec.bufferGeneration, rec.registrationGeneration, rec.start, rec.length⟩
    domains := state.domains
    remoteKeys := state.remoteKeyHistory.map fun k => ⟨k.id, k.registration, k.keyGeneration, k.revoked⟩ }

/-- The states agree on every fact that the text covers. -/
structure AgreeOnDigested (s s' : PersistableState) : Prop where
  numeric : numericFacts s = numericFacts s'
  revocations : s.revocationHistory = s'.revocationHistory

/-! ## The text of each section -/

def bufferText (b : BufferFacts) : StdString :=
  lit "buf" ++ (intToStr b.id.value ++ (lit ":" ++ (intToStr b.generation.value ++ (lit ":" ++ (intToStr b.byteLength ++
    (lit ":" ++ (intToStr (UInt64.ofNat (ByteEnum.ordinal b.domain)) ++ lit ";")))))))

def registrationText (r : RegistrationFacts) : StdString :=
  lit "reg" ++ (intToStr r.id.value ++ (lit ":" ++ (intToStr r.bufferId.value ++ (lit ":" ++
    (intToStr r.bufferGeneration.value ++ (lit ":" ++ (intToStr r.registrationGeneration.value ++ (lit ":" ++
      (intToStr r.start ++ (lit ":" ++ (intToStr r.length ++ lit ";")))))))))))

def domainText (d : ProtectionDomainId) : StdString :=
  lit "dom" ++ (intToStr d.value ++ lit ";")

def keyText (k : KeyFacts) : StdString :=
  lit "rk" ++ (intToStr k.id.value ++ (lit ":" ++ (intToStr k.registration.value ++ (lit ":" ++
    (intToStr k.keyGeneration.value ++ (lit ":" ++ ((if k.revoked then lit "1" else lit "0") ++ lit ";")))))))

/-- The text in front of the lists. -/
def headText (f : NumericFacts) (rest : StdString) : StdString :=
  lit "v" ++ (intToStr f.formatVersion.toUInt64 ++ (lit ":" ++ (lit "pc" ++ (intToStr f.policyGeneration.value ++
    (lit ";" ++ (lit "a" ++ (intToStr f.coordinatorEpoch.value ++ (lit "," ++ (intToStr f.workerBoot.value ++
      (lit "," ++ (intToStr f.backendGeneration.value ++ (lit ";" ++ rest))))))))))))

theorem digestText_eq (s : PersistableState) :
    digestText s = headText (numericFacts s) ((numericFacts s).buffers.flatMap bufferText ++
      ((numericFacts s).registrations.flatMap registrationText ++ ((numericFacts s).domains.flatMap domainText ++
        ((numericFacts s).remoteKeys.flatMap keyText ++ written (lit "rv") (lit ";") s.revocationHistory)))) := by
  unfold digestText headText numericFacts bufferText registrationText domainText keyText written
  simp only [List.flatMap_map, List.append_assoc]

/-! ## Each section is told apart -/

instance : Separator (lit ":") := ⟨_, _, rfl, rfl⟩

instance : Separator (lit ";") := ⟨_, _, rfl, rfl⟩

instance : Separator (lit ",") := ⟨_, _, rfl, rfl⟩

theorem ofNat_ordinal_inj {α : Type} [ByteEnum α] [LawfulByteEnum α] {a b : α}
    (h : UInt64.ofNat (ByteEnum.ordinal a) = UInt64.ofNat (ByteEnum.ordinal b)) : a = b := by
  have hlt : ∀ c : α, ByteEnum.ordinal c < 2 ^ 64 := fun c => by
    have := ordinal_lt c
    have := LawfulByteEnum.length_le (α := α)
    omega
  have h := congrArg UInt64.toNat h
  rw [toNat_ofNat (hlt a), toNat_ofNat (hlt b)] at h
  exact ordinal_inj h

theorem bufferText_inj (b b' : BufferFacts) (x y : StdString) (h : bufferText b ++ x = bufferText b' ++ y) :
    b = b' ∧ x = y := by
  unfold bufferText at h
  simp only [List.append_assoc, List.append_cancel_left_eq, intToStr_append_inj, StrongId.value_inj,
    StrongGeneration.value_inj] at h
  obtain ⟨hid, hgeneration, hlength, hdomain, hrest⟩ := h
  cases b
  cases b'
  simp_all only [BufferFacts.mk.injEq, true_and]
  exact ⟨ofNat_ordinal_inj hdomain, trivial⟩

theorem registrationText_inj (r r' : RegistrationFacts) (x y : StdString)
    (h : registrationText r ++ x = registrationText r' ++ y) : r = r' ∧ x = y := by
  unfold registrationText at h
  simp only [List.append_assoc, List.append_cancel_left_eq, intToStr_append_inj, StrongId.value_inj,
    StrongGeneration.value_inj] at h
  cases r
  cases r'
  simp_all only [and_self]

theorem domainText_inj (d d' : ProtectionDomainId) (x y : StdString) (h : domainText d ++ x = domainText d' ++ y) :
    d = d' ∧ x = y := by
  unfold domainText at h
  simpa only [List.append_assoc, List.append_cancel_left_eq, intToStr_append_inj, StrongId.value_inj] using h

theorem flagText_inj {a b : Bool} {x y : StdString}
    (h : (if a then lit "1" else lit "0") ++ x = (if b then lit "1" else lit "0") ++ y) : a = b ∧ x = y := by
  have h10 : lit "1" ≠ lit "0" := by decide
  obtain ⟨hflag, hrest⟩ := List.append_inj h (by cases a <;> cases b <;> rfl)
  refine ⟨?_, hrest⟩
  cases a <;> cases b
  · rfl
  · exact absurd hflag.symm h10
  · exact absurd hflag h10
  · rfl

theorem keyText_inj (k k' : KeyFacts) (x y : StdString) (h : keyText k ++ x = keyText k' ++ y) : k = k' ∧ x = y := by
  unfold keyText at h
  simp only [List.append_assoc, List.append_cancel_left_eq, intToStr_append_inj, StrongId.value_inj,
    StrongGeneration.value_inj] at h
  obtain ⟨hid, hregistration, hgeneration, hflag⟩ := h
  obtain ⟨hrevoked, hrest⟩ := flagText_inj hflag
  cases k
  cases k'
  simp_all

theorem headText_inj {f f' : NumericFacts} {x y : StdString} (h : headText f x = headText f' y) :
    f.formatVersion = f'.formatVersion ∧ f.policyGeneration = f'.policyGeneration ∧
      f.coordinatorEpoch = f'.coordinatorEpoch ∧ f.workerBoot = f'.workerBoot ∧
      f.backendGeneration = f'.backendGeneration ∧ x = y := by
  unfold headText at h
  simp only [List.append_cancel_left_eq, intToStr_append_inj, StrongId.value_inj, StrongGeneration.value_inj] at h
  obtain ⟨hversion, hrest⟩ := h
  exact ⟨by simpa using congrArg UInt64.toUInt32 hversion, hrest⟩

/-! ## The whole text -/

theorem tag_bufferText (b : BufferFacts) : lit "bu" <+: bufferText b := ⟨_, rfl⟩

theorem tag_registrationText (r : RegistrationFacts) : lit "re" <+: registrationText r := ⟨_, rfl⟩

theorem tag_domainText (d : ProtectionDomainId) : lit "do" <+: domainText d := ⟨_, rfl⟩

theorem tag_keyText (k : KeyFacts) : lit "rk" <+: keyText k := ⟨_, rfl⟩

theorem tag_written (s : StdString) : lit "rv" <+: lit "rv" ++ s ++ lit ";" := by
  rw [List.append_assoc]
  exact List.prefix_append _ _

theorem not_prefix_written (tag : StdString) (hne : tag ≠ []) (hrv : ¬tag <+: lit "rv") (hlen : tag.length ≤ 2)
    (revocations : List StdString) : ¬tag <+: written (lit "rv") (lit ";") revocations := by
  have h := not_prefix_flatMap tag_written hrv hlen (x := []) (by rwa [List.prefix_nil]) revocations
  rwa [List.append_nil] at h

section

variable (tag : StdString) (hne : tag ≠ []) (hlen : tag.length ≤ 2) (hrv : ¬tag <+: lit "rv") (hrk : ¬tag <+: lit "rk")
  (revocations : List StdString) (keys : List KeyFacts)
include hne hlen hrv hrk

theorem not_prefix_keys : ¬tag <+: keys.flatMap keyText ++ written (lit "rv") (lit ";") revocations :=
  not_prefix_flatMap tag_keyText hrk hlen (not_prefix_written tag hne hrv hlen revocations) keys

theorem not_prefix_domains (hdo : ¬tag <+: lit "do") (domains : List ProtectionDomainId) :
    ¬tag <+: domains.flatMap domainText ++ (keys.flatMap keyText ++ written (lit "rv") (lit ";") revocations) :=
  not_prefix_flatMap tag_domainText hdo hlen (not_prefix_keys tag hne hlen hrv hrk revocations keys) domains

theorem not_prefix_registrations (hdo : ¬tag <+: lit "do") (hre : ¬tag <+: lit "re")
    (domains : List ProtectionDomainId) (registrations : List RegistrationFacts) :
    ¬tag <+: registrations.flatMap registrationText ++ (domains.flatMap domainText ++
      (keys.flatMap keyText ++ written (lit "rv") (lit ";") revocations)) :=
  not_prefix_flatMap tag_registrationText hre hlen
    (not_prefix_domains tag hne hlen hrv hrk revocations keys hdo domains) registrations

end

/-- No section runs into the one behind it, as none of these begins with its tag. -/
theorem sections_inj {buffers buffers' : List BufferFacts} {registrations registrations' : List RegistrationFacts}
    {domains domains' : List ProtectionDomainId} {keys keys' : List KeyFacts} {revocations revocations' : List StdString}
    (h : buffers.flatMap bufferText ++ (registrations.flatMap registrationText ++ (domains.flatMap domainText ++
        (keys.flatMap keyText ++ written (lit "rv") (lit ";") revocations))) =
      buffers'.flatMap bufferText ++ (registrations'.flatMap registrationText ++ (domains'.flatMap domainText ++
        (keys'.flatMap keyText ++ written (lit "rv") (lit ";") revocations')))) :
    buffers = buffers' ∧ registrations = registrations' ∧ domains = domains' ∧ keys = keys' ∧
      written (lit "rv") (lit ";") revocations = written (lit "rv") (lit ";") revocations' := by
  have hbu := not_prefix_registrations (lit "bu") (by decide) (by decide) (by decide) (by decide)
  have hre := not_prefix_domains (lit "re") (by decide) (by decide) (by decide) (by decide)
  have hdo := not_prefix_keys (lit "do") (by decide) (by decide) (by decide) (by decide)
  have hrk := not_prefix_written (lit "rk") (by decide) (by decide) (by decide)
  obtain ⟨hb, h⟩ := flatMap_append_inj_of_tag tag_bufferText bufferText_inj
    (hbu _ _ (by decide) (by decide) _ _) (hbu _ _ (by decide) (by decide) _ _) h
  obtain ⟨hr, h⟩ := flatMap_append_inj_of_tag tag_registrationText registrationText_inj
    (hre _ _ (by decide) _) (hre _ _ (by decide) _) h
  obtain ⟨hd, h⟩ := flatMap_append_inj_of_tag tag_domainText domainText_inj (hdo _ _) (hdo _ _) h
  obtain ⟨hk, h⟩ := flatMap_append_inj_of_tag tag_keyText keyText_inj (hrk _) (hrk _) h
  exact ⟨hb, hr, hd, hk, h⟩

/-- The delimiter that a revocation may contain. -/
theorem marked : Marked (lit "rv") (lit ";") := ⟨59, [], rfl, by decide⟩

/-- The text tells states apart by their numeric facts, and by their revocations up to where these are cut. -/
theorem digestText_eq_iff (s s' : PersistableState) :
    digestText s = digestText s' ↔
      numericFacts s = numericFacts s' ∧ Rejoined (lit ";rv") s.revocationHistory s'.revocationHistory := by
  have hdelimiter : lit ";rv" = lit ";" ++ lit "rv" := by decide
  rw [hdelimiter, ← written_eq_iff marked, digestText_eq, digestText_eq]
  constructor
  · intro h
    obtain ⟨hversion, hpolicy, hepoch, hboot, hbackend, hrest⟩ := headText_inj h
    obtain ⟨hb, hr, hd, hk, hrv⟩ := sections_inj hrest
    refine ⟨?_, hrv⟩
    cases hf : numericFacts s
    cases hf' : numericFacts s'
    rw [hf, hf'] at hversion hpolicy hepoch hboot hbackend hb hr hd hk
    dsimp only at hversion hpolicy hepoch hboot hbackend hb hr hd hk
    rw [hversion, hpolicy, hepoch, hboot, hbackend, hb, hr, hd, hk]
  · rintro ⟨hf, hrv⟩
    rw [hf, hrv]

/-- Revocations that do not contain the delimiter are told apart too. -/
theorem digestText_inj_of_plain {s s' : PersistableState} (hs : ∀ r ∈ s.revocationHistory, Plain (lit ";rv") r)
    (hs' : ∀ r ∈ s'.revocationHistory, Plain (lit ";rv") r) (h : digestText s = digestText s') :
    AgreeOnDigested s s' := by
  obtain ⟨hnumeric, hrejoined⟩ := (digestText_eq_iff s s').1 h
  exact ⟨hnumeric, written_inj marked hs hs' (written_rejoined hrejoined)⟩

/-- The digest text of the states is unambiguous: equal texts come from states that agree on what the text covers. -/
def Unambiguous (s s' : PersistableState) : Prop :=
  digestText s = digestText s' → AgreeOnDigested s s'

/-- The states differ in where their revocations are cut at the delimiter, and in nothing else the text covers. -/
structure CutDifferently (s s' : PersistableState) : Prop where
  numeric : numericFacts s = numericFacts s'
  differ : s.revocationHistory ≠ s'.revocationHistory
  rejoined : Rejoined (lit ";rv") s.revocationHistory s'.revocationHistory

/-- The digest text is unambiguous, except for revocations that contain the delimiter between two of them. -/
theorem unambiguous_iff (s s' : PersistableState) : Unambiguous s s' ↔ ¬CutDifferently s s' := by
  unfold Unambiguous
  rw [digestText_eq_iff]
  constructor
  · intro h hcut
    exact hcut.differ (h ⟨hcut.numeric, hcut.rejoined⟩).revocations
  · rintro h ⟨hnumeric, hrejoined⟩
    refine ⟨hnumeric, ?_⟩
    by_contra hdiffer
    exact h ⟨hnumeric, hdiffer, hrejoined⟩

/-- One revocation that contains the delimiter, and the two it falls apart into. -/
theorem revocations_confused :
    ¬Unambiguous { revocationHistory := [lit "a;rvb"] } { revocationHistory := [lit "a", lit "b"] } := by
  intro h
  have hrevocations := (h (by decide +kernel)).revocations
  exact absurd hrevocations (by decide)

end Persistence

end RdmaBuffer
