/-
The canonical form of an accepted file. Serializing what was parsed gives the file back up to the bytes the
readers normalise: the flag of a remote key, and the capability bytes of a backend.
-/
import RdmaBuffer.Persistence.RoundTrip

namespace RdmaBuffer

namespace Persistence

open Codec

/-! ## Bytes taken as they stand -/

section

variable {α : Type} {f : Bytes → Reader α}

theorem getRaw_split {m : Nat} (n : Nat) {w : Bytes} (h : w.length = m) (rest : Bytes) :
    (getRaw (n + m) >>= f) (w ++ rest) = (getRaw n >>= fun v => f (w ++ v)) rest := by
  by_cases hn : n ≤ rest.length
  · have h₁ : getRaw (n + m) (w ++ rest) = some (w ++ rest.take n, rest.drop n) := by
      apply getRaw_eq_some.2
      constructor
      · rw [List.append_assoc, List.take_append_drop]
      · rw [List.length_append, List.length_take_of_le hn]
        omega
    have h₂ : getRaw n rest = some (rest.take n, rest.drop n) := if_pos hn
    rw [bind_of_some h₁, bind_of_some h₂]
  · have h₁ : getRaw (n + m) (w ++ rest) = none := if_neg (by rw [List.length_append]; omega)
    have h₂ : getRaw n rest = none := if_neg hn
    rw [bind_of_none h₁, bind_of_none h₂]

theorem getRaw_putU64 (n : Nat) (v : UInt64) (rest : Bytes) :
    (getRaw (n + 8) >>= f) (putU64 v ++ rest) = (getRaw n >>= fun w => f (putU64 v ++ w)) rest :=
  getRaw_split n (length_leBytes 8 v) rest

theorem getRaw_putU8 (n : Nat) (b : UInt8) (rest : Bytes) :
    (getRaw (n + 1) >>= f) (putU8 b ++ rest) = (getRaw n >>= fun w => f (putU8 b ++ w)) rest :=
  getRaw_split n (show (putU8 b).length = 1 from rfl) rest

theorem getRaw_zero (rest : Bytes) : (getRaw 0 >>= f) rest = f [] rest :=
  bind_of_some rfl

theorem getRaw_word {n : Nat} {w : Bytes} (h : w.length = n) (rest : Bytes) : (getRaw n >>= f) (w ++ rest) = f w rest :=
  bind_of_some (getRaw_append h rest)

theorem getStr_bind {m : Nat} (hm : m < 2 ^ 64) {s : StdString} (h : s.length ≤ m) (rest : Bytes) :
    (getStr m >>= f) (putStr s ++ rest) = f s rest :=
  bind_of_some (((getStr_exactOn hm) _ _ _).2 ⟨h, rfl⟩)

end

/-! ## Readers that normalise -/

section

variable {α β : Type}

/-- What `dec` reads is written by `enc` as `t` normalises it. -/
def Normalises (t : Reader Bytes) (dec : Reader α) (enc : α → Bytes) : Prop :=
  Ensures dec fun bs a rest => t bs = some (enc a, rest)

theorem Normalises.of_exact {dec : Reader α} {enc : α → Bytes} [Exact dec enc] {n : Nat}
    (h : ∀ a, (enc a).length = n) : Normalises (getRaw n) dec enc := by
  intro bs a rest ha
  rw [(Exact.read_iff bs a rest).1 ha, getRaw_append (h a)]

theorem Normalises.ensures_bind {t : Reader Bytes} {dec : Reader α} {enc : α → Bytes} (h : Normalises t dec enc)
    {f : α → Reader β} {g : Bytes → Reader Bytes} {w : β → Bytes}
    (hf : ∀ a, Ensures (f a) fun bs b rest => g (enc a) bs = some (w b, rest)) :
    Ensures (dec >>= f) fun bs b rest => (t >>= g) bs = some (w b, rest) := by
  intro bs b rest hb
  obtain ⟨a, mid, ha, hb⟩ := bind_eq_some.1 hb
  rw [bind_of_some (h bs a mid ha)]
  exact hf a mid b rest hb

theorem Normalises.read_bind {t : Reader Bytes} {dec : Reader α} {enc : α → Bytes} {P : α → Prop}
    {f : Bytes → Reader β} (h : Normalises t dec enc) (hd : ExactOn dec enc P) {a : α} (ha : P a) (rest : Bytes) :
    (t >>= f) (enc a ++ rest) = f (enc a) rest :=
  bind_of_some (h _ a rest ((hd _ a rest).2 ⟨ha, rfl⟩))

theorem Normalises.getMany {t : Reader Bytes} {dec : Reader α} {enc : α → Bytes} (h : Normalises t dec enc) (n : Nat) :
    Ensures (getMany n dec) fun bs as rest => as.length = n ∧ RdmaBuffer.getMany n t bs = some (as.map enc, rest) := by
  induction n with
  | zero => exact ensures_pure.2 fun bs => ⟨rfl, rfl⟩
  | succ n ih =>
    intro bs as rest has
    obtain ⟨a, mid, ha, has⟩ := bind_eq_some.1 has
    obtain ⟨as', mid', has', has⟩ := bind_eq_some.1 has
    cases has
    obtain ⟨hlen, hmany⟩ := ih mid as' rest has'
    refine ⟨congrArg (· + 1) hlen, ?_⟩
    rw [RdmaBuffer.getMany, bind_of_some (h bs a mid ha), bind_of_some hmany]
    rfl

/-- A counted sequence of normalised words. -/
def normalList (t : Reader Bytes) : Reader Bytes := do
  let ws ← getCounted t
  pure (encodeList (fun w => w) ws)

theorem Normalises.counted {t : Reader Bytes} {dec : Reader α} {enc : α → Bytes} (h : Normalises t dec enc) :
    Normalises (normalList t) (getCounted dec) (encodeList enc) := by
  intro bs as rest has
  have has' := has
  unfold getCounted at has'
  obtain ⟨n, mid, hn, -⟩ := bind_eq_some.1 has'
  obtain rfl := (Exact.read_iff (r := getU64) _ _ _).1 hn
  rw [getCounted_apply] at has
  split at has
  · rename_i hle
    obtain ⟨-, hmany⟩ := h.getMany n.toNat mid as rest has
    rw [normalList, bind_of_some ((getCounted_apply t n mid).trans ((if_pos hle).trans hmany))]
    simp only [encodeList, List.flatMap_map, List.length_map]
    rfl
  · cases has

end

/-! ## Normal form -/

/-- A remote key with its flag as zero or one. -/
def normalRemoteKey : Reader Bytes := do
  -- the identities, the generations, the access, the range and the opaque value
  let front ← getRaw 90
  let rv ← getU8
  let pv ← getRaw 1
  pure (front ++ (putBool (rv != 0) ++ pv))

def normalRegistration : Reader Bytes := do
  -- everything up to the backend's handle
  let front ← getRaw 182
  let backendHandle ← getStr maxCount
  let invalidationReason ← getStr maxCount
  let descriptor ← getRaw 104
  let remoteKey ← normalRemoteKey
  let localKey ← getRaw 51
  pure (front ++ (putStr backendHandle ++ (putStr invalidationReason ++ (descriptor ++ (remoteKey ++ localKey)))))

def normalStr : Reader Bytes := do
  let s ← getStr maxCount
  pure (putStr s)

/-- A capability byte; those past the last one stand for it. -/
def normalCapability (b : UInt8) : UInt8 := if b ≤ 2 then b else 2

/-- A backend's summary with its capability bytes in range. -/
def normalBackendInfo : Reader Bytes := do
  let id ← getRaw 8
  let name ← getStr 256
  let description ← getStr 1024
  -- provenance, state, generation and the two counts
  let state ← getRaw 26
  let supportedDomains ← normalList (getRaw 1)
  let lengths ← getRaw 16
  -- the thirteen capabilities and their provenance
  let capabilities ← getRaw 14
  pure (id ++ (putStr name ++ (putStr description ++ (state ++ (supportedDomains ++
    (lengths ++ capabilities.map normalCapability))))))

theorem normalRemoteKey_normalises : Normalises normalRemoteKey decodeRemoteKey encodeRemoteKey := by
  unfold Normalises decodeRemoteKey
  simp only [Exact.ensures_bind, ensures_checkEnum_bind]
  rintro id registration registrationGeneration keyGeneration bufferGeneration boot process backend transport access
    start length opaqueValue rv pv provenance rfl
  refine ensures_pure.2 fun bs => ?_
  unfold normalRemoteKey encodeRemoteKey
  simp only [putEnum_eq, getRaw_putU64, getRaw_putU8, getRaw_zero, getU8_bind, List.append_assoc, List.nil_append,
    List.append_nil]
  rfl

theorem normalRegistration_normalises : Normalises normalRegistration decodeRegistration encodeRegistration := by
  have hmax : maxCount < 2 ^ 64 := by decide
  unfold Normalises decodeRegistration
  simp only [Exact.ensures_bind, ensures_checkEnum_bind]
  rintro id bufferId bufferGeneration registrationGeneration backend backendGeneration transport nic dom tc acc domain
    rfl transportClass rfl start length pageAlignment owner process worker boot epoch device domainId
    registrationTimestampNs pv fr lc provenance rfl freshness rfl lifecycle rfl leaseCount refCount memoryRegionId
  rw [(getStr_exactOn hmax).ensures_bind]
  intro backendHandle hhandle
  rw [(getStr_exactOn hmax).ensures_bind]
  intro invalidationReason hreason
  rw [Exact.ensures_bind]
  intro descriptor
  unfold normalRegistration
  simp only [getRaw_putU64, getRaw_putU8, getRaw_zero, getStr_bind hmax hhandle, getStr_bind hmax hreason,
    getRaw_word (length_encodeDescriptor descriptor)]
  -- from here on the key may be read from other bytes than it is written in
  refine normalRemoteKey_normalises.ensures_bind fun remoteKey => ?_
  rw [Exact.ensures_bind]
  intro localKey
  refine ensures_pure.2 fun bs => ?_
  rw [getRaw_word (length_encodeLocalKey localKey)]
  unfold encodeRegistration
  simp only [putEnum_eq, List.append_assoc, List.append_nil]
  rfl

/-- The fields after the version, with the keys and backends among them in normal form. -/
def normalFields : Reader Bytes := do
  let policyGeneration ← getRaw 8
  let authoritySnapshot ← getRaw 97
  let buffers ← normalList (getRaw 104)
  let registrations ← normalList normalRegistration
  let domains ← normalList (getRaw 8)
  let remoteKeyHistory ← normalList normalRemoteKey
  let localKeyHistory ← normalList (getRaw 51)
  let revocationHistory ← normalList normalStr
  let accountingSummary ← getRaw 152
  let backendCapabilitySnapshot ← normalList normalBackendInfo
  pure (policyGeneration ++ (authoritySnapshot ++ (buffers ++ (registrations ++ (domains ++ (remoteKeyHistory ++
    (localKeyHistory ++ (revocationHistory ++ (accountingSummary ++ backendCapabilitySnapshot)))))))))

/-- A file with its fields in normal form, sealed again. -/
def normalForm (bytes : Bytes) : Option Bytes :=
  (normalFields ((bytes.take (bytes.length - 4)).drop 8)).map fun x => sealed (bytes.take 8 ++ x.1)

/-! ## The readers and their normal forms -/

/-- The default for a byte out of range is the last of three values. -/
theorem toByte_getD {α : Type} [ByteEnum α] [LawfulByteEnum α] {u : α} (hl : (ByteEnum.values : List α).length = 3)
    (hu : toByte u = 2) (b : UInt8) : toByte ((ofByte b).getD u) = normalCapability b := by
  unfold normalCapability
  -- a byte that is read is one of the three values
  rcases h : (ofByte b : Option α) with _ | a
  · have hb : 3 ≤ b.toNat := hl ▸ List.getElem?_eq_none_iff.1 h
    rw [if_neg]
    · exact hu
    · intro hle
      have : b.toNat ≤ 2 := UInt8.le_iff_toNat_le.1 hle
      omega
  · obtain rfl := ofByte_eq_some.1 h
    rw [if_pos]
    · rfl
    · apply UInt8.le_iff_toNat_le.2
      have := ordinal_lt a
      rw [toNat_toByte]
      show ByteEnum.ordinal a ≤ 2
      omega

theorem map_putU8 (f : UInt8 → UInt8) (b : UInt8) : (putU8 b).map f = putU8 (f b) :=
  rfl

theorem normalBackendInfo_normalises : Normalises normalBackendInfo decodeBackendInfo encodeBackendInfo := by
  have hdomains : ExactOn (getCounted getEnum) (encodeList (putEnum : MemoryDomain → Bytes))
      fun ds => ds.length ≤ maxCount :=
    getCounted_exactOn
  have hlist : Normalises (getRaw 1) getEnum (putEnum : MemoryDomain → Bytes) := Normalises.of_exact length_putEnum
  have hcap (b : UInt8) : toByte (cap8 b) = normalCapability b := toByte_getD rfl rfl b
  have hprovenance (b : UInt8) : toByte ((ofByte b).getD Provenance.unknown) = normalCapability b :=
    toByte_getD rfl rfl b
  unfold Normalises decodeBackendInfo
  simp only [fail_bind, ← getCounted_bind]
  rw [Exact.ensures_bind]
  intro id
  rw [(getStr_exactOn (by decide)).ensures_bind]
  intro name hname
  rw [(getStr_exactOn (by decide)).ensures_bind]
  intro description hdescription
  simp only [Exact.ensures_bind, ensures_checkEnum_bind]
  rintro pv st provenance rfl state rfl generation protDomainCount registrationCount
  rw [hdomains.ensures_bind]
  intro supportedDomains hlength
  simp only [Exact.ensures_bind]
  rintro maxRegistrationLength requiredAlignment remoteRead remoteWrite remoteAtomic hostPinned pageableRegistration
    cudaDevice cudaManaged onDemandPaging oneSided multiprocess multinode keyRotation revocation cp
  refine ensures_pure.2 fun bs => ?_
  unfold normalBackendInfo
  simp only [getRaw_putU64, getRaw_putU8, getRaw_zero, getStr_bind (show 256 < 2 ^ 64 by decide) hname,
    getStr_bind (show 1024 < 2 ^ 64 by decide) hdescription, hlist.counted.read_bind hdomains hlength]
  unfold encodeBackendInfo encodeList
  simp only [putEnum_eq, hcap, hprovenance, List.map_append, map_putU8, List.append_assoc,
    List.append_nil]
  rfl

theorem normalStr_normalises : Normalises normalStr (getStr maxCount) putStr := by
  have hmax : maxCount < 2 ^ 64 := by decide
  intro bs s rest h
  obtain ⟨hs, rfl⟩ := (getStr_exactOn hmax bs s rest).1 h
  rw [normalStr, getStr_bind hmax hs]
  rfl

/-- An authority is read as it is written, but for its provenance, which is written as unknown. -/
theorem decodeAuthority_unknown {bs rest : Bytes} {s : AuthoritySnapshot} (h : decodeAuthority bs = some (s, rest)) :
    96 < bs.length ∧ bs.set 96 2 = encodeAuthority s ++ rest := by
  suffices hread : Ensures decodeAuthority fun bs s rest =>
      96 < bs.length ∧ bs.set 96 2 = encodeAuthority s ++ rest from
    hread bs s rest h
  unfold decodeAuthority
  simp only [Exact.ensures_bind]
  intro coordinatorEpoch workerBoot worker owner ownerGeneration workerGeneration policyGeneration backendGeneration
    transportGeneration nicGeneration node process pv
  refine ensures_pure.2 fun bs => ⟨?_, ?_⟩
  · simp only [List.length_append, length_putU64, putU8, List.length_cons]
    omega
  · unfold encodeAuthority
    simp only [putU8, List.cons_append, List.nil_append, length_putU64, Nat.reduceLeDiff, List.set_append_right,
      Nat.reduceSub, Std.le_refl, Nat.sub_self, List.set_cons_zero, List.append_assoc, putEnum_eq]
    rfl

theorem fields_normal {w rest : Bytes} {s : PersistableState} (h : fields w = some (s, rest)) :
    104 < w.length ∧ normalFields (w.set 104 2) = some (encodeFields s, rest) := by
  have hdescriptor : Normalises (getRaw 104) decodeDescriptor encodeDescriptor :=
    Normalises.of_exact length_encodeDescriptor
  have hdomain : Normalises (getRaw 8) getId fun d : ProtectionDomainId => putU64 d.value :=
    Normalises.of_exact fun d => length_putU64 d.value
  have hlocal : Normalises (getRaw 51) decodeLocalKey encodeLocalKey := Normalises.of_exact length_encodeLocalKey
  have hacct : Normalises (getRaw 152) decodeAccounting encodeAccounting := Normalises.of_exact length_encodeAccounting
  unfold fields at h
  obtain ⟨policyGeneration, mid, hp, h⟩ := bind_eq_some.1 h
  obtain ⟨authority, mid', ha, h⟩ := bind_eq_some.1 h
  obtain ⟨hlen, hset⟩ := decodeAuthority_unknown ha
  rw [(Exact.read_iff _ _ _).1 hp]
  -- the byte stands behind the policy generation
  have hpolicy : (putU64 policyGeneration.value).length = 8 := length_putU64 _
  refine ⟨by rw [List.length_append, hpolicy]; omega, ?_⟩
  rw [List.set_append_right 104 2 (by omega), hpolicy, hset]
  unfold normalFields
  rw [getRaw_word (length_putU64 _), getRaw_word (length_encodeAuthority _)]
  refine (hdescriptor.counted.ensures_bind fun buffers => normalRegistration_normalises.counted.ensures_bind
    fun registrations => hdomain.counted.ensures_bind fun domains => normalRemoteKey_normalises.counted.ensures_bind
    fun remoteKeys => hlocal.counted.ensures_bind fun localKeys => normalStr_normalises.counted.ensures_bind
    fun revocations => hacct.ensures_bind fun accounting => normalBackendInfo_normalises.counted.ensures_bind
    fun backends => ensures_pure.2 fun bs => ?_) mid' s rest h
  rfl

/-! ## The file -/

theorem parse_normalForm {b : Bytes} {s : PersistableState} (h : parse b = .ok s) :
    normalForm (b.set 112 2) = some (serialize s) := by
  obtain ⟨w, rfl, hf, -⟩ := parse_eq_ok.1 h
  obtain ⟨hlong, hnormal⟩ := fields_normal hf
  have hheader : header.length = 8 := rfl
  -- past the header, the byte stands behind the policy generation and the twelve values of the authority
  have hset : (sealed (header ++ w)).set 112 2 = header ++ w.set 104 2 ++ putU32 (crc32 (header ++ w)) := by
    rw [sealed, List.set_append_left 112 2 (by rw [List.length_append]; omega), List.set_append_right 112 2 (by omega),
      hheader]
  have hlen : ((sealed (header ++ w)).set 112 2).length - 4 = (header ++ w.set 104 2).length := by
    rw [hset, List.length_append, length_putU32, Nat.add_sub_cancel]
  have hbody : ((sealed (header ++ w)).set 112 2).take (((sealed (header ++ w)).set 112 2).length - 4) =
      header ++ w.set 104 2 := by
    rw [hlen, hset]
    exact List.take_left
  have hfront : ((sealed (header ++ w)).set 112 2).take 8 = header := by
    rw [hset, List.append_assoc]
    exact List.take_left' hheader
  unfold normalForm
  rw [hbody, hfront, List.drop_left' hheader, hnormal, serialize_eq]
  rfl

theorem set_eq_of_getElem {b : Bytes} {i : Nat} {x : UInt8} (h : b[i]? = some x) : b.set i x = b := by
  obtain ⟨hlt, rfl⟩ := List.getElem?_eq_some_iff.1 h
  exact List.set_getElem_self hlt

/-- Serializing what was parsed gives the normal form of the file, but for the provenance byte of its authority; so files
that are parsed to one state have one normal form but for that byte. Where the byte says unknown it is the file itself if
that is in normal form, and of such files no two are parsed to one state. -/
theorem canonical_up_to_normal_form (b : Bytes) (s : PersistableState) (h : parse b = .ok s) :
    (∃ provenance, normalForm (b.set 112 provenance) = some (serialize s)) ∧
    (∀ b', parse b' = .ok s → ∃ provenance, normalForm (b'.set 112 provenance) = normalForm (b.set 112 provenance)) ∧
    (b[112]? = some 2 →
      normalForm b = some (serialize s) ∧ (serialize s = b ↔ normalForm b = some b) ∧
        ∀ b', parse b' = .ok s → b'[112]? = some 2 → normalForm b = some b → normalForm b' = some b' → b' = b) := by
  have hnormal : ∀ {b : Bytes}, parse b = .ok s → b[112]? = some 2 → normalForm b = some (serialize s) := by
    intro b h hb
    have hn := parse_normalForm h
    rwa [set_eq_of_getElem hb] at hn
  refine ⟨⟨2, parse_normalForm h⟩, fun b' h' => ⟨2, (parse_normalForm h').trans (parse_normalForm h).symm⟩, fun hb => ?_⟩
  have hn := hnormal h hb
  refine ⟨hn, ?_, ?_⟩
  · rw [hn, Option.some.injEq]
  · -- both are the serialization of the one state
    intro b' h' hb' hb₀ hb₀'
    rw [hn] at hb₀
    rw [hnormal h' hb'] at hb₀'
    exact Option.some.inj (hb₀'.symm.trans hb₀)

/-- The state of a file with one backend in it. -/
def summarized : PersistableState := { backendCapabilitySnapshot := [{}] }

/-- Its fields, with an impossible provenance of the backend's capabilities. -/
def overrun : Bytes := (encodeFields summarized).dropLast ++ [7]

set_option maxRecDepth 2000 in
theorem fields_summarized : fields (encodeFields summarized) = some (summarized, []) := by
  rfl

set_option maxRecDepth 2000 in
theorem fields_overrun : fields overrun = some (summarized, []) := by
  rfl

set_option maxRecDepth 2000 in
theorem overrun_ne : encodeFields summarized ≠ overrun := by
  decide

theorem parse_overrun : parse (sealed (header ++ overrun)) = .ok summarized :=
  parse_eq_ok.2 ⟨overrun, rfl, fields_overrun, rfl⟩

set_option maxRecDepth 2000 in
theorem sealed_overrun_getElem : (sealed (header ++ overrun))[112]? = some 2 := by
  rw [sealed, List.getElem?_append_left (by decide)]
  rfl

theorem canonical_up_to_normal_form_overrun : normalForm (sealed (header ++ overrun)) = some (serialize summarized) :=
  ((canonical_up_to_normal_form _ summarized parse_overrun).2.2 sealed_overrun_getElem).1

/-- The byte is out of range, the file is accepted, and the state it is parsed to has another file. -/
theorem out_of_range_accepted : parse (sealed (header ++ overrun)) = .ok summarized ∧
    serialize summarized ≠ sealed (header ++ overrun) ∧ parse (serialize summarized) = .ok summarized := by
  refine ⟨parse_overrun, ?_, ?_⟩
  · rw [serialize_eq]
    intro he
    exact overrun_ne (List.append_cancel_left (sealed_injective he))
  · exact parse_eq_ok.2 ⟨_, serialize_eq _, fields_summarized, rfl⟩

end Persistence

end RdmaBuffer
