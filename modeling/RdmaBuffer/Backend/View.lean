/-
The backends as ledgers. Both issue their handles from a sequence that does not repeat while it is in
bounds, and every method and every control moves the ledger of live entries by one ledger step.
-/
import Mathlib.Tactic.Simps.Basic
import RdmaBuffer.Backend.Attached
import RdmaBuffer.Lib.Ledger
import RdmaBuffer.Lib.Scan
import RdmaBuffer.Lib.Word

namespace RdmaBuffer

/-! ## What both backends keep -/

/-- What a backend keeps of a live registration. -/
structure LiveEntry where
  base : UInt64
  length : UInt64
  granted : AccessMask
  keyGeneration : RemoteKeyGeneration
  revoked : Bool := false
  revalidateRequired : Bool := false

@[simps]
def SyntheticEntry.view (e : SyntheticEntry) : LiveEntry :=
  { base := e.reg.registeredBase, length := e.reg.registeredLength, granted := e.reg.grantedAccess
    keyGeneration := e.keyGeneration, revoked := e.revoked, revalidateRequired := e.revalidateRequired }

@[simps]
def ReferenceEntry.view (e : ReferenceEntry) : LiveEntry :=
  { base := e.reg.registeredBase, length := e.reg.registeredLength, granted := e.reg.grantedAccess
    keyGeneration := e.reg.keys.remoteKeyGeneration, revoked := e.revoked }

/-- The entry a registration of the descriptor starts with. -/
def BufferDescriptor.liveEntry (d : BufferDescriptor) : LiveEntry :=
  { base := d.base.address, length := d.byteLength, granted := d.requestedAccess, keyGeneration := ⟨1⟩ }

namespace Backend

open IBackend hiding id

def live : Backend → StdString → Option LiveEntry
  | .synthetic b, h => (b.entries.lookup h).map SyntheticEntry.view
  | .reference b, h => (b.entries.lookup h).map ReferenceEntry.view

def nextSeq : Backend → UInt64
  | .synthetic b => b.nextSeq
  | .reference b => b.nextSeq

/-- The handle of the registration with sequence number `n`. -/
def handleAt : Backend → Nat → StdString
  | .synthetic b, n => SyntheticBackend.makeHandle (b.regionAt (UInt64.ofNat n))
  | .reference _, n => ReferenceBackend.makeHandle (ReferenceBackend.regionAt (UInt64.ofNat n))

def ledger (b : Backend) : Ledger StdString LiveEntry := { live := b.live, next := b.nextSeq.toNat }

/-- The sequence has not repeated a handle yet. -/
def InBounds : Backend → Prop
  | .synthetic b => b.nextSeq.toNat ≤ 2 ^ 57
  | .reference b => b.nextSeq ≠ 0

instance : DecidablePred InBounds
  | .synthetic b => inferInstanceAs (Decidable (b.nextSeq.toNat ≤ 2 ^ 57))
  | .reference b => inferInstanceAs (Decidable (b.nextSeq ≠ 0))

/-- Whether the backend serves operations of the kind at present. -/
def supports : Backend → OperationKind → Bool
  | .synthetic b, .write => b.remoteWriteSupported
  | .synthetic b, .read => b.remoteReadSupported
  | .synthetic b, .atomicCompareSwap => b.atomicSupported
  | .reference _, .atomicCompareSwap => false
  | .reference _, _ => true

/-! ## Handles do not repeat -/

theorem shiftLeft_seven_inj {n m : UInt64} (hn : n.toNat < 2 ^ 57) (hm : m.toNat < 2 ^ 57)
    (h : n <<< 7 = m <<< 7) : n = m := by
  have h := congrArg UInt64.toNat h
  rw [UInt64.toNat_shiftLeft, UInt64.toNat_shiftLeft] at h
  have h7 : (7 : UInt64).toNat % 64 = 7 := rfl
  rw [h7, Nat.shiftLeft_eq, Nat.shiftLeft_eq, Nat.mod_eq_of_lt (by omega), Nat.mod_eq_of_lt (by omega)] at h
  exact UInt64.toNat_inj.1 (by omega)

theorem synthetic_handle_inj (b : SyntheticBackend) {n m : UInt64} (hn : n.toNat < 2 ^ 57) (hm : m.toNat < 2 ^ 57)
    (h : SyntheticBackend.makeHandle (b.regionAt n) = SyntheticBackend.makeHandle (b.regionAt m)) : n = m := by
  have h := toHex_inj (List.append_cancel_left h)
  simp only [SyntheticBackend.regionAt, UInt64.xor_left_inj, UInt64.xor_right_inj] at h
  exact shiftLeft_seven_inj hn hm h

theorem reference_handle_inj {n m : UInt64}
    (h : ReferenceBackend.makeHandle (ReferenceBackend.regionAt n) =
      ReferenceBackend.makeHandle (ReferenceBackend.regionAt m)) : n = m := by
  have h := intToStr_inj (List.append_cancel_left h)
  exact UInt64.add_right_inj _ |>.1 h

/-- One more handle can be issued in bounds. -/
def HasRoom : Backend → Prop
  | .synthetic b => b.nextSeq.toNat < 2 ^ 57
  | .reference b => b.nextSeq + 1 ≠ 0

theorem ofNat_toNat_le {n : Nat} {s : UInt64} (h : n ≤ s.toNat) : (UInt64.ofNat n).toNat = n := by
  rw [UInt64.toNat_ofNat', Nat.mod_eq_of_lt (h.trans_lt s.toNat_lt)]

/-- With room, the next handle and those before it are distinct. -/
theorem handleAt_injOn {b : Backend} (hb : b.HasRoom) : Set.InjOn b.handleAt {n | n ≤ b.nextSeq.toNat} := by
  intro n (hn : n ≤ b.nextSeq.toNat) m (hm : m ≤ b.nextSeq.toNat) h
  rw [← ofNat_toNat_le hn, ← ofNat_toNat_le hm]
  cases b with
  | synthetic b =>
    have hb : b.nextSeq.toNat < 2 ^ 57 := hb
    refine congrArg _ (synthetic_handle_inj b ?_ ?_ h)
    · rw [ofNat_toNat_le hn]; exact lt_of_le_of_lt hn hb
    · rw [ofNat_toNat_le hm]; exact lt_of_le_of_lt hm hb
  | reference b => exact congrArg _ (reference_handle_inj h)

theorem HasRoom.toNat_succ {b : Backend} (hb : b.HasRoom) : (b.nextSeq + 1).toNat = b.nextSeq.toNat + 1 := by
  cases b with
  | synthetic b =>
    have hb : b.nextSeq.toNat < 2 ^ 57 := hb
    rw [UInt64.toNat_add, UInt64.toNat_one]
    exact Nat.mod_eq_of_lt (Nat.lt_of_le_of_lt (Nat.succ_le_of_lt hb) (by decide))
  | reference b => exact UInt64.toNat_succ hb

/-- Fewer than `2 ^ 57` handles leave room for one more. -/
theorem hasRoom_of_lt {b : Backend} (h : b.nextSeq.toNat < 2 ^ 57) : b.HasRoom := by
  cases b with
  | synthetic b => exact h
  | reference b =>
    have h : b.nextSeq.toNat < 2 ^ 57 := h
    intro h0
    have h1 : (b.nextSeq + 1).toNat = 0 := congrArg UInt64.toNat h0
    rw [UInt64.toNat_add, UInt64.toNat_one] at h1
    omega

theorem handleAt_ne_nil (b : Backend) (n : Nat) : b.handleAt n ≠ [] := by
  cases b with
  | synthetic b => exact List.cons_ne_nil _ _
  | reference b => exact List.cons_ne_nil _ _

/-! ## The methods -/

/-- Everything but the live entries is as it was. -/
structure Kept (b b' : Backend) : Prop where
  nextSeq : b'.nextSeq = b.nextSeq
  handleAt : b'.handleAt = b.handleAt
  generation : generation b' = generation b

theorem Kept.refl (b : Backend) : Kept b b := ⟨rfl, rfl, rfl⟩

/-- A registration of `d` that succeeded, and what it returned. -/
structure Registered (b : Backend) (d : BufferDescriptor) (b' : Backend) (bout : BackendRegistration) : Prop where
  live : b'.live = Function.update b.live (b.handleAt b.nextSeq.toNat) (some d.liveEntry)
  nextSeq : b'.nextSeq = b.nextSeq + 1
  handleAt : b'.handleAt = b.handleAt
  generation : generation b' = generation b
  room : b.InBounds → b'.InBounds → b.HasRoom
  handle : bout.handle = b.handleAt b.nextSeq.toNat
  base : bout.registeredBase = d.base.address
  length : bout.registeredLength = d.byteLength
  granted : bout.grantedAccess = d.requestedAccess
  keyGeneration : bout.keys.remoteKeyGeneration = ⟨1⟩

theorem synthetic_room {n : UInt64} (h : n.toNat ≤ 2 ^ 57) (h' : (n + 1).toNat ≤ 2 ^ 57) : n.toNat < 2 ^ 57 := by
  rw [UInt64.toNat_add, UInt64.toNat_one] at h'
  omega

/-- A registration is refused and changes nothing, or issues the next handle. -/
theorem registerBuffer_spec {b b' : Backend} {d : BufferDescriptor} {ctx : RegistrationContext}
    {bo : RegisterOutcome} {bout : BackendRegistration} (h : registerBuffer b d ctx = (b', bo, bout)) :
    (bo.ok = false ∧ b' = b) ∨ (bo.ok = true ∧ Registered b d b' bout) := by
  cases b with
  | synthetic b =>
    have h : onSynthetic (b.registerBuffer d ctx) = (b', bo, bout) := h
    unfold SyntheticBackend.registerBuffer at h
    dsimp only at h
    split at h
    · cases h; exact .inl ⟨rfl, rfl⟩
    · cases h
      have hs : UInt64.ofNat b.nextSeq.toNat = b.nextSeq := UInt64.ofNat_toNat
      refine .inr ⟨rfl, ?_, rfl, rfl, rfl, synthetic_room, ?_, rfl, rfl, rfl, rfl⟩
      · simp only [handleAt, nextSeq, hs]
        exact Table.map_lookup_put _ _ _ _
      · simp only [handleAt, nextSeq, hs]
        rfl
  | reference b =>
    have h : onReference (b.registerBuffer d ctx) = (b', bo, bout) := h
    unfold ReferenceBackend.registerBuffer at h
    dsimp only at h
    split at h
    · cases h; exact .inl ⟨rfl, rfl⟩
    · cases h
      have hs : UInt64.ofNat b.nextSeq.toNat = b.nextSeq := UInt64.ofNat_toNat
      refine .inr ⟨rfl, ?_, rfl, rfl, rfl, fun _ h' => h', ?_, rfl, rfl, rfl, rfl⟩
      · simp only [handleAt, nextSeq, hs]
        exact Table.map_lookup_put _ _ _ _
      · simp only [handleAt, nextSeq, hs]
        rfl

/-- What may be registered is registered. -/
theorem registerBuffer_admissible {b : Backend} {d : BufferDescriptor} (h : canRegister b d = [])
    (ctx : RegistrationContext) : (registerBuffer b d ctx).2.1.ok = true := by
  cases b with
  | synthetic b =>
    have h : b.canRegister d = [] := h
    show (b.registerBuffer d ctx).2.1.ok = true
    simp [SyntheticBackend.registerBuffer, h]
  | reference b =>
    have h : b.canRegister d = [] := h
    show (b.registerBuffer d ctx).2.1.ok = true
    simp [ReferenceBackend.registerBuffer, h]

/-- A deregistration drops the live entry of the handle, and fails when there is none. -/
theorem deregisterBuffer_spec {b b' : Backend} {handle : RegisterHandle} {bo : RegisterOutcome}
    (h : deregisterBuffer b handle = (b', bo)) :
    Kept b b' ∧ b'.live = Function.update b.live handle.handle none ∧
      (bo.ok = true ↔ b.live handle.handle ≠ none) := by
  cases b with
  | synthetic b =>
    have h : onSynthetic (b.deregisterBuffer handle) = (b', bo) := h
    unfold SyntheticBackend.deregisterBuffer at h
    split at h
    · rename_i hn
      cases h
      have hl : (Backend.synthetic b).live handle.handle = none := by simp [live, hn]
      exact ⟨.refl _, by rw [Function.update_eq_self_iff.2 hl.symm], by simp [hl]⟩
    · rename_i e he
      cases h
      exact ⟨⟨rfl, rfl, rfl⟩, Table.map_lookup_erase _ _ _, by simp [live, he]⟩
  | reference b =>
    have h : onReference (b.deregisterBuffer handle) = (b', bo) := h
    unfold ReferenceBackend.deregisterBuffer at h
    split at h
    · rename_i hn
      cases h
      have hl : (Backend.reference b).live handle.handle = none := by simp [live, hn]
      exact ⟨.refl _, by rw [Function.update_eq_self_iff.2 hl.symm], by simp [hl]⟩
    · rename_i e he
      cases h
      exact ⟨⟨rfl, rfl, rfl⟩, Table.map_lookup_erase _ _ _, by simp [live, he]⟩

/-- A rotation rewrites the key of the live entry of the handle, which then needs no revalidation. -/
theorem rotateKey_spec (b : Backend) (handle : RegisterHandle) (g : RemoteKeyGeneration) :
    Kept b (rotateKey b handle g).1 ∧
      (rotateKey b handle g).1.live = Function.update b.live handle.handle
        ((b.live handle.handle).map fun e => { e with keyGeneration := g, revalidateRequired := false }) := by
  cases b with
  | synthetic b =>
    show Kept _ (Backend.synthetic (b.rotateKey handle g).1) ∧ (Backend.synthetic (b.rotateKey handle g).1).live = _
    unfold SyntheticBackend.rotateKey
    split
    · rename_i hn
      have hl : (Backend.synthetic b).live handle.handle = none := by simp [live, hn]
      exact ⟨.refl _, by rw [Function.update_eq_self_iff.2 (by rw [hl]; rfl)]⟩
    · rename_i e he
      refine ⟨⟨rfl, rfl, rfl⟩, (Table.map_lookup_put _ _ _ _).trans ?_⟩
      simp only [live, he]
      rfl
  | reference b =>
    show Kept _ (Backend.reference (b.rotateKey handle g).1) ∧ (Backend.reference (b.rotateKey handle g).1).live = _
    unfold ReferenceBackend.rotateKey
    split
    · rename_i hn
      have hl : (Backend.reference b).live handle.handle = none := by simp [live, hn]
      exact ⟨.refl _, by rw [Function.update_eq_self_iff.2 (by rw [hl]; rfl)]⟩
    · rename_i e he
      refine ⟨⟨rfl, rfl, rfl⟩, (Table.map_lookup_put _ _ _ _).trans ?_⟩
      simp only [live, he]
      rfl

/-- A rotation succeeds exactly if the backend has an entry for the handle. -/
theorem rotateKey_answer (b : Backend) (handle : RegisterHandle) (g : RemoteKeyGeneration) :
    (rotateKey b handle g).2.1 = (b.live handle.handle).isSome := by
  cases b with
  | synthetic b =>
    show (b.rotateKey handle g).2.1 = ((b.entries.lookup handle.handle).map SyntheticEntry.view).isSome
    unfold SyntheticBackend.rotateKey
    rcases b.entries.lookup handle.handle with _ | e
    · rfl
    · rfl
  | reference b =>
    show (b.rotateKey handle g).2.1 = ((b.entries.lookup handle.handle).map ReferenceEntry.view).isSome
    unfold ReferenceBackend.rotateKey
    rcases b.entries.lookup handle.handle with _ | e
    · rfl
    · rfl

/-- A query does not change the backend. -/
theorem queryRemoteAccess_fst (b : Backend) (handle : RegisterHandle) (key : BackendKey) (kind : OperationKind)
    (offset length : UInt64) : (queryRemoteAccess b handle key kind offset length).1 = b := by
  cases b with
  | synthetic b =>
    show Backend.synthetic (b.queryRemoteAccess handle key kind offset length).1 = _
    unfold SyntheticBackend.queryRemoteAccess
    split <;> rfl
  | reference b =>
    show Backend.reference (b.queryRemoteAccess handle key kind offset length).1 = _
    unfold ReferenceBackend.queryRemoteAccess
    split <;> rfl

/-- The facts under which the backend permits an operation on a live entry. -/
structure Permits (b : Backend) (e : LiveEntry) (key : RemoteKeyGeneration) (kind : OperationKind)
    (offset length : UInt64) : Prop where
  revalidated : e.revalidateRequired = false
  unrevoked : e.revoked = false
  key : key = e.keyGeneration
  range : offset.toNat + length.toNat ≤ e.length.toNat
  granted : accessHas e.granted (intrinsicRight kind) = true
  supported : b.supports kind = true

/-- The range check of both backends, which never wraps. -/
theorem exceeds_iff {offset length n : UInt64} :
    (decide (offset > n) || decide (length > n - offset)) = true ↔ ¬offset.toNat + length.toNat ≤ n.toNat := by
  rw [Bool.or_eq_true, decide_eq_true_iff, decide_eq_true_iff, gt_iff_lt, gt_iff_lt, UInt64.lt_iff_toNat_lt,
    UInt64.lt_iff_toNat_lt]
  by_cases h : n.toNat < offset.toNat
  · simp only [h, true_or, true_iff]; omega
  · rw [UInt64.toNat_sub_of_le _ _ (UInt64.le_iff_toNat_le.2 (not_lt.1 h))]
    omega

/-- A check that rejects with another outcome is passed by everything of the outcome. -/
theorem ite_reject_outcome {c : Prop} [Decidable c] {o o' : AccessOutcome} {m : StdString}
    {x : AccessOutcome × StdString} (ho : o ≠ o') : (if c then (o, m) else x).1 = o' ↔ ¬c ∧ x.1 = o' := by
  split
  · rename_i h; simp [ho, h]
  · rename_i h; simp [h]

theorem synthetic_queryEntry_allow (b : SyntheticBackend) (e : SyntheticEntry) (key : BackendKey)
    (kind : OperationKind) (offset length : UInt64) :
    (b.queryEntry e key kind offset length).1 = .allow ↔
      Permits (.synthetic b) e.view key.remoteKeyGeneration kind offset length := by
  unfold SyntheticBackend.queryEntry
  rw [ite_reject_outcome (by decide), ite_reject_outcome (by decide), ite_reject_outcome (by decide),
    ite_reject_outcome (by decide), exceeds_iff, Decidable.not_not]
  have hk : ∀ s g : Bool, ∀ m₁ m₂ m₃ : StdString,
      (if !s then (AccessOutcome.rejectUnknownCapability, m₁)
        else if !g then (.rejectPermission, m₂) else (.allow, m₃)).1 = .allow ↔ s = true ∧ g = true := by
    intro s g m₁ m₂ m₃
    rw [ite_reject_outcome (by decide), ite_reject_outcome (by decide)]
    simp
  constructor
  · rintro ⟨hv, hr, hg, hlen, h⟩
    refine ⟨by simpa using hv, by simpa using hr, by simpa using hg, hlen, ?_, ?_⟩
    · cases kind <;> exact ((hk _ _ _ _ _).1 h).2
    · cases kind <;> exact ((hk _ _ _ _ _).1 h).1
  · rintro ⟨hv, hr, hg, hlen, hgr, hs⟩
    refine ⟨by simpa using hv, by simpa using hr, by simpa using hg, hlen, ?_⟩
    cases kind <;> exact (hk _ _ _ _ _).2 ⟨hs, hgr⟩

theorem reference_queryEntry_allow (b : ReferenceBackend) (e : ReferenceEntry) (key : BackendKey)
    (kind : OperationKind) (offset length : UInt64) :
    (ReferenceBackend.queryEntry e key kind offset length).1 = .allow ↔
      Permits (.reference b) e.view key.remoteKeyGeneration kind offset length := by
  unfold ReferenceBackend.queryEntry
  rw [ite_reject_outcome (by decide), ite_reject_outcome (by decide), ite_reject_outcome (by decide),
    ite_reject_outcome (by decide), ite_reject_outcome (by decide), ite_reject_outcome (by decide), exceeds_iff,
    Decidable.not_not]
  constructor
  · rintro ⟨hr, hg, hlen, hw, hrd, ha, -⟩
    refine ⟨rfl, by simpa using hr, by simpa using hg, hlen, ?_, ?_⟩
    · cases kind with
      | write => simpa [intrinsicRight] using hw
      | read => simpa [intrinsicRight] using hrd
      | atomicCompareSwap => exact absurd rfl ha
    · cases kind with
      | write => rfl
      | read => rfl
      | atomicCompareSwap => exact absurd rfl ha
  · rintro ⟨-, hr, hg, hlen, hgr, hs⟩
    refine ⟨by simpa using hr, by simpa using hg, hlen, ?_⟩
    cases kind with
    | write => simpa [intrinsicRight] using hgr
    | read => simpa [intrinsicRight] using hgr
    | atomicCompareSwap => cases hs

/-- A query allows exactly what the live entry of the handle permits. -/
theorem queryRemoteAccess_allow (b : Backend) (handle : RegisterHandle) (key : BackendKey) (kind : OperationKind)
    (offset length : UInt64) :
    (queryRemoteAccess b handle key kind offset length).2.1 = .allow ↔
      ∃ e, b.live handle.handle = some e ∧ Permits b e key.remoteKeyGeneration kind offset length := by
  cases b with
  | synthetic b =>
    show (b.queryRemoteAccess handle key kind offset length).2.1 = .allow ↔ _
    unfold SyntheticBackend.queryRemoteAccess
    rcases he : b.entries.lookup handle.handle with _ | e
    · simp [live, he]
    · simpa [live, he] using synthetic_queryEntry_allow b e key kind offset length
  | reference b =>
    show (b.queryRemoteAccess handle key kind offset length).2.1 = .allow ↔ _
    unfold ReferenceBackend.queryRemoteAccess
    rcases he : b.entries.lookup handle.handle with _ | e
    · simp [live, he]
    · simpa [live, he] using reference_queryEntry_allow b e key kind offset length

/-! ## The scan of a simulated operation -/

/-- An entry the scan may choose. -/
def Eligible (g : UInt64) (e : SyntheticEntry) : Prop :=
  e.revoked = false ∧ e.revalidateRequired = false ∧ e.keyGeneration.value = g

instance (g : UInt64) : DecidablePred (Eligible g) := fun _ => inferInstanceAs (Decidable (_ ∧ _))

/-- The handles of the entries that are not revoked, await no revalidation and are at the key generation. -/
def eligibleHandles (b : SyntheticBackend) (g : UInt64) : Set StdString :=
  {h | ∃ e, b.entries.lookup h = some e ∧ Eligible g e}

theorem betterHandle_eq (g : UInt64) (best : StdString) (e : Sigma fun _ : StdString => SyntheticEntry) :
    SyntheticBackend.betterHandle g best e.1 e.2 =
      Scan.better [] Sigma.fst (fun e => decide (Eligible g e.2)) best e := by
  unfold SyntheticBackend.betterHandle Scan.better Eligible
  cases hr : e.2.revoked <;> cases hv : e.2.revalidateRequired <;> by_cases hg : e.2.keyGeneration.value = g <;>
    simp [hr, hv, hg]

theorem keys_eligibleHandles (b : SyntheticBackend) (g : UInt64) :
    Scan.keys Sigma.fst (fun e => decide (Eligible g e.2)) b.entries.entries = eligibleHandles b g := by
  ext h
  simp only [Scan.keys, eligibleHandles, Set.mem_ofPred_eq, decide_eq_true_iff]
  constructor
  · rintro ⟨⟨_, e⟩, hm, hu, rfl⟩
    exact ⟨e, Table.mem_entries.1 hm, hu⟩
  · rintro ⟨e, he, hu⟩
    exact ⟨⟨h, e⟩, Table.mem_entries.2 he, hu, rfl⟩

/-- The scan ends at the least eligible handle, or empty where there is none. -/
theorem bestHandle_picks {b : SyntheticBackend} (hb : ∀ h e, b.entries.lookup h = some e → h ≠ []) (g : UInt64) :
    Scan.Picks [] (eligibleHandles b g) (b.bestHandle g) := by
  unfold SyntheticBackend.bestHandle
  rw [← keys_eligibleHandles, funext₂ (betterHandle_eq g)]
  exact Scan.picks_scan fun e he => hb e.1 e.2 (Table.mem_entries.1 he)

theorem bestHandle_spec {b : SyntheticBackend} {g : UInt64} {h : StdString} (hb : b.bestHandle g = h) (hne : h ≠ []) :
    ∃ e, b.entries.lookup h = some e ∧ e.revoked = false ∧ e.revalidateRequired = false := by
  subst hb
  unfold SyntheticBackend.bestHandle at hne ⊢
  rw [funext₂ (betterHandle_eq g)] at hne ⊢
  rcases Scan.foldl_mem b.entries.entries ([] : StdString) with hnone | hmem
  · exact absurd hnone hne
  · rw [keys_eligibleHandles] at hmem
    obtain ⟨e, he, hr, hv, -⟩ := hmem
    exact ⟨e, he, hr, hv⟩

/-- The handle of a eligible entry of the generation keeps the scan from coming back empty. -/
theorem bestHandle_ne_nil {b : SyntheticBackend} (hb : ∀ h e, b.entries.lookup h = some e → h ≠ []) {h : StdString}
    {e : SyntheticEntry} (he : b.entries.lookup h = some e) (hr : e.revoked = false)
    (hv : e.revalidateRequired = false) : b.bestHandle e.keyGeneration.value ≠ [] := by
  rcases bestHandle_picks hb e.keyGeneration.value with ⟨⟨e', he', -⟩, -⟩ | ⟨hempty, -⟩
  · exact hb _ e' he'
  · have hin : h ∈ eligibleHandles b e.keyGeneration.value := ⟨e, he, hr, hv, rfl⟩
    rw [hempty] at hin
    exact hin.elim

/-! ## Construction and controls -/

theorem construct_spec (spec : Spec) : (construct spec).live = (fun _ => none) ∧ (construct spec).nextSeq = 1 := by
  cases spec with
  | synthetic seed => exact ⟨rfl, rfl⟩
  | reference id => exact ⟨rfl, rfl⟩

/-- The control only changes the capability profile. -/
def Control.Configures : Control → Prop
  | .synthetic c => c.Configures
  | .advanceBackendGeneration => False

/-- A control issues no handle and brings none back. -/
theorem control_spec (c : Control) (b : Backend) :
    (control c b).nextSeq = b.nextSeq ∧ (control c b).handleAt = b.handleAt ∧
      ∀ h, b.live h = none → (control c b).live h = none := by
  cases b with
  | synthetic b =>
    cases c with
    | advanceBackendGeneration => exact ⟨rfl, rfl, fun h hn => hn⟩
    | synthetic c =>
      cases c with
      | rolloverTransportGeneration =>
        refine ⟨rfl, rfl, fun h hn => ?_⟩
        have hn : b.entries.lookup h = none := by simpa [live] using hn
        simp [control, SyntheticBackend.Control.run, SyntheticBackend.rolloverTransportGeneration, live,
          Table.lookup_mapVals, hn]
      | simulateBackendRestart => exact ⟨rfl, rfl, fun h _ => rfl⟩
      | _ => exact ⟨rfl, rfl, fun h hn => hn⟩
  | reference b => cases c <;> exact ⟨rfl, rfl, fun h hn => hn⟩

/-- A configuration leaves the ledger and the generation alone. -/
theorem control_configures {c : Control} (hc : c.Configures) (b : Backend) :
    Kept b (control c b) ∧ (control c b).live = b.live := by
  cases b with
  | synthetic b =>
    cases c with
    | advanceBackendGeneration => cases hc
    | synthetic c => cases c <;> first | exact ⟨⟨rfl, rfl, rfl⟩, rfl⟩ | cases hc
  | reference b =>
    cases c with
    | advanceBackendGeneration => cases hc
    | synthetic c => exact ⟨.refl _, rfl⟩

/-! ## One ledger step at a time -/

/-- The backend moved by one step of its ledger and still issues the same handles. -/
structure Advance (b b' : Backend) : Prop where
  step : Ledger.Step b.handleAt b.ledger b'.ledger
  handleAt : b'.handleAt = b.handleAt
  room : b'.nextSeq ≠ b.nextSeq → b.HasRoom

theorem Advance.refl (b : Backend) : Advance b b := ⟨.refl, rfl, fun h => absurd rfl h⟩

/-- Entries were rewritten or dropped. -/
theorem Kept.advance {b b' : Backend} (h : Kept b b') (hl : ∀ k, b.live k = none → b'.live k = none) : Advance b b' :=
  ⟨.adjust hl (congrArg UInt64.toNat h.nextSeq), h.handleAt, fun hn => absurd h.nextSeq hn⟩

theorem Registered.advance_of_room {b b' : Backend} {d : BufferDescriptor} {bout : BackendRegistration}
    (h : Registered b d b' bout) (hroom : b.HasRoom) : Advance b b' := by
  refine ⟨.issue d.liveEntry h.live ?_, h.handleAt, fun _ => hroom⟩
  show b'.nextSeq.toNat = b.nextSeq.toNat + 1
  rw [h.nextSeq, hroom.toNat_succ]

theorem Registered.advance {b b' : Backend} {d : BufferDescriptor} {bout : BackendRegistration}
    (h : Registered b d b' bout) (hb : b.InBounds) (hb' : b'.InBounds) : Advance b b' :=
  h.advance_of_room (h.room hb hb')

end Backend

end RdmaBuffer
