/-
The slots of the buffers. A slot is written when a registration commits and cleared by a hard revoke and by a
deregistration that goes through; the other ways in which a live registration ends leave it. The slots name the live
registrations of their buffers in every state exactly as long as no registration ends in one of these ways.
-/
import RdmaBuffer.Registry.Access
import RdmaBuffer.Runtime.Refusals
import RdmaBuffer.Runtime.Sequential
import RdmaBuffer.Safety.SingleFlight

namespace RdmaBuffer

open Rdmabuffer

/-! ## Slots and live registrations -/

section

variable {β : Type}

/-- Every slot names an ACTIVE or REGISTERED record of its buffer. -/
def SlotLive (s : Rdmabuffer β) : Prop :=
  ∀ b r, s.activeRegistrationForBuffer.lookup b = some r →
    ∃ rec, s.registrations.lookup r = some rec ∧ rec.bufferId = b ∧ rec.lifecycle.isLive = true

/-- The buffer of a live registration. -/
def liveOn (s : Rdmabuffer β) (r : RegistrationId) : Option BufferId :=
  (s.registrations.lookup r).bind fun rec => if rec.lifecycle.isLive then some rec.bufferId else none

theorem liveOn_eq_some {s : Rdmabuffer β} {r : RegistrationId} {b : BufferId} : liveOn s r = some b ↔
    ∃ rec, s.registrations.lookup r = some rec ∧ rec.bufferId = b ∧ rec.lifecycle.isLive = true := by
  unfold liveOn
  rw [Option.bind_eq_some_iff]
  constructor
  · rintro ⟨rec, hr, hb⟩
    split at hb
    · exact ⟨rec, hr, Option.some.inj hb, ‹_›⟩
    · cases hb
  · rintro ⟨rec, hr, rfl, hl⟩
    exact ⟨rec, hr, if_pos hl⟩

theorem liveOn_congr {s s' : Rdmabuffer β} {r : RegistrationId}
    (h : s'.registrations.lookup r = s.registrations.lookup r) : liveOn s' r = liveOn s r := by
  unfold liveOn
  rw [h]

theorem liveOn_of_dead {s : Rdmabuffer β} {r : RegistrationId}
    (h : ∀ rec, s.registrations.lookup r = some rec → rec.lifecycle.isLive = false) : liveOn s r = none := by
  rw [Option.eq_none_iff_forall_ne_some]
  intro b hb
  obtain ⟨rec, hr, -, hl⟩ := liveOn_eq_some.1 hb
  rw [h rec hr] at hl
  cases hl

/-- An assigned record that keeps its buffer and its lifecycle is not seen. -/
theorem liveOn_put {s s' : Rdmabuffer β} {k : RegistrationId} {rec rec' : RegistrationRecord}
    (hk : s.registrations.lookup k = some rec) (h : s'.registrations = Table.put k rec' s.registrations)
    (hb : rec'.bufferId = rec.bufferId) (hl : rec'.lifecycle = rec.lifecycle) (r : RegistrationId) :
    liveOn s' r = liveOn s r := by
  unfold liveOn
  rw [h, Table.lookup_put]
  split
  · rename_i hr
    rw [hr, hk, Option.bind_some, Option.bind_some, hb, hl]
  · rfl

theorem slotLive_iff {s : Rdmabuffer β} :
    SlotLive s ↔ ∀ b r, s.activeRegistrationForBuffer.lookup b = some r → liveOn s r = some b := by
  unfold SlotLive
  simp only [liveOn_eq_some]

theorem SlotHeld.slot_eq {s : Rdmabuffer β} (h : SlotHeld s) {r : RegistrationId} {b : BufferId}
    (hl : liveOn s r = some b) : s.activeRegistrationForBuffer.lookup b = some r := by
  obtain ⟨rec, hr, rfl, hlive⟩ := liveOn_eq_some.1 hl
  exact h r rec hr hlive

/-- The registration is ACTIVE or REGISTERED. -/
def isLiveAt (s : Rdmabuffer β) (r : RegistrationId) : Bool := (liveOn s r).isSome

/-- Some live record meets the condition. -/
def anyLive (s : Rdmabuffer β) (p : RegistrationRecord → Bool) : Bool :=
  s.registrations.entries.any fun e => e.2.lifecycle.isLive && p e.2

theorem anyLive_eq_false {s : Rdmabuffer β} {p : RegistrationRecord → Bool} : anyLive s p = false ↔
    ∀ r rec, s.registrations.lookup r = some rec → rec.lifecycle.isLive = true → p rec = false := by
  unfold anyLive
  rw [List.any_eq_false]
  constructor
  · intro h r rec hr hl
    simpa [hl] using h ⟨r, rec⟩ (Table.mem_entries.2 hr)
  · rintro h ⟨r, rec⟩ hm
    intro hboth
    obtain ⟨hl, hp⟩ := Bool.and_eq_true_iff.1 hboth
    rw [h r rec (Table.mem_entries.1 hm) hl] at hp
    cases hp

/-- Where some registrations die, no other changes and the slots stay, the slots are live exactly if none of the
dead was. -/
theorem slotLive_iff_of_dead {s s' : Rdmabuffer β} (hi : SlotLive s) (hh : SlotHeld s) (dead : RegistrationId → Prop)
    (hslot : s'.activeRegistrationForBuffer = s.activeRegistrationForBuffer)
    (hdead : ∀ r, dead r → liveOn s' r = none) (hkeep : ∀ r, ¬dead r → liveOn s' r = liveOn s r) :
    SlotLive s' ↔ ∀ r, dead r → liveOn s r = none := by
  rw [slotLive_iff, hslot]
  constructor
  · intro h r hd
    rw [Option.eq_none_iff_forall_ne_some]
    intro b hl
    have hb := h b r (hh.slot_eq hl)
    rw [hdead r hd] at hb
    cases hb
  · intro h b r hb
    have hl := slotLive_iff.1 hi b r hb
    by_cases hd : dead r
    · rw [h r hd] at hl
      cases hl
    · rw [hkeep r hd]
      exact hl

/-- The slots do not see what leaves them, and the buffers and lifecycles of the live registrations, alone. -/
theorem SlotLive.of_same {s s' : Rdmabuffer β} (hi : SlotLive s)
    (hslot : ∀ b, s'.activeRegistrationForBuffer.lookup b = s.activeRegistrationForBuffer.lookup b)
    (hlive : ∀ r, liveOn s' r = liveOn s r) : SlotLive s' := by
  rw [slotLive_iff]
  intro b r hb
  rw [hslot] at hb
  rw [hlive]
  exact slotLive_iff.1 hi b r hb

end

/-! ## The operations that strand a slot -/

section

variable {β : Type}

/-- `create_buffer` gives a buffer that exists a later generation. -/
def reallocates (s : Rdmabuffer β) (descriptor : BufferDescriptor) : Bool :=
  (s.buffers.lookup (bufferTarget s descriptor)).any fun be =>
    decide (be.descriptor.generation.value < descriptor.generation.value)

variable [IBackend β] [Environment β]

/-- The operation ends a live registration otherwise than by a hard revoke or a deregistration that goes through:
with its domain, with its buffer's generation, by a soft revoke, by a recovery over it, by a deregistration that the
backend refuses, or by a registration that commits under its id. -/
def strands (s : Rdmabuffer β) : Option (Op β) → Bool
  | some (.atomic (.destroyProtectionDomain d)) =>
    (s.domains.lookup d).isSome && anyLive s fun rec => rec.domainId == d
  | some (.atomic (.createBuffer descriptor)) =>
    reallocates s descriptor && anyLive s fun rec => rec.bufferId == bufferTarget s descriptor
  | some (.atomic (.revoke registration .softRevoke)) => isLiveAt s registration
  | some (.atomic (.recover file)) =>
    (AtomicOp.recover (β := β) file).restores.any fun state => state.registrations.any fun rec => isLiveAt s rec.id
  | some (.deregister registration) =>
    (s.registrations.lookup registration).any fun rec =>
      rec.lifecycle.isLive && rec.leaseCount == 0 && !releases s rec
  | some (.registerBuffer descriptor backend domain env) =>
    (s.registerBuffer descriptor backend domain env).2.ok && isLiveAt s ⟨s.nextRegistration⟩
  | _ => false

/-! ## One operation -/

omit [IBackend β] [Environment β] in
theorem slotLive_withdrawn {s s' : Rdmabuffer β} (hi : SlotLive s) (hh : SlotHeld s) (hit : RegistrationRecord → Bool)
    (lifecycle : RegistrationLifecycle) {reason : StdString} (hlife : lifecycle.isLive = false)
    (hslot : s'.activeRegistrationForBuffer = s.activeRegistrationForBuffer)
    (hregs : s'.registrations = withdrawn hit lifecycle reason s.registrations) :
    SlotLive s' ↔ anyLive s hit = false := by
  have hlookup : ∀ r, s'.registrations.lookup r =
      (s.registrations.lookup r).map fun rec => if hit rec then withdraw lifecycle reason rec else rec := by
    intro r
    rw [hregs, withdrawn, Table.lookup_mapVals]
  rw [anyLive_eq_false,
    slotLive_iff_of_dead hi hh (fun r => ∃ rec, s.registrations.lookup r = some rec ∧ hit rec = true) hslot]
  · constructor
    · intro h r rec hr hl
      by_contra hhit
      have hnone := h r ⟨rec, hr, by simpa using hhit⟩
      rw [liveOn_eq_some.2 ⟨rec, hr, rfl, hl⟩] at hnone
      cases hnone
    · rintro h r ⟨rec, hr, hhit⟩
      apply liveOn_of_dead
      intro rec' hr'
      obtain rfl := Option.some.inj (hr.symm.trans hr')
      by_contra hl
      rw [h r rec hr (by simpa using hl)] at hhit
      cases hhit
  · rintro r ⟨rec, hr, hhit⟩
    apply liveOn_of_dead
    intro rec' hr'
    rw [hlookup, hr, Option.map_some, if_pos hhit] at hr'
    cases hr'
    exact hlife
  · intro r hnot
    apply liveOn_congr
    rw [hlookup]
    rcases hr : s.registrations.lookup r with _ | rec
    · rfl
    · rw [Option.map_some, if_neg fun hhit => hnot ⟨rec, hr, hhit⟩]

omit [IBackend β] [Environment β] in
/-- Where one registration dies and the slots stay, the slots are live exactly if it was not. -/
theorem slotLive_put {s s' : Rdmabuffer β} (hi : SlotLive s) (hh : SlotHeld s) (k : RegistrationId)
    (rec' : RegistrationRecord) (hlife : rec'.lifecycle.isLive = false)
    (hslot : s'.activeRegistrationForBuffer = s.activeRegistrationForBuffer)
    (hregs : ∀ r, s'.registrations.lookup r = if r = k then some rec' else s.registrations.lookup r) :
    SlotLive s' ↔ isLiveAt s k = false := by
  rw [slotLive_iff_of_dead hi hh (fun r => r = k) hslot, isLiveAt, Option.isSome_eq_false_iff,
    Option.isNone_iff_eq_none, forall_eq]
  · rintro r rfl
    apply liveOn_of_dead
    intro rec₁ hr
    rw [hregs, if_pos rfl] at hr
    cases hr
    exact hlife
  · intro r hne
    apply liveOn_congr
    rw [hregs, if_neg hne]

omit [IBackend β] [Environment β] in
theorem slotLive_restored {s s' : Rdmabuffer β} (hi : SlotLive s) (hh : SlotHeld s) {state : PersistableState}
    (hres : Restored s state s') :
    SlotLive s' ↔ (state.registrations.any fun rec => isLiveAt s rec.id) = false := by
  rw [slotLive_iff_of_dead hi hh (fun r => ∃ rec ∈ state.registrations, rec.id = r) hres.slot]
  · simp only [List.any_eq_false, isLiveAt, Bool.not_eq_true, Option.isSome_eq_false_iff, Option.isNone_iff_eq_none,
      forall_exists_index, and_imp, forall_apply_eq_imp_iff₂]
  · rintro r ⟨rec, hm, hid⟩
    apply liveOn_of_dead
    intro rec' hr'
    rcases hres.registration r with ⟨hnot, -⟩ | ⟨rec₁, -, -, hlk⟩
    · exact absurd hid (hnot rec hm)
    · rw [hlk] at hr'
      cases hr'
      rfl
  · intro r hnot
    apply liveOn_congr
    rcases hres.registration r with ⟨-, hlk⟩ | ⟨rec₁, hm, hid, -⟩
    · exact hlk
    · exact absurd ⟨rec₁, hm, hid⟩ hnot

/-! ## An operation that strands a slot -/

omit [IBackend β] [Environment β] in
theorem anyLive_congr {s : Rdmabuffer β} {p q : RegistrationRecord → Bool}
    (h : ∀ rec, rec.lifecycle.isLive = true → p rec = q rec) : anyLive s p = anyLive s q := by
  rw [Bool.eq_iff_iff, ← not_iff_not, Bool.not_eq_true, Bool.not_eq_true, anyLive_eq_false, anyLive_eq_false]
  constructor
  · intro hp r rec hr hl
    rw [← h rec hl]
    exact hp r rec hr hl
  · intro hq r rec hr hl
    rw [h rec hl]
    exact hq r rec hr hl

omit [IBackend β] [Environment β] in
theorem anyLive_inDomain (s : Rdmabuffer β) (d : ProtectionDomainId) :
    anyLive s (inDomain d) = anyLive s fun rec => rec.domainId == d := by
  apply anyLive_congr
  intro rec hl
  rw [inDomain, hl, Bool.and_true]

omit [IBackend β] [Environment β] in
theorem anyLive_onBuffer (s : Rdmabuffer β) (b : BufferId) :
    anyLive s (onBuffer b) = anyLive s fun rec => rec.bufferId == b := by
  apply anyLive_congr
  intro rec hl
  rw [onBuffer, hl, Bool.true_or, Bool.and_true]

omit [IBackend β] [Environment β] in
theorem not_slotLive_destroyProtectionDomain {s : Rdmabuffer β} (hi : SlotLive s) (hh : SlotHeld s)
    {d : ProtectionDomainId} (hd : (s.domains.lookup d).isSome = true)
    (ha : anyLive s (fun rec => rec.domainId == d) = true) : ¬SlotLive (s.destroyProtectionDomain d).1 := by
  obtain ⟨de, hd⟩ := Option.isSome_iff_exists.1 hd
  rw [← anyLive_inDomain] at ha
  intro h
  unfold destroyProtectionDomain at h
  simp only [hd] at h
  have hnone := (slotLive_withdrawn hi hh (inDomain d) .revoked rfl (by rfl) (by rfl)).1 h
  rw [ha] at hnone
  cases hnone

omit [IBackend β] [Environment β] in
theorem createBuffer_withdraws {s : Rdmabuffer β} {descriptor : BufferDescriptor}
    (h : reallocates s descriptor = true) :
    (s.createBuffer descriptor).1.activeRegistrationForBuffer = s.activeRegistrationForBuffer ∧
      (s.createBuffer descriptor).1.registrations = withdrawn (onBuffer (bufferTarget s descriptor)) .stale
        (lit "memory reallocated under new generation") s.registrations := by
  unfold reallocates at h
  obtain ⟨be, hb, hg⟩ := (Option.any_eq_true _ _).1 h
  have hg := of_decide_eq_true hg
  have hne : (descriptor.generation.value == be.descriptor.generation.value) = false := by
    rw [beq_eq_false_iff_ne]
    intro he
    rw [he] at hg
    exact UInt64.lt_irrefl _ hg
  unfold createBuffer
  unfold bufferTarget at hb ⊢
  simp only [draws_next, hb, hne, Bool.false_eq_true, if_false, if_neg (UInt64.lt_asymm hg)]
  exact ⟨rfl, rfl⟩

omit [IBackend β] [Environment β] in
theorem not_slotLive_createBuffer {s : Rdmabuffer β} (hi : SlotLive s) (hh : SlotHeld s)
    {descriptor : BufferDescriptor} (hr : reallocates s descriptor = true)
    (ha : anyLive s (fun rec => rec.bufferId == bufferTarget s descriptor) = true) :
    ¬SlotLive (s.createBuffer descriptor).1 := by
  obtain ⟨hslot, hregs⟩ := createBuffer_withdraws hr
  rw [slotLive_withdrawn hi hh _ _ rfl hslot hregs, anyLive_onBuffer, ha]
  exact Bool.noConfusion

omit [IBackend β] [Environment β] in
theorem isLiveAt_iff {s : Rdmabuffer β} {r : RegistrationId} :
    isLiveAt s r = true ↔ ∃ rec, s.registrations.lookup r = some rec ∧ rec.lifecycle.isLive = true := by
  unfold isLiveAt
  rw [Option.isSome_iff_exists]
  simp only [liveOn_eq_some]
  constructor
  · rintro ⟨b, rec, hr, -, hl⟩
    exact ⟨rec, hr, hl⟩
  · rintro ⟨rec, hr, hl⟩
    exact ⟨rec.bufferId, rec, hr, rfl, hl⟩

omit [IBackend β] [Environment β] in
theorem not_slotLive_softRevoke {s : Rdmabuffer β} (hi : SlotLive s) (hh : SlotHeld s) {r : RegistrationId}
    (hl : isLiveAt s r = true) : ¬SlotLive (s.revoke r .softRevoke).1 := by
  obtain ⟨rec, hr, hlive⟩ := isLiveAt_iff.1 hl
  intro h
  unfold revoke at h
  simp only [hr, hlive, Bool.not_true, Bool.false_eq_true, if_false] at h
  have hdead := (slotLive_put hi hh r (softRevoked rec) (softRevoked_not_live rec) (by rfl)
    fun j => Table.lookup_put _ _ _ _).1 h
  rw [hl] at hdead
  cases hdead

theorem deregisterable_of_live {l : RegistrationLifecycle} (h : l.isLive = true) : deregisterable l = true := by
  cases l with
  | active | registered => rfl
  | _ => cases h

omit [Environment β] in
/-- A deregistration of a live registration that the backend refuses strands its slot. -/
theorem not_slotLive_deregister {s : Rdmabuffer β} (hi : SlotLive s) (hh : SlotHeld s) {r : RegistrationId}
    {rec : RegistrationRecord} (hr : s.registrations.lookup r = some rec) (hl : rec.lifecycle.isLive = true)
    (hn : rec.leaseCount = 0) (hrel : releases s rec = false) : ¬SlotLive (s.deregister r).1 := by
  obtain ⟨backends, ok, e, hb, he⟩ := deregister_accepted hr hn (deregisterable_of_live hl)
  obtain rfl : ok = false := hb.ok_eq.symm.trans hrel
  rw [he]
  intro h
  have hdead := (slotLive_put hi hh r { rec with lifecycle := .failed } rfl (by rfl)
    fun j => failed_lookup s r j rec backends).1 h
  rw [isLiveAt_iff.2 ⟨rec, hr, hl⟩] at hdead
  cases hdead

omit [IBackend β] [Environment β] in
/-- A commit writes the slot of its buffer; the other slots are live exactly if none named its id. -/
theorem slotLive_commit {s : Rdmabuffer β} (hi : SlotLive s) (hh : SlotHeld s) {p : PendingRegistration}
    (bout : BackendRegistration) (hfree : s.activeRegistrationForBuffer.lookup p.record.bufferId = none) :
    SlotLive (s.registerCommit p bout).1 ↔ isLiveAt s p.record.id = false := by
  have hnew : liveOn (s.registerCommit p bout).1 p.record.id = some p.record.bufferId := by
    refine liveOn_eq_some.2 ⟨commitRecord s.authority p bout, ?_, rfl, rfl⟩
    rw [registerCommit_lookup, if_pos rfl]
  rw [slotLive_iff, isLiveAt, Option.isSome_eq_false_iff, Option.isNone_iff_eq_none]
  constructor
  · intro h
    rw [Option.eq_none_iff_forall_ne_some]
    intro b hb
    have hslot := hh.slot_eq hb
    -- the slot of another buffer goes on naming the id
    have hne : b ≠ p.record.bufferId := by
      rintro rfl
      rw [hfree] at hslot
      cases hslot
    have hsame := h b p.record.id (by rw [registerCommit_slot, if_neg hne]; exact hslot)
    rw [hnew] at hsame
    exact hne (Option.some.inj hsame).symm
  · intro hdead b r hb
    rw [registerCommit_slot] at hb
    split at hb
    · rename_i hbuffer
      obtain rfl := Option.some.inj hb
      rw [hbuffer]
      exact hnew
    · have hl := slotLive_iff.1 hi b r hb
      have hne : r ≠ p.record.id := by
        rintro rfl
        rw [hdead] at hl
        cases hl
      rw [← hl]
      apply liveOn_congr
      rw [registerCommit_lookup, if_neg hne]

theorem not_slotLive_registerBuffer {s : Rdmabuffer β} (hi : SlotLive s) (hh : SlotHeld s)
    {descriptor : BufferDescriptor} {backend : BackendId} {domain : ProtectionDomainId} {env : AuthorityEnvelope}
    (hok : (s.registerBuffer descriptor backend domain env).2.ok = true)
    (hl : isLiveAt s ⟨s.nextRegistration⟩ = true) : ¬SlotLive (s.registerBuffer descriptor backend domain env).1 := by
  generalize hs' : (s.registerBuffer descriptor backend domain env).1 = s'
  have hs := registerBuffer_step s descriptor backend domain env
  rw [hs'] at hs
  cases hs with
  | registerRefused _ _ _ _ hno | registerFailed _ _ _ _ _ _ _ _ _ _ _ hno =>
    rw [hok] at hno
    cases hno
  | registered _ _ _ _ b b' bo bout hv =>
    rw [slotLive_commit (s := called s backend b') hi hh bout hv.slot]
    intro hdead
    exact absurd (hl.symm.trans hdead) Bool.noConfusion

/-! ## An operation that strands none -/

omit [IBackend β] [Environment β] in
theorem slotLive_hardRevoked {s s' : Rdmabuffer β} (hi : SlotLive s) {k : RegistrationId}
    {rec : RegistrationRecord} (hk : s.registrations.lookup k = some rec) (hl : rec.lifecycle.isLive = true)
    (hslot : s'.activeRegistrationForBuffer = s.activeRegistrationForBuffer.erase rec.bufferId)
    (hregs : s'.registrations = Table.put k (hardRevoked rec) s.registrations) : SlotLive s' := by
  rw [slotLive_iff, hslot]
  intro b r hb
  rw [Table.lookup_erase_eq] at hb
  split at hb
  · cases hb
  · rename_i hne
    have hr := slotLive_iff.1 hi b r hb
    -- the revoked registration was in the slot that is cleared
    have hrk : r ≠ k := by
      rintro rfl
      rw [liveOn_eq_some.2 ⟨rec, hk, rfl, hl⟩] at hr
      exact hne (Option.some.inj hr).symm
    rw [← hr]
    apply liveOn_congr
    rw [hregs, Table.lookup_put, if_neg hrk]

theorem slotLive_effect {s s' : Rdmabuffer β} {op : AtomicOp β} (he : Effect s op s') (hi : SlotLive s)
    (hh : SlotHeld s) (hn : strands s (some (.atomic op)) = false) : SlotLive s' := by
  cases he with
  | domainDestroyed d de acct h =>
    rw [slotLive_withdrawn hi hh (inDomain d) .revoked rfl (by rfl) (by rfl), anyLive_inDomain]
    simpa [strands, h] using hn
  | bufferReallocated descriptor be nextBuffer acct h hg =>
    rw [slotLive_withdrawn hi hh (onBuffer (bufferTarget s descriptor)) .stale rfl (by rfl)
      (by rfl), anyLive_onBuffer]
    simpa [strands, reallocates, h, hg] using hn
  | softRevoked k rec acct h hlive =>
    have hdead : isLiveAt s k = false := hn
    rw [isLiveAt_iff.2 ⟨rec, h, hlive⟩] at hdead
    cases hdead
  | recovered bytes state hp =>
    rw [slotLive_restored hi hh (restore_spec s state)]
    simpa [strands, restores_of_parse hp] using hn
  | hardRevoked k rec leases acct h hlive => exact slotLive_hardRevoked hi h hlive rfl rfl
  | leased k env needed rec ls acct h => exact hi.of_same (fun _ => rfl) (liveOn_put h rfl rfl rfl)
  | released lease ls rec acct hls h => exact hi.of_same (fun _ => rfl) (liveOn_put h rfl rfl rfl)
  | rotated k rec b h => exact hi.of_same (fun _ => rfl) (liveOn_put h rfl rfl rfl)
  | rotatedAlone k rec h => exact hi.of_same (fun _ => rfl) (liveOn_put h rfl rfl rfl)
  | refused | authority | attached | controlled | queried | domainCreated | bufferRefused | bufferCreated
    | releasedAlone => exact hi

omit [IBackend β] [Environment β] in
theorem slotLive_removed {s : Rdmabuffer β} (hi : SlotLive s) (r : RegistrationId) (rec : RegistrationRecord)
    (backends : Table BackendId β) : SlotLive (removed s r rec backends) := by
  rw [slotLive_iff]
  intro b r' hb
  have hb : (Table.eraseIf (fun _ r' => r' == r) s.activeRegistrationForBuffer).lookup b = some r' := hb
  rw [Table.lookup_eraseIf, Option.filter_eq_some_iff] at hb
  obtain ⟨hb, hne⟩ := hb
  rw [← slotLive_iff.1 hi b r' hb]
  apply liveOn_congr
  rw [removed_lookup, if_neg (by simpa using hne)]

theorem slotLive_opStep {s s' : Rdmabuffer β} {op : Op β} (hs : OpStep s op s') (hi : SlotLive s) (hh : SlotHeld s)
    (hn : strands s (some op) = false) : SlotLive s' := by
  cases hs with
  | atomic op s' he => exact slotLive_effect he hi hh hn
  | registerRefused | registerFailed | deregisterRefused => exact hi
  | registered descriptor backend domain env b b' bo bout hv he ho hok =>
    rw [strands, hok, Bool.true_and] at hn
    exact (slotLive_commit (s := called s backend b') hi hh bout hv.slot).2 hn
  | deregistered r rec backends => exact slotLive_removed hi r rec backends
  | deregisterFailed r rec backends hr hz hd hb =>
    rw [slotLive_put hi hh r { rec with lifecycle := .failed } rfl (by rfl)
      fun j => failed_lookup s r j rec backends]
    rw [← Bool.not_eq_true, isLiveAt_iff]
    rintro ⟨rec', hr', hl⟩
    obtain rfl := Option.some.inj (hr.symm.trans hr')
    simp [strands, hr, hl, hz, hb.ok_eq] at hn

theorem slotHeld_opStep {s s' : Rdmabuffer β} {op : Op β} (hs : OpStep s op s') (hh : SlotHeld s) : SlotHeld s' := by
  cases hs with
  | atomic op s' he => exact slotHeld_effect he hh
  | registerRefused | registerFailed | deregisterRefused => exact hh
  | registered descriptor backend domain env b b' bo bout hv =>
    -- the slot was free, so no live registration was on the buffer
    have hfree : occupied (called s backend b') (pending s b descriptor backend domain env) = false := by
      rw [← Bool.not_eq_true, occupied_iff]
      rintro ⟨r, rec, hr, -, hl, hb⟩
      have hslot := hh r rec hr hl
      rw [hb] at hslot
      exact absurd (hslot.symm.trans hv.slot) nofun
    exact slotHeld_commit bout (s := called s backend b') hh hfree
  | deregistered r rec backends =>
    intro r' rec' hr' hl
    rw [removed_lookup] at hr'
    split at hr'
    · cases hr'
    · rename_i hne
      show (Table.eraseIf (fun _ r' => r' == r) s.activeRegistrationForBuffer).lookup rec'.bufferId = some r'
      rw [Table.lookup_eraseIf, hh r' rec' hr' hl]
      simp [hne]
  | deregisterFailed r rec backends =>
    intro r' rec' hr' hl
    rw [failed_lookup] at hr'
    split at hr'
    · cases hr'
      cases hl
    · exact hh r' rec' hr' hl

/-! ## The run -/

theorem slotHeld_seq {s s' : Rdmabuffer β} {l : Option (Op β)} (h : (sequential β).step s l s') (hh : SlotHeld s) :
    SlotHeld s' := by
  cases l with
  | none =>
    have h : Rehash s s' := h
    intro r rec hr hl
    rw [← Table.lookup_perm h.registrations] at hr
    rw [← Table.lookup_perm h.activeRegistrationForBuffer]
    exact hh r rec hr hl
  | some op =>
    obtain rfl : s' = op.run s := h
    exact slotHeld_opStep (op.run_cases s) hh

/-- An operation that strands a slot leaves one behind without a live registration. -/
theorem not_slotLive_of_strands {s : Rdmabuffer β} {op : Op β} (hs : strands s (some op) = true) (hi : SlotLive s)
    (hh : SlotHeld s) : ¬SlotLive (op.run s) := by
  unfold strands at hs
  split at hs
  · rename_i d hop
    cases hop
    obtain ⟨hd, ha⟩ := Bool.and_eq_true_iff.1 hs
    exact not_slotLive_destroyProtectionDomain hi hh hd ha
  · rename_i descriptor hop
    cases hop
    obtain ⟨hr, ha⟩ := Bool.and_eq_true_iff.1 hs
    exact not_slotLive_createBuffer hi hh hr ha
  · rename_i r hop
    cases hop
    exact not_slotLive_softRevoke hi hh hs
  · rename_i file hop
    cases hop
    obtain ⟨state, hres, hm⟩ := (Option.any_eq_true _ _).1 hs
    intro hi'
    have hnone := (slotLive_restored hi hh (run_restores hres)).1 hi'
    rw [hm] at hnone
    cases hnone
  · rename_i r hop
    cases hop
    obtain ⟨rec, hr, hrec⟩ := (Option.any_eq_true _ _).1 hs
    simp only [Bool.and_eq_true, beq_iff_eq, Bool.not_eq_true'] at hrec
    exact not_slotLive_deregister hi hh hr hrec.1.1 hrec.1.2 hrec.2
  · rename_i descriptor backend domain env hop
    cases hop
    obtain ⟨hok, hl⟩ := Bool.and_eq_true_iff.1 hs
    exact not_slotLive_registerBuffer hi hh hok hl
  · cases hs

/-- An operation keeps the slots live exactly if it strands none. -/
theorem slotLive_seq {s s' : Rdmabuffer β} {l : Option (Op β)} (h : (sequential β).step s l s') (hi : SlotLive s)
    (hh : SlotHeld s) : SlotLive s' ↔ strands s l = false := by
  cases l with
  | none =>
    have h : Rehash s s' := h
    refine ⟨fun _ => rfl, fun _ => hi.of_same (fun b => ?_) fun r => ?_⟩
    · exact (Table.lookup_perm h.activeRegistrationForBuffer b).symm
    · exact liveOn_congr (Table.lookup_perm h.registrations r).symm
  | some op =>
    obtain rfl : s' = op.run s := h
    refine ⟨fun hi' => ?_, slotLive_opStep (op.run_cases s) hi hh⟩
    by_contra hs
    rw [Bool.not_eq_false] at hs
    exact not_slotLive_of_strands hs hi hh hi'

/-! ## What the slots promise -/

/-- The operation ends the use of the buffer: it is reallocated, or its live registration is revoked or loses its
domain. -/
inductive Ended (s : Rdmabuffer β) : Option (Op β) → BufferId → Prop
  | reallocated (descriptor : BufferDescriptor) (h : reallocates s descriptor = true) :
      Ended s (some (.atomic (.createBuffer descriptor))) (bufferTarget s descriptor)
  | revoked (r : RegistrationId) (mode : RevocationMode) (b : BufferId) (h : liveOn s r = some b) :
      Ended s (some (.atomic (.revoke r mode))) b
  | domainDestroyed (d : ProtectionDomainId) (r : RegistrationId) (rec : RegistrationRecord)
      (hd : (s.domains.lookup d).isSome = true) (hr : s.registrations.lookup r = some rec) (hdom : rec.domainId = d)
      (hl : rec.lifecycle.isLive = true) : Ended s (some (.atomic (.destroyProtectionDomain d))) rec.bufferId

/-- The slots do not outlive their registrations in any state of the run: `register_buffer` says that a registration
is in flight only of a buffer with a live one, and not once it has ended. -/
structure SlotsLive (t : List (Lts.Transition (Rdmabuffer β) (Option (Op β)))) : Prop where
  slots : ∀ x ∈ t, SlotLive x.post
  answered : ∀ x ∈ t, ∀ descriptor backend domain env,
    (x.post.registerBuffer descriptor backend domain env).2 = registrationInFlight →
      ∃ r rec, x.post.registrations.lookup r = some rec ∧ rec.bufferId = descriptor.id ∧ rec.lifecycle.isLive = true
  again : ∀ x ∈ t, ∀ b, Ended x.pre x.label b → ∀ descriptor backend domain env, descriptor.id = b →
    (x.post.registerBuffer descriptor backend domain env).2 ≠ registrationInFlight

omit [Environment β] in
theorem SlotLive.in_flight {s : Rdmabuffer β} (hi : SlotLive s) {descriptor : BufferDescriptor} {backend : BackendId}
    {domain : ProtectionDomainId} {env : AuthorityEnvelope}
    (h : (s.registerBuffer descriptor backend domain env).2 = registrationInFlight) :
    ∃ r, liveOn s r = some descriptor.id := by
  have hok : (s.registerBuffer descriptor backend domain env).2.ok = false := congrArg RegisterResult.ok h
  have hr := registerBuffer_refusal hok
  rw [h] at hr
  obtain ⟨r, hslot⟩ := Option.isSome_iff_exists.1 hr.of_registrationInFlight
  exact ⟨r, slotLive_iff.1 hi _ r hslot⟩

omit [IBackend β] [Environment β] in
/-- A registration that is live after a withdrawal was live before, and the loop did not hit it. -/
theorem liveOn_withdrawn {s s' : Rdmabuffer β} {hit : RegistrationRecord → Bool} {lifecycle : RegistrationLifecycle}
    {reason : StdString} (hlife : lifecycle.isLive = false)
    (hregs : s'.registrations = withdrawn hit lifecycle reason s.registrations) {r : RegistrationId} {b : BufferId}
    (h : liveOn s' r = some b) : ∃ rec, s.registrations.lookup r = some rec ∧ rec.bufferId = b ∧
      rec.lifecycle.isLive = true ∧ hit rec = false := by
  obtain ⟨rec, hr, hb, hl⟩ := liveOn_eq_some.1 h
  rw [hregs] at hr
  have hold := lookup_withdrawn_live hlife hr hl
  refine ⟨rec, hold, hb, hl, ?_⟩
  by_contra hhit
  rw [withdrawn, Table.lookup_mapVals, hold, Option.map_some, if_pos (by simpa using hhit)] at hr
  rw [← Option.some.inj hr, withdraw, hlife] at hl
  cases hl

/-- No registration is live on a buffer whose use has ended. -/
theorem Ended.not_live {s s' : Rdmabuffer β} {l : Option (Op β)} {b : BufferId} (he : Ended s l b)
    (h : (sequential β).step s l s') (hh : SlotHeld s) (r : RegistrationId) : liveOn s' r ≠ some b := by
  intro hlive
  cases he with
  | reallocated descriptor hre =>
    obtain rfl : s' = (s.createBuffer descriptor).1 := h
    obtain ⟨rec, hr, hb, hl, hnot⟩ := liveOn_withdrawn rfl (createBuffer_withdraws hre).2 hlive
    simp [onBuffer, hb, hl] at hnot
  | revoked k mode _ hk =>
    obtain rfl : s' = (s.revoke k mode).1 := h
    obtain ⟨rec, hr, rfl, hl⟩ := liveOn_eq_some.1 hk
    obtain ⟨-, hregs, -⟩ := revoke_live hr hl mode
    obtain ⟨rec₁, hr₁, hb₁, hl₁⟩ := liveOn_eq_some.1 hlive
    rw [hregs, Table.lookup_put] at hr₁
    split at hr₁
    · cases hr₁
      rw [revoked_not_live] at hl₁
      cases hl₁
    · rename_i hne
      exact hne (hh.singleFlight.unique r k rec₁ rec hr₁ hr hl₁ hl hb₁)
  | domainDestroyed d k rec hd hr hdom hl =>
    obtain rfl : s' = (s.destroyProtectionDomain d).1 := h
    have hregs : (s.destroyProtectionDomain d).1.registrations =
        withdrawn (inDomain d) .revoked (lit "protection domain destroyed") s.registrations := by
      obtain ⟨de, hd⟩ := Option.isSome_iff_exists.1 hd
      unfold destroyProtectionDomain
      simp only [hd]
      rfl
    obtain ⟨rec₁, hr₁, hb₁, hl₁, hnot⟩ := liveOn_withdrawn rfl hregs hlive
    obtain rfl := hh.singleFlight.unique r k rec₁ rec hr₁ hr hl₁ hl hb₁
    obtain rfl := Option.some.inj (hr.symm.trans hr₁)
    simp [inDomain, hdom, hl] at hnot

theorem slotHeld_seq_run {t : List (Lts.Transition (Rdmabuffer β) (Option (Op β)))} {s : Rdmabuffer β}
    (h : (sequential β).Run t s) : SlotHeld s := by
  refine h.inv (I := SlotHeld) ?_ fun _ _ _ hs hh => slotHeld_seq hs hh
  rintro _ rfl r rec hr
  cases hr

omit [IBackend β] [Environment β] in
theorem slotLive_init : SlotLive ({} : Rdmabuffer β) := by
  intro b r hb
  cases hb

theorem slotLive_run {t : List (Lts.Transition (Rdmabuffer β) (Option (Op β)))} {s : Rdmabuffer β}
    (h : (sequential β).Run t s) (hn : ∀ x ∈ t, strands x.pre x.label = false) : SlotLive s := by
  have hi : SlotLive s ∧ SlotHeld s := by
    refine h.inv_of (I := fun s => SlotLive s ∧ SlotHeld s) (C := fun x => strands x.pre x.label = false) ?_ ?_ hn
    · rintro _ rfl
      exact ⟨slotLive_init, slotHeld_seq_run (.nil rfl)⟩
    · intro s l s' hs hc hi
      exact ⟨(slotLive_seq hs hi.1 hi.2).2 hc, slotHeld_seq hs hi.2⟩
  exact hi.1

/-- The slots do not outlive their registrations in a run exactly if none of its operations strands one. -/
theorem slots_live_iff (t : List (Lts.Transition (Rdmabuffer β) (Option (Op β)))) (s : Rdmabuffer β)
    (h : (sequential β).Run t s) : SlotsLive t ↔ ∀ x ∈ t, strands x.pre x.label = false := by
  constructor
  · intro hs x hx
    obtain ⟨t₁, t₂, rfl, hrun, hstep, -⟩ := h.at_mem hx
    have hpre : SlotLive x.pre := by
      rcases hrun.last with hinit | ⟨y, hy, hpost⟩
      · rw [show x.pre = {} from hinit]
        exact slotLive_init
      · rw [← hpost]
        exact hs.slots y (List.mem_append_left _ hy)
    exact (slotLive_seq hstep hpre (slotHeld_seq_run hrun)).1 (hs.slots x hx)
  · intro hn
    have hlive : ∀ x ∈ t, SlotLive x.post := by
      intro x hx
      obtain ⟨t₁, hpre, hrun⟩ := h.upto hx
      exact slotLive_run hrun fun y hy => hn y (hpre.subset hy)
    constructor
    · exact hlive
    · intro x hx descriptor backend domain env hf
      obtain ⟨r, hr⟩ := (hlive x hx).in_flight hf
      exact ⟨r, liveOn_eq_some.1 hr⟩
    · rintro x hx _ he descriptor backend domain env rfl hf
      obtain ⟨t₁, t₂, -, hrun, hstep, -⟩ := h.at_mem hx
      obtain ⟨r, hr⟩ := (hlive x hx).in_flight hf
      exact he.not_live hstep (slotHeld_seq_run hrun) r hr

end

open Session

/-- The page is registered, revoked hard, and registered again. -/
def registeredAgain : List (Op Backend) :=
  setup.map .atomic ++
    [.registerBuffer page synthetic ⟨1⟩ envelope, .atomic (.revoke ⟨1⟩ .hardRevoke),
      .registerBuffer page synthetic ⟨1⟩ envelope]

theorem slots_live_iff_again : SlotsLive (Rdmabuffer.trace {} registeredAgain) := by
  have hr : (sequential Backend).Run _ _ := ⟨{}, rfl, Rdmabuffer.path_run _ registeredAgain⟩
  exact (slots_live_iff _ _ hr).2 (by decide +kernel)

/-- The registered page is reallocated under a later generation. -/
def registeredReallocated : List (Op Backend) :=
  setup.map .atomic ++
    [.registerBuffer page synthetic ⟨1⟩ envelope, .atomic (.createBuffer { page with generation := ⟨2⟩ })]

/-- The reallocated page cannot be registered: its slot still names the registration that the reallocation made
STALE. -/
theorem reallocated_in_flight : ∃ t s, (sequential Backend).Run t s ∧ ¬SlotsLive t ∧
    s.activeRegistrationForBuffer.lookup ⟨1⟩ = some ⟨1⟩ ∧
    (s.registrations.lookup ⟨1⟩).map (·.lifecycle) = some .stale ∧
    (s.registerBuffer { page with generation := ⟨2⟩ } synthetic ⟨1⟩ envelope).2 = registrationInFlight := by
  have hr : (sequential Backend).Run _ _ := ⟨{}, rfl, Rdmabuffer.path_run _ registeredReallocated⟩
  have hslot : ((Rdmabuffer.run {} registeredReallocated).activeRegistrationForBuffer.lookup ⟨1⟩) = some ⟨1⟩ := by
    decide +kernel
  have hstale : ((Rdmabuffer.run {} registeredReallocated).registrations.lookup ⟨1⟩).map (·.lifecycle) =
      some .stale := by
    decide +kernel
  refine ⟨_, _, hr, ?_, hslot, hstale, by rfl⟩
  intro hs
  rcases hr.last with hinit | ⟨x, hx, hpost⟩
  · rw [show Rdmabuffer.run {} registeredReallocated = {} from hinit] at hslot
    cases hslot
  · obtain ⟨rec, hrec, -, hl⟩ := hs.slots x hx ⟨1⟩ ⟨1⟩ (hpost ▸ hslot)
    rw [hpost] at hrec
    have hst : rec.lifecycle = .stale := by simpa [hrec] using hstale
    rw [hst] at hl
    cases hl

end RdmaBuffer
