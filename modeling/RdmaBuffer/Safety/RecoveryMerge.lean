/-
What a recovery does to a runtime that is already in use. Buffers and protection domains are only added; a
registration of the file replaces the record of its identity, so the recovery only adds exactly when every
record it names is one that it would write again.
-/
import RdmaBuffer.Persistence.RoundTrip
import RdmaBuffer.Runtime.Counting
import RdmaBuffer.Safety.Identity

namespace RdmaBuffer

open Rdmabuffer

/-! ## Records that are already recovered -/

/-- The record is what a recovery made of the file's record: not live, without key or handle material, and
alike in everything else. -/
structure AlreadyRecovered (rec old : RegistrationRecord) : Prop where
  lifecycle : old.lifecycle = .revalidationRequired
  freshness : old.freshness = .revalidationRequired
  revoked : old.remoteKey.revoked = true
  remoteOpaque : old.remoteKey.opaqueValue = 0
  localOpaque : old.localKey.opaqueValue = 0
  backendHandle : old.backendHandle = []
  memoryRegionId : old.memoryRegionId = {}
  others :
    { old with
      lifecycle := rec.lifecycle
      freshness := rec.freshness
      remoteKey := { old.remoteKey with revoked := rec.remoteKey.revoked, opaqueValue := rec.remoteKey.opaqueValue }
      localKey := { old.localKey with opaqueValue := rec.localKey.opaqueValue }
      backendHandle := rec.backendHandle
      memoryRegionId := rec.memoryRegionId } = rec

theorem alreadyRecovered_iff {rec old : RegistrationRecord} : AlreadyRecovered rec old ↔ recoveredRecord rec = old := by
  constructor
  · rintro ⟨hl, hf, hr, ho, hlo, hh, hm, he⟩
    have hremote : { old.remoteKey with revoked := true, opaqueValue := 0 } = old.remoteKey := by rw [← hr, ← ho]
    have hlocal : { old.localKey with opaqueValue := 0 } = old.localKey := by rw [← hlo]
    rw [← he]
    show { old with
      lifecycle := .revalidationRequired, freshness := .revalidationRequired
      remoteKey := { old.remoteKey with revoked := true, opaqueValue := 0 }
      localKey := { old.localKey with opaqueValue := 0 }, backendHandle := [], memoryRegionId := {} } = old
    rw [hremote, hlocal, ← hl, ← hf, ← hh, ← hm]
  · rintro rfl
    constructor <;> rfl

/-- No registration of the file has the identity of a record that is not already recovered from it. -/
def ReplacesNothing {β : Type} (s : Rdmabuffer β) (state : PersistableState) : Prop :=
  ∀ rec ∈ state.registrations, ∀ old, s.registrations.lookup rec.id = some old → AlreadyRecovered rec old

/-! ## Adding only -/

section

variable {β : Type}

/-- The sum of `w` over the live registrations. -/
def liveTotal (w : RegistrationRecord → Nat) (s : Rdmabuffer β) : Nat :=
  Table.total (fun rec => if rec.lifecycle.isLive then w rec else 0) s.registrations

/-- The counters of registrations are the sums over the live ones. -/
def MatchesLive (s : Rdmabuffer β) : Prop :=
  Balance s.acct (liveTotal (fun _ => 1) s) (liveTotal (fun rec => rec.length.toNat) s)
    (liveTotal (fun rec => pinnedPart rec.length rec.domain) s)

/-- Some record can release the handle at the backend. -/
def Releasable (s : Rdmabuffer β) (backend : BackendId) (handle : StdString) : Prop :=
  ∃ r rec, s.registrations.lookup r = some rec ∧ rec.backend = backend ∧ rec.backendHandle = handle

/-- What is in the tables of `s` is unchanged in `s'`, and with it the live registrations, their counters and
the entries of the backends that they can release. -/
structure OnlyAdds (s s' : Rdmabuffer β) : Prop where
  buffers : ∀ id be, s.buffers.lookup id = some be → s'.buffers.lookup id = some be
  domains : ∀ d de, s.domains.lookup d = some de → s'.domains.lookup d = some de
  registrations : ∀ r rec, s.registrations.lookup r = some rec → s'.registrations.lookup r = some rec
  live : ∀ r rec, s.registrations.lookup r = some rec → rec.lifecycle.isLive = true →
    ∃ rec', s'.registrations.lookup r = some rec' ∧ rec'.lifecycle = rec.lifecycle ∧
      rec'.freshness = rec.freshness ∧ rec'.backendHandle = rec.backendHandle ∧ rec'.leaseCount = rec.leaseCount
  counters : MatchesLive s → MatchesLive s'
  releasable : s'.backends = s.backends ∧ ∀ backend handle, Releasable s backend handle → Releasable s' backend handle

/-! ## What is recovered is not live -/

/-- Every live record of `s` is one of `s'`, and the other way round. -/
def SameLive (s s' : Rdmabuffer β) : Prop :=
  ∀ r, (s'.registrations.lookup r).filter (fun rec => rec.lifecycle.isLive) =
    (s.registrations.lookup r).filter (fun rec => rec.lifecycle.isLive)

theorem liveTotal_eq (w : RegistrationRecord → Nat) (s : Rdmabuffer β) :
    liveTotal w s = Table.total w (Table.eraseIf (fun _ rec => !rec.lifecycle.isLive) s.registrations) := by
  rw [Table.total_eraseIf w (fun rec => !rec.lifecycle.isLive)]
  unfold liveTotal
  congr 1
  funext rec
  cases rec.lifecycle.isLive <;> rfl

theorem SameLive.liveTotal {s s' : Rdmabuffer β} (h : SameLive s s') (w : RegistrationRecord → Nat) :
    liveTotal w s' = liveTotal w s := by
  rw [liveTotal_eq, liveTotal_eq]
  apply Table.total_congr
  intro r
  simpa only [Table.lookup_eraseIf, Bool.not_not] using h r

/-- The records of the file that are written again. -/
theorem ReplacesNothing.registration {s : Rdmabuffer β} {state : PersistableState} (h : ReplacesNothing s state)
    {r : RegistrationId} {rec : RegistrationRecord} (hr : s.registrations.lookup r = some rec) :
    (restore s state).1.registrations.lookup r = some rec := by
  rcases (restore_spec s state).registration r with ⟨-, hk⟩ | ⟨rec', hm, rfl, hk⟩
  · rw [hk, hr]
  · rw [hk, alreadyRecovered_iff.1 (h rec' hm rec hr)]

theorem ReplacesNothing.sameLive {s : Rdmabuffer β} {state : PersistableState} (h : ReplacesNothing s state) :
    SameLive s (restore s state).1 := by
  intro r
  rcases hr : s.registrations.lookup r with _ | rec
  · rcases (restore_spec s state).registration r with ⟨-, hk⟩ | ⟨rec', -, -, hk⟩
    · rw [hk, hr]
    · rw [hk]
      rfl
  · rw [h.registration hr]

theorem ReplacesNothing.onlyAdds {s : Rdmabuffer β} {state : PersistableState} (h : ReplacesNothing s state) :
    OnlyAdds s (restore s state).1 := by
  have hspec := restore_spec s state
  constructor
  case buffers =>
    intro id be hbe
    rcases hspec.buffer id with hk | ⟨hn, -⟩
    · rw [hk, hbe]
    · rw [hbe] at hn
      cases hn
  case domains =>
    intro d de hde
    rcases hspec.domain d with hk | ⟨hn, -⟩
    · rw [hk, hde]
    · rw [hde] at hn
      cases hn
  case registrations => exact fun r rec hr => h.registration hr
  case live => exact fun r rec hr _ => ⟨rec, h.registration hr, rfl, rfl, rfl, rfl⟩
  case counters =>
    intro hb
    unfold MatchesLive
    rw [h.sameLive.liveTotal, h.sameLive.liveTotal, h.sameLive.liveTotal]
    exact hb.of_resources (restore_resources s state)
  case releasable =>
    refine ⟨hspec.backends, ?_⟩
    rintro backend handle ⟨r, rec, hr, hb, hh⟩
    exact ⟨r, rec, h.registration hr, hb, hh⟩

/-- Where the identities of the file are distinct every one of its registrations is written. -/
theorem restore_registration (s : Rdmabuffer β) {state : PersistableState}
    (hd : (state.registrations.map fun rec => rec.id).Nodup) {rec : RegistrationRecord}
    (hm : rec ∈ state.registrations) :
    (restore s state).1.registrations.lookup rec.id = some (recoveredRecord rec) := by
  rcases (restore_spec s state).registration rec.id with ⟨hne, -⟩ | ⟨rec', hm', hid, hk⟩
  · exact absurd rfl (hne rec hm)
  · rw [hk, List.inj_on_of_nodup_map hd hm' hm hid]

/-- A recovery only adds exactly when every record of the file whose identity is in the table is already
recovered there. -/
theorem recovery_only_adds_iff (s : Rdmabuffer β) (bytes : Bytes) (state : PersistableState)
    (hp : Persistence.parse bytes = .ok state) :
    OnlyAdds s (s.recover (some bytes)).1 ↔ ReplacesNothing s state := by
  rw [recover_of_parse s hp]
  constructor
  · intro h rec hm old hold
    apply alreadyRecovered_iff.2
    have hk := h.registrations rec.id old hold
    rw [restore_registration s (Persistence.parse_sound hp).2.registrations hm] at hk
    exact Option.some.inj hk
  · exact ReplacesNothing.onlyAdds

end

open Session

/-- A runtime with a live registration 1 recovers the file of another session, which has registration 9. -/
theorem recovery_only_adds_iff_disjoint :
    OnlyAdds (after (registration 0 page)).runtime
      ((after (registration 0 page)).runtime.recover (some (Persistence.serialize Persistence.saved))).1 := by
  refine (recovery_only_adds_iff _ _ _ Persistence.parse_saved).2 ?_
  intro rec hm old hold
  obtain rfl := List.mem_singleton.1 hm
  have hnone : (after (registration 0 page)).runtime.registrations.lookup ⟨9⟩ = none := by decide
  cases hnone.symm.trans hold

theorem matchesLive_registered : MatchesLive (after (registration 0 page)).runtime := by
  constructor <;> decide

/-- The handle of registration 1 in that runtime. -/
def pageHandle : StdString :=
  ((after (registration 0 page)).runtime.registrations.lookup ⟨1⟩).elim [] fun rec => rec.backendHandle

/-- The runtime that saved the file recovers it: its live registration is replaced by the file's record. It is
still counted, and no record is left that can release its entry. -/
theorem live_registration_replaced : ∃ s : Rdmabuffer Backend, (∃ t σ, (interleaved Backend).Run t σ ∧ σ.runtime = s) ∧
    (∃ state, Persistence.parse file = .ok state) ∧ ¬OnlyAdds s (s.recover (some file)).1 ∧
    MatchesLive s ∧ ¬MatchesLive (s.recover (some file)).1 ∧
    ∃ backend h, Releasable s backend h ∧ ¬Releasable (s.recover (some file)).1 backend h := by
  obtain ⟨t, hr⟩ := run_after (registration 0 page)
  have hcounted : ¬MatchesLive ((after (registration 0 page)).runtime.recover (some file)).1 := by
    rw [recover_of_parse _ parse_file]
    intro h
    have := h.active
    revert this
    decide +kernel
  have hhandles : ∀ e ∈ ((after (registration 0 page)).runtime.recover (some file)).1.registrations.entries,
      e.2.backendHandle = [] := by
    rw [recover_of_parse _ parse_file]
    decide +kernel
  refine ⟨(after (registration 0 page)).runtime, ⟨t, _, hr, rfl⟩, ⟨_, parse_file⟩, ?_, matchesLive_registered, hcounted,
    synthetic, pageHandle, ⟨⟨1⟩, _, rfl, rfl, rfl⟩, ?_⟩
  · intro h
    exact hcounted (h.counters matchesLive_registered)
  · rintro ⟨r, rec, hk, -, hh⟩
    have hnil : rec.backendHandle = [] := hhandles ⟨r, rec⟩ (Table.mem_entries.2 hk)
    rw [hh] at hnil
    revert hnil
    decide

end RdmaBuffer
