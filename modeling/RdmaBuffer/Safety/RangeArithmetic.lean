/-
The two forms of the range check, checked addition in the registry and subtraction in the backends: they agree on every
descriptor, and a range they accept does not wrap above the base of a descriptor that `validate_range` accepts.
-/
import RdmaBuffer.Runtime.Extents

namespace RdmaBuffer

open Rdmabuffer Backend

/-! ## The check of the backends -/

/-- The test that both backends make of an access to `n` bytes. -/
def exceeds (n offset length : UInt64) : Bool := offset > n || length > n - offset

/-- A query on the entry with the key comes to the range check. -/
structure ReachesRange (e : LiveEntry) (key : BackendKey) : Prop where
  revalidated : e.revalidateRequired = false
  unrevoked : e.revoked = false
  key : key.remoteKeyGeneration = e.keyGeneration

/-- A check that rejects with an outcome decides where nothing behind it has that outcome. -/
theorem ite_reject_self {c : Prop} [Decidable c] {o : AccessOutcome} {m : StdString} {x : AccessOutcome × StdString}
    (hx : x.1 ≠ o) : (if c then (o, m) else x).1 = o ↔ c := by
  split
  · rename_i h; simp [h]
  · rename_i h; simp [h, hx]

theorem synthetic_queryEntry_range (b : SyntheticBackend) (e : SyntheticEntry) (key : BackendKey)
    (kind : OperationKind) (offset length : UInt64) :
    (b.queryEntry e key kind offset length).1 = .rejectRange ↔
      ReachesRange e.view key ∧ exceeds e.view.length offset length = true := by
  unfold SyntheticBackend.queryEntry
  rw [ite_reject_outcome (by decide), ite_reject_outcome (by decide), ite_reject_outcome (by decide),
    ite_reject_self]
  · constructor
    · rintro ⟨hv, hr, hg, hlen⟩
      exact ⟨⟨by simpa using hv, by simpa using hr, by simpa using hg⟩, hlen⟩
    · rintro ⟨h, hlen⟩
      exact ⟨by simpa using h.revalidated, by simpa using h.unrevoked, by simpa using h.key, hlen⟩
  · cases kind
    all_goals
      dsimp only
      split
      · nofun
      · split <;> nofun

theorem reference_queryEntry_range (e : ReferenceEntry) (key : BackendKey) (kind : OperationKind)
    (offset length : UInt64) :
    (ReferenceBackend.queryEntry e key kind offset length).1 = .rejectRange ↔
      ReachesRange e.view key ∧ exceeds e.view.length offset length = true := by
  unfold ReferenceBackend.queryEntry
  rw [ite_reject_outcome (by decide), ite_reject_outcome (by decide), ite_reject_self]
  · constructor
    · rintro ⟨hr, hg, hlen⟩
      exact ⟨⟨rfl, by simpa using hr, by simpa using hg⟩, hlen⟩
    · rintro ⟨h, hlen⟩
      exact ⟨by simpa using h.unrevoked, by simpa using h.key, hlen⟩
  · split
    · nofun
    · split
      · nofun
      · split <;> nofun

/-- A query is answered REJECT_RANGE exactly if it comes to the range check and exceeds the entry. -/
theorem queryRemoteAccess_range (b : Backend) (handle : RegisterHandle) (key : BackendKey) (kind : OperationKind)
    (offset length : UInt64) :
    (IBackend.queryRemoteAccess b handle key kind offset length).2.1 = .rejectRange ↔
      ∃ e, b.live handle.handle = some e ∧ ReachesRange e key ∧ exceeds e.length offset length = true := by
  cases b with
  | synthetic b =>
    show (b.queryRemoteAccess handle key kind offset length).2.1 = .rejectRange ↔ _
    unfold SyntheticBackend.queryRemoteAccess
    rcases he : b.entries.lookup handle.handle with _ | e
    · simp [live, he]
    · simpa [live, he] using synthetic_queryEntry_range b e key kind offset length
  | reference b =>
    show (b.queryRemoteAccess handle key kind offset length).2.1 = .rejectRange ↔ _
    unfold ReferenceBackend.queryRemoteAccess
    rcases he : b.entries.lookup handle.handle with _ | e
    · simp [live, he]
    · simpa [live, he] using reference_queryEntry_range e key kind offset length

/-! ## The two forms -/

/-- Both forms decide one inequality on natural numbers. -/
theorem rangeInside_iff_not_exceeds (d : BufferDescriptor) (offset length : UInt64) :
    rangeInside d offset length = true ↔ exceeds d.byteLength offset length = false := by
  rw [rangeInside_iff, ← not_iff_not, ← exceeds_iff, Bool.not_eq_false]
  rfl

/-- Neither sum wraps in 64 bits, and the end of the access is inside the descriptor's bytes, whose end does not wrap
either. -/
structure EndsInside (d : BufferDescriptor) (offset length : UInt64) : Prop where
  first : (d.base.address + offset).toNat = d.base.address.toNat + offset.toNat
  last : (d.base.address + offset + length).toNat = d.base.address.toNat + offset.toNat + length.toNat
  bound : (d.base.address + d.byteLength).toNat = d.base.address.toNat + d.byteLength.toNat
  lower : d.base.address ≤ d.base.address + offset + length
  upper : d.base.address + offset + length ≤ d.base.address + d.byteLength

theorem endsInside {d : BufferDescriptor} (hd : ValidRange d) {offset length : UInt64}
    (h : rangeInside d offset length = true) : EndsInside d offset length := by
  have hle := rangeInside_iff.1 h
  have hfits := hd.fits
  have hfirst : (d.base.address + offset).toNat = d.base.address.toNat + offset.toNat :=
    UInt64.toNat_add_of_lt (by omega)
  have hlast : (d.base.address + offset + length).toNat = d.base.address.toNat + offset.toNat + length.toNat := by
    rw [UInt64.toNat_add_of_lt (by omega), hfirst]
  have hbound : (d.base.address + d.byteLength).toNat = d.base.address.toNat + d.byteLength.toNat :=
    UInt64.toNat_add_of_lt hfits
  refine ⟨hfirst, hlast, hbound, ?_, ?_⟩
  · rw [UInt64.le_iff_toNat_le, hlast]
    omega
  · rw [UInt64.le_iff_toNat_le, hlast, hbound]
    omega

/-- The registry and the backends make one check of the range, and what it accepts does not wrap. -/
structure RangesAgree (d : BufferDescriptor) (offset length : UInt64) : Prop where
  forms : rangeInside d offset length = true ↔ exceeds d.byteLength offset length = false
  backends : ∀ (b : Backend) (handle : RegisterHandle) (e : LiveEntry) (key : BackendKey) (kind : OperationKind),
    b.live handle.handle = some e → e.length = d.byteLength → ReachesRange e key →
    ((IBackend.queryRemoteAccess b handle key kind offset length).2.1 = .rejectRange ↔
      rangeInside d offset length = false)
  inside : rangeInside d offset length = true → EndsInside d offset length

/-- Range arithmetic never wraps, and its two forms agree. -/
theorem ranges_agree (d : BufferDescriptor) (hd : (validateRange d).ok = true) (offset length : UInt64) :
    RangesAgree d offset length where
  forms := rangeInside_iff_not_exceeds d offset length
  backends b handle e key kind he hlen hreach := by
    rw [queryRemoteAccess_range, Bool.eq_false_iff, ne_eq, rangeInside_iff_not_exceeds, Bool.not_eq_false]
    constructor
    · rintro ⟨e', he', -, hexceeds⟩
      obtain rfl := Option.some.inj (he.symm.trans he')
      exact hlen ▸ hexceeds
    · intro hexceeds
      exact ⟨e, he, hreach, hlen.symm ▸ hexceeds⟩
  inside := endsInside (validateRange_ok.1 hd)

/-- The page, accessed at its very end. -/
theorem ranges_agree_page : RangesAgree Session.page 4096 0 := ranges_agree Session.page (by decide) 4096 0

/-! ## Over runs -/

/-- Live records and registrations in flight are of valid ranges. -/
structure RangesValid (σ : System Backend) : Prop where
  live : ∀ r rec, σ.runtime.registrations.lookup r = some rec → rec.lifecycle.isLive = true →
    ValidRange rec.descriptor
  pending : ∀ c p, σ.HasPending c p → ValidRange p.record.descriptor

theorem rangesValid_step {σ σ' : System Backend} {l : Option (Action Backend)}
    (h : (interleaved Backend).step σ l σ') (hi : RangesValid σ) : RangesValid σ' where
  live r rec' hr' hlive := by
    cases liveOrigin h hr' hlive with
    | kept rec n hr hlive he =>
      subst he
      exact hi.live r rec hr hlive
    | rotated rec hl hr hlive he =>
      subst he
      exact hi.live r rec hr hlive
    | committed c p bout hl hc hid he =>
      subst he
      exact hi.pending c p (.inr ⟨bout, hc⟩)
  pending c p hp := by
    rcases hasPending_step h hp with hold | ⟨descriptor, backend, domain, env, b, -, hv, rfl⟩
    · exact hi.pending c p hold
    · exact validateRange_ok.1 hv.range

theorem rangesValid_run {t : List (Lts.Transition (System Backend) (Option (Action Backend)))} {σ : System Backend}
    (h : (interleaved Backend).Run t σ) : RangesValid σ := by
  refine h.inv (I := RangesValid) ?_ fun _ _ _ hs hi => rangesValid_step hs hi
  rintro _ rfl
  refine ⟨fun r rec hr => ?_, ?_⟩
  · cases hr
  · rintro c p (hp | ⟨bout, hp⟩) <;> cases hp

/-- What the registry finds inside a live record does not wrap, and its backend never answers REJECT_RANGE to it. -/
theorem range_checked_once {t : List (Lts.Transition (System Backend) (Option (Action Backend)))} {σ : System Backend}
    (h : (interleaved Backend).Run t σ) (hb : ∀ x ∈ t, Bounded x.pre.runtime ∧ Bounded x.post.runtime)
    {r : RegistrationId} {rec : RegistrationRecord} (hr : σ.runtime.registrations.lookup r = some rec)
    (hlive : rec.lifecycle.isLive = true) {offset length : UInt64}
    (hin : rangeInside rec.descriptor offset length = true) :
    EndsInside rec.descriptor offset length ∧
      ∀ b key kind, σ.runtime.backends.lookup rec.backend = some b →
        (IBackend.queryRemoteAccess b ⟨rec.memoryRegionId, rec.backendHandle⟩ key kind offset length).2.1 ≠
          .rejectRange := by
  refine ⟨endsInside ((rangesValid_run h).live r rec hr hlive) hin, fun b key kind hbk hreject => ?_⟩
  obtain ⟨e, he, -, hexceeds⟩ := (queryRemoteAccess_range _ _ _ _ _ _).1 hreject
  have hcovers := (covered_run h hb).record r rec e hr hlive (entryAt_eq_some.2 ⟨b, hbk, he⟩)
  rw [hcovers.length, (rangeInside_iff_not_exceeds _ _ _).1 hin] at hexceeds
  cases hexceeds

end RdmaBuffer
