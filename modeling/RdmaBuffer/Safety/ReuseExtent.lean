/-
What a reuse hit stands for. The record that is hit was registered by a call of the run; the reuse compares neither the
extent of the descriptor nor the owner and the epoch with that call, so that a hit is sound exactly if the descriptor
lies inside the one registered and the authority is the one it was registered under.
-/
import Mathlib.Order.Interval.Set.LinearOrder
import RdmaBuffer.Safety.Eligibility
import RdmaBuffer.Safety.StaleAuthority

namespace RdmaBuffer

open Rdmabuffer

/-! ## Where a live record was registered -/

section

variable {β : Type} [IBackend β] [Environment β]

/-- The step began the registration of the record: of the descriptor, under the envelope. -/
structure BegunBy (x : Lts.Transition (System β) (Option (Action β))) (d : BufferDescriptor) (env : AuthorityEnvelope)
    (rec : RegistrationRecord) : Prop where
  label : ∃ c backend domain, x.label = some (.registerBegin c d backend domain env)
  authorized : Authorized x.pre.runtime.authority env
  id : rec.id = ⟨x.pre.runtime.nextRegistration⟩
  descriptor : rec.descriptor = d
  owner : rec.owner = env.owner
  epoch : rec.epoch = x.pre.runtime.authority.coordinatorEpoch

/-- Live records and registrations in flight were begun by steps of the run. -/
structure Begun (t : List (Lts.Transition (System β) (Option (Action β)))) (σ : System β) : Prop where
  live : ∀ r rec, σ.runtime.registrations.lookup r = some rec → rec.lifecycle.isLive = true →
    ∃ x ∈ t, ∃ d env, BegunBy x d env rec
  pending : ∀ c p, σ.HasPending c p → ∃ x ∈ t, ∃ d env, BegunBy x d env p.record

theorem begun_step {t : List (Lts.Transition (System β) (Option (Action β)))} {σ σ' : System β} {l : Option (Action β)}
    (h : (interleaved β).step σ l σ') (hi : Begun t σ) : Begun (t ++ [⟨σ, l, σ'⟩]) σ' where
  live r rec' hr' hlive := by
    cases liveOrigin h hr' hlive with
    | kept rec n hr hlive he =>
      subst he
      obtain ⟨x, hx, d, env, hb⟩ := hi.live r rec hr hlive
      exact ⟨x, List.mem_append_left _ hx, d, env, hb.label, hb.authorized, hb.id, hb.descriptor, hb.owner, hb.epoch⟩
    | rotated rec hl hr hlive he =>
      subst he
      obtain ⟨x, hx, d, env, hb⟩ := hi.live r rec hr hlive
      exact ⟨x, List.mem_append_left _ hx, d, env, hb.label, hb.authorized, hb.id, hb.descriptor, hb.owner, hb.epoch⟩
    | committed c p bout hl hc hid he =>
      subst he
      obtain ⟨x, hx, d, env, hb⟩ := hi.pending c p (.inr ⟨bout, hc⟩)
      exact ⟨x, List.mem_append_left _ hx, d, env, hb.label, hb.authorized, hb.id, hb.descriptor, hb.owner, hb.epoch⟩
  pending c p hp := by
    rcases hasPending_step h hp with hold | ⟨d, backend, domain, env, b, hl, hv, rfl⟩
    · obtain ⟨x, hx, hbegun⟩ := hi.pending c p hold
      exact ⟨x, List.mem_append_left _ hx, hbegun⟩
    · exact ⟨_, List.mem_append_right _ (List.mem_singleton.2 rfl), d, env, ⟨c, backend, domain, hl⟩, hv.authorized,
        rfl, rfl, rfl, rfl⟩

theorem begun_run {t : List (Lts.Transition (System β) (Option (Action β)))} {σ : System β}
    (h : (interleaved β).Run t σ) : Begun t σ := by
  refine h.trace_inv (I := Begun) (C := fun _ _ => True) ?_ (fun t σ l σ' hs _ hi => begun_step hs hi)
    fun _ _ _ _ => trivial
  rintro _ rfl
  refine ⟨fun r rec hr => ?_, ?_⟩
  · cases hr
  · rintro c p (hp | ⟨bout, hp⟩) <;> cases hp

end

/-! ## The headline -/

/-- The addresses of an extent, without wrapping round. -/
def addresses (base length : UInt64) : Set Nat := Set.Ico base.toNat (base.toNat + length.toNat)

/-- What a hit on the record should mean, where the record was registered under the second envelope. -/
structure SoundHit (descriptor : BufferDescriptor) (env : AuthorityEnvelope) (rec : RegistrationRecord)
    (env₀ : AuthorityEnvelope) : Prop where
  extent : addresses descriptor.base.address descriptor.byteLength ⊆ addresses rec.start rec.length
  rights : accessSuperset rec.grantedAccess descriptor.requestedAccess = true
  owner : env₀.owner = env.owner
  epoch : env₀.coordinatorEpoch = env.coordinatorEpoch

/-- The bytes of the descriptor, if it has any, lie inside those of the other. -/
def BufferDescriptor.Inside (d d₀ : BufferDescriptor) : Prop :=
  d.byteLength = 0 ∨ d₀.base.address.toNat ≤ d.base.address.toNat ∧
    d.base.address.toNat + d.byteLength.toNat ≤ d₀.base.address.toNat + d₀.byteLength.toNat

theorem addresses_subset_iff {d d₀ : BufferDescriptor} :
    addresses d.base.address d.byteLength ⊆ addresses d₀.base.address d₀.byteLength ↔ d.Inside d₀ := by
  unfold addresses BufferDescriptor.Inside
  by_cases h0 : d.byteLength = 0
  · simp [h0]
  · have hpos : 0 < d.byteLength.toNat := Nat.pos_of_ne_zero fun h => h0 (UInt64.toNat_inj.1 h)
    rw [Set.Ico_subset_Ico_iff (by omega)]
    simp [h0]

/-- The snapshots have the same owner and the same epoch. -/
def SameTenure (snap snap' : AuthoritySnapshot) : Prop :=
  snap.owner = snap'.owner ∧ snap.coordinatorEpoch = snap'.coordinatorEpoch

/-- A reuse hit is sound exactly if the descriptor lies inside the one the registration was begun with, and the
authority in force has the owner and the epoch it had then. -/
theorem reuse_hit_sound_iff (t : List (Lts.Transition (System Backend) (Option (Action Backend))))
    (σ : System Backend) (h : (interleaved Backend).Run t σ) (descriptor : BufferDescriptor) (backend : BackendId)
    (domain : ProtectionDomainId) (env : AuthorityEnvelope)
    (hit : (σ.runtime.registerBufferReuse descriptor backend domain env).2.reuse = .reuseHit) :
    ∃ rec, σ.runtime.registrations.lookup
        (σ.runtime.registerBufferReuse descriptor backend domain env).2.registration = some rec ∧
      ∃ x ∈ t, ∃ d env₀, BegunBy x d env₀ rec ∧
        (SoundHit descriptor env rec env₀ ↔
          descriptor.Inside d ∧ SameTenure x.pre.runtime.authority σ.runtime.authority) := by
  obtain ⟨ha, k, cand, hk, hc, hreg, -⟩ := registerBufferReuse_hit (.inr hit)
  have hlive := (extents_run h).live k cand hk hc.live
  obtain ⟨x, hx, d, env₀, hb⟩ := (begun_run h).live k cand hk hc.live
  refine ⟨cand, by rw [hreg, hlive.id]; exact hk, x, hx, d, env₀, hb, ?_⟩
  have hnow := (authorized_iff _ _).1 ha
  have hthen := (authorized_iff _ _).1 hb.authorized
  have hextent : addresses cand.start cand.length = addresses d.base.address d.byteLength := by
    rw [hlive.base, hlive.length, hb.descriptor]
  constructor
  · intro hs
    refine ⟨addresses_subset_iff.1 (hextent ▸ hs.extent), ?_, ?_⟩
    · exact hthen.owner.2.2.symm.trans (hs.owner.trans hnow.owner.2.2)
    · exact hthen.epoch.2.2.symm.trans (hs.epoch.trans hnow.epoch.2.2)
  · rintro ⟨hinside, howner, hepoch⟩
    refine ⟨hextent ▸ addresses_subset_iff.2 hinside, hc.rights, ?_, ?_⟩
    · exact hthen.owner.2.2.trans (howner.trans hnow.owner.2.2.symm)
    · exact hthen.epoch.2.2.trans (hepoch.trans hnow.epoch.2.2.symm)

open Session

theorem reuse_hit_sound_iff_page : ∃ t rec env₀, (interleaved Backend).Run t (after (registration 0 page)) ∧
    (after (registration 0 page)).runtime.registrations.lookup ⟨1⟩ = some rec ∧ SoundHit page envelope rec env₀ := by
  have hr : (interleaved Backend).Run _ (after (registration 0 page)) := ⟨{}, rfl, System.path_run _ _⟩
  obtain ⟨rec, hrec, x, -, d, env₀, hb, hiff⟩ :=
    reuse_hit_sound_iff _ _ hr page Session.synthetic ⟨1⟩ envelope (by decide +kernel)
  refine ⟨_, rec, env₀, hr, hrec, hiff.2 ?_⟩
  obtain rfl := Option.some.inj hrec.symm
  have hthen := (authorized_iff _ _).1 hb.authorized
  refine ⟨.inr ?_, ?_, hb.epoch.symm⟩
  · rw [← hb.descriptor]
    decide +kernel
  · exact hthen.owner.2.2.symm.trans hb.owner.symm

/-- Twice the page, at its address. -/
def longPage : BufferDescriptor := { page with byteLength := 8192 }

/-- The registration of the page is hit for twice its length. -/
theorem reuse_hit_outside : ∃ t, (interleaved Backend).Run t (after (registration 0 page)) ∧
    ((after (registration 0 page)).runtime.registerBufferReuse longPage Session.synthetic ⟨1⟩ envelope).2.reuse =
      .reuseHit ∧
    ((after (registration 0 page)).runtime.registerBufferReuse longPage Session.synthetic ⟨1⟩ envelope).2.registration =
      ⟨1⟩ ∧
    ∃ rec, (after (registration 0 page)).runtime.registrations.lookup ⟨1⟩ = some rec ∧
      ∀ env₀, ¬SoundHit longPage envelope rec env₀ := by
  refine ⟨_, ⟨{}, rfl, System.path_run _ _⟩, by decide +kernel, by decide +kernel, _, rfl, fun env₀ hs => ?_⟩
  have hin : (0x10000 + 4096 : Nat) ∈ addresses longPage.base.address longPage.byteLength := by
    constructor <;> decide
  exact absurd (hs.extent hin).2 (by decide +kernel)

end RdmaBuffer
