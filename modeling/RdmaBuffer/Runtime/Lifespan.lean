/-
How long a registration record lives. Once register_buffer has returned an id, no commit writes its
record again; from then on the record's key generation only grows, and a record that is gone or not
VALID counts as grown past every generation.
-/
import Mathlib.Data.Nat.WithBot
import RdmaBuffer.Registry.Access
import RdmaBuffer.Runtime.InFlight

namespace RdmaBuffer

open Rdmabuffer

/-! ## The age of a record -/

/-- The key generation under which a record may still be used; past all of them when it is gone or
not VALID. -/
def life : Option RegistrationRecord → WithTop Nat
  | none => ⊤
  | some rec => if rec.freshness = .valid then (rec.remoteKey.keyGeneration.value.toNat : WithTop Nat) else ⊤

theorem life_of_not_valid {rec : RegistrationRecord} (h : rec.freshness ≠ .valid) : life (some rec) = ⊤ :=
  if_neg h

theorem life_le_of_not_valid (o : Option RegistrationRecord) {rec : RegistrationRecord}
    (h : rec.freshness ≠ .valid) : life o ≤ life (some rec) :=
  le_top.trans_eq (life_of_not_valid h).symm

theorem life_of_valid {rec : RegistrationRecord} (h : rec.freshness = .valid) :
    life (some rec) = (rec.remoteKey.keyGeneration.value.toNat : WithTop Nat) :=
  if_pos h

/-- Records alike in freshness and key generation are of one age. -/
theorem life_congr {rec rec' : RegistrationRecord} (hf : rec'.freshness = rec.freshness)
    (hk : rec'.remoteKey.keyGeneration = rec.remoteKey.keyGeneration) : life (some rec') = life (some rec) := by
  simp only [life, hf, hk]

variable {β : Type} [IBackend β] [Environment β]

/-! ## Settled ids -/

/-- The id was drawn, and no registration in flight carries it. -/
structure Settled (σ : System β) (r : RegistrationId) : Prop where
  drawn : r.value.toNat < σ.runtime.nextRegistration.toNat
  landed : ∀ c p, σ.HasPending c p → p.record.id ≠ r

theorem settled_step {σ σ' : System β} {l : Option (Action β)} (h : (interleaved β).step σ l σ')
    (hw : σ'.runtime.nextRegistration ≠ 0) {r : RegistrationId} (hs : Settled σ r) : Settled σ' r := by
  refine ⟨hs.drawn.trans_le (nextRegistration_le h hw), fun c p hp => ?_⟩
  rcases hasPending_step h hp with hold | ⟨descriptor, backend, domain, env, b, rfl, hv, rfl⟩
  · exact hs.landed c p hold
  · rintro rfl
    exact absurd hs.drawn (lt_irrefl _)

/-- The step that returns an id settles it. -/
theorem settled_commit {σ : System β} (hi : InFlightIds σ) {c : Nat} {p : PendingRegistration}
    {bout : BackendRegistration} (hc : σ.clients c = some (.registered p bout)) :
    Settled (σ.exec (.registerCommit c)) p.record.id := by
  have hp : σ.HasPending c p := .inr ⟨bout, hc⟩
  rw [exec_registerCommit hc]
  refine ⟨hi.drawn c p hp, fun c' p' hp' he => ?_⟩
  rcases hasPending_move hp' with ⟨hne, hp'⟩ | ⟨-, hf | ⟨bout', hf⟩⟩
  · exact hne (hi.distinct c' c p' p hp' hp he)
  · cases hf
  · cases hf

/-! ## Records only age -/

/-- A settled record never becomes younger, as long as the generation of its key does not wrap. -/
theorem life_step {σ σ' : System β} {l : Option (Action β)} (h : (interleaved β).step σ l σ') {r : RegistrationId}
    (hs : Settled σ r)
    (hw : ∀ rec, l = some (.atomic (.rotateKey r)) → σ.runtime.registrations.lookup r = some rec →
      rec.freshness = .valid → rec.remoteKey.keyGeneration.value + 1 ≠ 0) :
    life (σ.runtime.registrations.lookup r) ≤ life (σ'.runtime.registrations.lookup r) := by
  have hr := recordStep h r
  generalize ho : σ.runtime.registrations.lookup r = o, σ'.runtime.registrations.lookup r = o' at hr
  cases hr with
  | keep => exact le_refl _
  | leases rec n => exact (life_congr rfl rfl).ge
  | destroyed | reallocated | hardRevoked | softRevoked | recovered => exact life_le_of_not_valid _ nofun
  | rotated rec hl hlive =>
    by_cases hv : rec.freshness = .valid
    · rw [life_of_valid hv, @life_of_valid (rotated rec) hv]
      have hn : (rotated rec).remoteKey.keyGeneration.value.toNat = rec.remoteKey.keyGeneration.value.toNat + 1 :=
        UInt64.toNat_succ (hw rec hl ho hv)
      rw [hn]
      exact WithTop.coe_le_coe.2 (Nat.le_succ _)
    · exact life_le_of_not_valid _ hv
  | committed c p bout o hl hc hid => exact absurd hid (hs.landed c p (.inr ⟨bout, hc⟩))
  | deregistering c rec => exact (life_congr rfl rfl).ge
  | failed c d bo rec => exact (life_congr rfl rfl).ge
  | removed => exact le_top

/-- The id is settled, and its record is gone or not VALID. -/
structure Dead (r : RegistrationId) (σ : System β) : Prop where
  settled : Settled σ r
  past : life (σ.runtime.registrations.lookup r) = ⊤

theorem dead_step {σ σ' : System β} {l : Option (Action β)} (h : (interleaved β).step σ l σ')
    (hw : σ'.runtime.nextRegistration ≠ 0) {r : RegistrationId} (hd : Dead r σ) : Dead r σ' := by
  refine ⟨settled_step h hw hd.settled, top_le_iff.1 (hd.past.ge.trans (life_step h hd.settled ?_))⟩
  intro rec _ hr hv
  have := hd.past
  rw [hr, life_of_valid hv] at this
  exact absurd this WithTop.coe_ne_top

theorem dead_path {σ σ' : System β} {t : List (Lts.Transition (System β) (Option (Action β)))}
    (h : (interleaved β).Path σ t σ') (hw : ∀ x ∈ t, x.post.runtime.nextRegistration ≠ 0) {r : RegistrationId}
    (hd : Dead r σ) : Dead r σ' :=
  h.inv_of (I := Dead r) (C := fun x => x.post.runtime.nextRegistration ≠ 0)
    (fun _ _ _ hs hw hd => dead_step hs hw hd) hw hd

omit [IBackend β] [Environment β] in
theorem Dead.not_valid {σ : System β} {r : RegistrationId} (h : Dead r σ) {rec : RegistrationRecord}
    (hr : σ.runtime.registrations.lookup r = some rec) : rec.freshness ≠ .valid := by
  intro hv
  have := h.past
  rw [hr, life_of_valid hv] at this
  exact absurd this WithTop.coe_ne_top

omit [Environment β] in
/-- No request for a dead registration is allowed. -/
theorem Dead.not_allowed {σ : System β} {r : RegistrationId} (h : Dead r σ) {q : RemoteAccessRequest}
    (hq : q.sourceRegistration = r) : (σ.runtime.validateRemoteAccess q).2.outcome ≠ .allow := by
  intro hallow
  obtain ⟨rec, b, ha⟩ := (allow_iff _ _).1 hallow
  exact h.not_valid (hq ▸ ha.registration) ha.freshness

end RdmaBuffer
