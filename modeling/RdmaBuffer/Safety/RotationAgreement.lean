/-
Key rotation on the two sides. The record is advanced whatever the backend answers: the record and the backend agree
after a rotation, and a backend that cannot rotate leaves the record alone, exactly if the backend has an entry for
the record.
-/
import RdmaBuffer.Backend.View
import RdmaBuffer.Registry.Access
import RdmaBuffer.Runtime.Execution

namespace RdmaBuffer

open Rdmabuffer Backend

/-! ## Rotations -/

/-- The backend of the registration is asked to rotate to the next generation, and answers that it did. -/
def backendRotates (s : Rdmabuffer Backend) (r : RegistrationId) : Bool :=
  (s.registrations.lookup r).any fun rec =>
    (s.backends.lookup rec.backend).any fun b =>
      rec.backendHandle != [] &&
        (IBackend.rotateKey b ⟨rec.memoryRegionId, rec.backendHandle⟩ rec.remoteKey.keyGeneration.next).2.1

/-- Record and backend are at one new generation, and both refuse the one before. -/
structure RotatedOnBoth (s s' : Rdmabuffer Backend) (r : RegistrationId) (rec rec' : RegistrationRecord) (b : Backend)
    (e : LiveEntry) : Prop where
  before : s.registrations.lookup r = some rec
  after : s'.registrations.lookup r = some rec'
  backend : s'.backends.lookup rec'.backend = some b
  entry : b.live rec'.backendHandle = some e
  generation : e.keyGeneration = rec'.remoteKey.keyGeneration
  advanced : rec'.remoteKey.keyGeneration ≠ rec.remoteKey.keyGeneration
  /-- A request under the generation zero expects none. -/
  recordRefuses : ∀ q : RemoteAccessRequest, q.sourceRegistration = r →
    q.expectedRemoteKeyGeneration.isValid = true → q.expectedRemoteKeyGeneration = rec.remoteKey.keyGeneration →
    (s'.validateRemoteAccess q).2.outcome ≠ .allow
  backendRefuses : ∀ (key : BackendKey) (kind : OperationKind) (offset length : UInt64),
    key.remoteKeyGeneration = rec.remoteKey.keyGeneration →
    (IBackend.queryRemoteAccess b ⟨rec'.memoryRegionId, rec'.backendHandle⟩ key kind offset length).2.1 ≠ .allow

/-- The rotation succeeds on both sides or on none. -/
structure RotationAgrees (s s' : Rdmabuffer Backend) (r : RegistrationId) : Prop where
  succeeds : (s.rotateKey r).2.1 = true → ∃ rec rec' b e, RotatedOnBoth s s' r rec rec' b e
  fails : backendRotates s r = false → (s.rotateKey r).2.1 = false ∧
    (s'.registrations.lookup r).map RegistrationRecord.remoteKey =
      (s.registrations.lookup r).map RegistrationRecord.remoteKey

/-- The backend of the record has an entry under its handle. -/
def hasEntry (s : Rdmabuffer Backend) (rec : RegistrationRecord) : Bool :=
  (s.backends.lookup rec.backend).any fun b => rec.backendHandle != [] && (b.live rec.backendHandle).isSome

/-- The key of a live record is rotated that has no entry in its backend. -/
def rotatesAlone (s : Rdmabuffer Backend) : Option (Action Backend) → Bool
  | some (.atomic (.rotateKey r)) => (s.registrations.lookup r).any fun rec => rec.lifecycle.isLive && !hasEntry s rec
  | _ => false

section

variable {s : Rdmabuffer Backend} {r : RegistrationId} {rec : RegistrationRecord}

theorem backendRotates_eq (hr : s.registrations.lookup r = some rec) : backendRotates s r = hasEntry s rec := by
  unfold backendRotates hasEntry
  rw [hr, Option.any_some]
  simp only [rotateKey_answer]

theorem next_ne {kind : GenerationKind} (g : StrongGeneration kind) : g.next ≠ g := by
  intro h
  have hv : g.value + 1 = g.value := congrArg StrongGeneration.value h
  have hn := congrArg UInt64.toNat hv
  rw [UInt64.toNat_add, UInt64.toNat_one] at hn
  have := g.value.toNat_lt
  omega

/-- The rotation of a live record that has an entry succeeds on both sides. -/
theorem rotatedOnBoth (hr : s.registrations.lookup r = some rec) (hl : rec.lifecycle.isLive = true)
    (he : hasEntry s rec = true) : ∃ b e, RotatedOnBoth s (s.rotateKey r).1 r rec (rotated rec) b e := by
  obtain ⟨b, hb, hlive⟩ := (Option.any_eq_true _ _).1 he
  rw [Bool.and_eq_true, bne_iff_ne, Option.isSome_iff_exists] at hlive
  obtain ⟨hh, e, hentry⟩ := hlive
  have hafter : (s.rotateKey r).1.registrations.lookup r = some (rotated rec) := by
    rw [(rotateKey_live hr hl).2, Table.lookup_put_self]
  have hbackends := rotateKey_backends hr hl hb hh
  have hrotated := (rotateKey_spec b ⟨rec.memoryRegionId, rec.backendHandle⟩ rec.remoteKey.keyGeneration.next).2
  generalize (IBackend.rotateKey b ⟨rec.memoryRegionId, rec.backendHandle⟩ rec.remoteKey.keyGeneration.next).1 = b'
    at hbackends hrotated
  rw [hentry] at hrotated
  refine ⟨b', { e with keyGeneration := rec.remoteKey.keyGeneration.next, revalidateRequired := false }, hr, hafter,
    ?_, ?_, rfl, next_ne _, ?_, ?_⟩
  · rw [hbackends]
    exact Table.lookup_put_self _ _ _
  · rw [hrotated]
    exact Function.update_self _ _ _
  · rintro q rfl hv hq hallow
    obtain ⟨rec', b₁, ha⟩ := (allow_iff _ _).1 hallow
    obtain rfl : rotated rec = rec' := Option.some.inj (hafter.symm.trans ha.registration)
    exact next_ne _ ((ha.keyGeneration hv).symm.trans hq)
  · intro key kind offset length hk hallow
    obtain ⟨e', he', hp⟩ := (queryRemoteAccess_allow _ _ _ _ _ _).1 hallow
    rw [hrotated, show (rotated rec).backendHandle = rec.backendHandle from rfl, Function.update_self] at he'
    rw [← Option.some.inj he'] at hp
    exact next_ne _ (hp.key.symm.trans hk)

/-- A rotation agrees exactly if it is refused by the record or the backend has an entry. -/
theorem rotation_agrees (s : Rdmabuffer Backend) (r : RegistrationId) :
    RotationAgrees s (s.rotateKey r).1 r ↔ rotatesAlone s (some (.atomic (.rotateKey r))) = false := by
  have halone : rotatesAlone s (some (.atomic (.rotateKey r))) =
      (s.registrations.lookup r).any fun rec => rec.lifecycle.isLive && !hasEntry s rec := rfl
  rw [halone]
  by_cases hlive : ∃ rec, s.registrations.lookup r = some rec ∧ rec.lifecycle.isLive = true
  · obtain ⟨rec, hr, hl⟩ := hlive
    obtain ⟨hok, -⟩ := rotateKey_live hr hl
    rw [hr, Option.any_some, hl, Bool.true_and, Bool.not_eq_false']
    constructor
    · intro ha
      by_contra he
      have hb : backendRotates s r = false := by
        rw [backendRotates_eq hr]
        simpa using he
      rw [(ha.fails hb).1] at hok
      cases hok
    · intro he
      refine ⟨fun _ => ⟨rec, rotated rec, rotatedOnBoth hr hl he⟩, fun hb => ?_⟩
      rw [backendRotates_eq hr, he] at hb
      cases hb
  · have hdead : ∀ rec, s.registrations.lookup r = some rec → rec.lifecycle.isLive = false := by
      intro rec hr
      by_contra hl
      exact hlive ⟨rec, hr, by simpa using hl⟩
    obtain ⟨hs, hf⟩ := rotateKey_refused hdead
    refine iff_of_true ⟨fun h => ?_, fun _ => ⟨hf, by rw [hs]⟩⟩ ?_
    · rw [hf] at h
      cases h
    · rcases hr : s.registrations.lookup r with _ | rec
      · rfl
      · simp [hdead rec hr]

end

/-! ## Runs -/

/-- From any state, so from every one that a run reaches: the rotations of a run succeed on both sides or on none
exactly if none is of a live record that has no entry in its backend. -/
theorem rotations_agree_iff (σ σ' : System Backend)
    (t : List (Lts.Transition (System Backend) (Option (Action Backend)))) (h : (interleaved Backend).Path σ t σ') :
    (∀ x ∈ t, ∀ r, x.label = some (.atomic (.rotateKey r)) → RotationAgrees x.pre.runtime x.post.runtime r) ↔
      ∀ x ∈ t, rotatesAlone x.pre.runtime x.label = false := by
  have hpost : ∀ x ∈ t, ∀ r, x.label = some (.atomic (.rotateKey r)) →
      x.post.runtime = (x.pre.runtime.rotateKey r).1 := by
    intro x hx r hl
    have hstep := h.step_mem hx
    rw [hl] at hstep
    exact congrArg System.runtime hstep
  constructor
  · intro ha x hx
    by_contra hf
    rw [Bool.not_eq_false] at hf
    -- only rotations can be alone
    obtain ⟨r, hl⟩ : ∃ r, x.label = some (.atomic (.rotateKey r)) := by
      unfold rotatesAlone at hf
      split at hf
      · rename_i r hl
        exact ⟨r, hl⟩
      · cases hf
    have hagrees := ha x hx r hl
    rw [hpost x hx r hl, rotation_agrees, ← hl, hf] at hagrees
    cases hagrees
  · intro hf x hx r hl
    rw [hpost x hx r hl, rotation_agrees, ← hl]
    exact hf x hx

open Session

/-- The page is registered, the transport generation rolls over, and the key is rotated twice. -/
def rotatedTwice : List (Action Backend) :=
  registration 0 page ++
    [.atomic (.control Session.synthetic (.synthetic .rolloverTransportGeneration)), .atomic (.rotateKey ⟨1⟩),
      .atomic (.rotateKey ⟨1⟩)]

theorem rotations_agree_iff_twice : ∃ t, (interleaved Backend).Path {} t (after rotatedTwice) ∧ t.length = 10 ∧
    ∀ x ∈ t, ∀ r, x.label = some (.atomic (.rotateKey r)) → RotationAgrees x.pre.runtime x.post.runtime r := by
  have hp : (interleaved Backend).Path {} _ (after rotatedTwice) := System.path_run _ _
  exact ⟨_, hp, rfl, (rotations_agree_iff _ _ _ hp).2 (by decide +kernel)⟩

/-- The backend has restarted after the registration. -/
def entryLost : List (Action Backend) :=
  registration 0 page ++ [.atomic (.control Session.synthetic (.synthetic .simulateBackendRestart))]

/-- The rotation reports success although the backend has no entry to rotate, and the record is at a generation the
backend does not have. -/
theorem rotates_alone : (∃ t, (interleaved Backend).Run t (after entryLost)) ∧
    backendRotates (after entryLost).runtime ⟨1⟩ = false ∧
    ((after entryLost).runtime.rotateKey ⟨1⟩).2.1 = true ∧
    ¬RotationAgrees (after entryLost).runtime ((after entryLost).runtime.rotateKey ⟨1⟩).1 ⟨1⟩ := by
  have hb : backendRotates (after entryLost).runtime ⟨1⟩ = false := by decide +kernel
  have hok : ((after entryLost).runtime.rotateKey ⟨1⟩).2.1 = true := by decide +kernel
  refine ⟨run_after _, hb, hok, fun ha => ?_⟩
  rw [(ha.fails hb).1] at hok
  cases hok

end RdmaBuffer
