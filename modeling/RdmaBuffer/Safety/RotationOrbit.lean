/-
The opaque value of a remote key over all the rotations of its registration. A rotation is an exclusive or with a
constant, so a second one brings the first value back: the values are distinct only up to one rotation.
-/
import RdmaBuffer.Lib.Word
import RdmaBuffer.Registry.Access
import RdmaBuffer.Runtime.Execution
import RdmaBuffer.Runtime.Extents

namespace RdmaBuffer

open Rdmabuffer

section

variable {β : Type} [IBackend β] [Environment β]

/-! ## The history of a key -/

/-- What a step can do to the opaque value of a live registration. -/
inductive KeyEvent
  | registered | rotated

/-- The step commits the registration `r`, or rotates its key. -/
def keyEvent (r : RegistrationId) (x : Lts.Transition (System β) (Option (Action β))) : Option KeyEvent :=
  match x.label with
  | some (.registerCommit c) =>
    match x.pre.clients c with
    | some (.registered p _) => if p.record.id = r then some .registered else none
    | _ => none
  | some (.atomic (.rotateKey k)) =>
    if k = r ∧ (x.pre.runtime.rotateKey k).2.1 = true then some .rotated else none
  | _ => none

/-- The opaque value of the remote key of `r`, if there is a record. -/
def opaqueValue (s : Rdmabuffer β) (r : RegistrationId) : List UInt64 :=
  ((s.registrations.lookup r).map fun rec => rec.remoteKey.opaqueValue).toList

/-- The opaque values of the last registration under `r`: at the registration, and after each rotation since. -/
def keyHistory (r : RegistrationId) (t : List (Lts.Transition (System β) (Option (Action β)))) : List UInt64 :=
  t.foldl (fun values x =>
    match keyEvent r x with
    | some .registered => opaqueValue x.post.runtime r
    | some .rotated => values ++ opaqueValue x.post.runtime r
    | none => values) []

/-- The successful rotations of `r` since it was last registered. -/
def rotations (r : RegistrationId) (t : List (Lts.Transition (System β) (Option (Action β)))) : Nat :=
  t.foldl (fun n x =>
    match keyEvent r x with
    | some .registered => 0
    | some .rotated => n + 1
    | none => n) 0

/-- A rotation of the opaque value. -/
def rotatedValue (v : UInt64) : UInt64 := v ^^^ 0x0101010101010101

/-- The history so far is an orbit of the rotation, and ends with the value of the live record. -/
inductive Orbit (r : RegistrationId) (s : Rdmabuffer β) : List UInt64 → Nat → Prop
  | unregistered (h : ∀ rec, s.registrations.lookup r = some rec → rec.lifecycle.isLive = false) : Orbit r s [] 0
  | registered (v : UInt64) (n : Nat)
      (h : ∀ rec, s.registrations.lookup r = some rec → rec.lifecycle.isLive = true →
        rec.remoteKey.opaqueValue = rotatedValue^[n] v) :
      Orbit r s (List.iterate rotatedValue v (n + 1)) n

/-! ## Events -/

variable {r : RegistrationId} {x : Lts.Transition (System β) (Option (Action β))}

theorem keyEvent_commit {c : Nat} {p : PendingRegistration} {bout : BackendRegistration}
    (hl : x.label = some (.registerCommit c)) (hc : x.pre.clients c = some (.registered p bout))
    (hid : p.record.id = r) : keyEvent r x = some .registered := by
  simp [keyEvent, hl, hc, hid]

theorem keyEvent_rotateKey {rec : RegistrationRecord} (hl : x.label = some (.atomic (.rotateKey r)))
    (hr : x.pre.runtime.registrations.lookup r = some rec) (hlive : rec.lifecycle.isLive = true) :
    keyEvent r x = some .rotated := by
  simp [keyEvent, hl, (rotateKey_live hr hlive).1]

theorem keyEvent_registered (h : keyEvent r x = some .registered) :
    ∃ c p bout, x.label = some (.registerCommit c) ∧ x.pre.clients c = some (.registered p bout) ∧ p.record.id = r := by
  unfold keyEvent at h
  split at h
  · rename_i c hl
    split at h
    · rename_i p bout hc
      split at h
      · rename_i hid
        exact ⟨c, p, bout, hl, hc, hid⟩
      · cases h
    · cases h
  · split at h <;> cases h
  · cases h

theorem keyEvent_rotated (h : keyEvent r x = some .rotated) :
    x.label = some (.atomic (.rotateKey r)) ∧ (x.pre.runtime.rotateKey r).2.1 = true := by
  unfold keyEvent at h
  split at h
  · split at h
    · split at h <;> cases h
    · cases h
  · rename_i k hl
    split at h
    · rename_i hk
      obtain ⟨rfl, hok⟩ := hk
      exact ⟨hl, hok⟩
    · cases h
  · cases h

/-! ## The history is an orbit -/

variable {σ σ' : System β} {l : Option (Action β)} {values : List UInt64} {n : Nat}

/-- A step that is no event leaves the opaque value of a live record. -/
theorem opaque_kept (hs : (interleaved β).step σ l σ') (he : keyEvent r ⟨σ, l, σ'⟩ = none) {rec' : RegistrationRecord}
    (hr' : σ'.runtime.registrations.lookup r = some rec') (hlive : rec'.lifecycle.isLive = true) :
    ∃ rec, σ.runtime.registrations.lookup r = some rec ∧ rec.lifecycle.isLive = true ∧
      rec'.remoteKey.opaqueValue = rec.remoteKey.opaqueValue := by
  cases liveOrigin hs hr' hlive with
  | kept rec n hr hl hrec => exact ⟨rec, hr, hl, by rw [hrec]⟩
  | rotated rec hl hr hlive' hrec =>
    rw [keyEvent_rotateKey hl hr hlive'] at he
    cases he
  | committed c p bout hl hc hid hrec =>
    rw [keyEvent_commit hl hc hid] at he
    cases he

theorem Orbit.kept (hs : (interleaved β).step σ l σ') (he : keyEvent r ⟨σ, l, σ'⟩ = none)
    (ho : Orbit r σ.runtime values n) : Orbit r σ'.runtime values n := by
  cases ho with
  | unregistered h =>
    refine .unregistered fun rec' hr' => ?_
    by_contra hlive
    rw [Bool.not_eq_false] at hlive
    obtain ⟨rec, hr, hl, -⟩ := opaque_kept hs he hr' hlive
    rw [h rec hr] at hl
    cases hl
  | registered v n h =>
    refine .registered v n fun rec' hr' hlive => ?_
    obtain ⟨rec, hr, hl, hv⟩ := opaque_kept hs he hr' hlive
    exact hv.trans (h rec hr hl)

/-- A registration begins an orbit. -/
theorem orbit_registered (hs : (interleaved β).step σ l σ') (he : keyEvent r ⟨σ, l, σ'⟩ = some .registered) :
    Orbit r σ'.runtime (opaqueValue σ'.runtime r) 0 := by
  obtain ⟨c, p, bout, rfl, hc, rfl⟩ := keyEvent_registered he
  obtain rfl : σ' = σ.exec (.registerCommit c) := hs
  have hr : (σ.exec (.registerCommit c)).runtime.registrations.lookup p.record.id =
      some (commitRecord σ.runtime.authority p bout) := committed_lookup hc
  unfold opaqueValue
  rw [hr]
  refine .registered _ 0 fun rec hrec _ => ?_
  rw [hr] at hrec
  rw [← Option.some.inj hrec]
  rfl

/-- A rotation extends it by a step. -/
theorem Orbit.rotated (hs : (interleaved β).step σ l σ') (he : keyEvent r ⟨σ, l, σ'⟩ = some .rotated)
    (ho : Orbit r σ.runtime values n) : Orbit r σ'.runtime (values ++ opaqueValue σ'.runtime r) (n + 1) := by
  obtain ⟨rfl, hok⟩ := keyEvent_rotated he
  obtain rfl : σ' = σ.exec (.atomic (.rotateKey r)) := hs
  obtain ⟨rec, hr, hlive, hput⟩ := rotateKey_ok hok
  have hr' : (σ.exec (.atomic (.rotateKey r))).runtime.registrations.lookup r = some (Rdmabuffer.rotated rec) := by
    show (σ.runtime.rotateKey r).1.registrations.lookup r = _
    rw [hput, Table.lookup_put_self]
  cases ho with
  | unregistered h =>
    rw [h rec hr] at hlive
    cases hlive
  | registered v n h =>
    have hv : (Rdmabuffer.rotated rec).remoteKey.opaqueValue = rotatedValue^[n + 1] v := by
      rw [Function.iterate_succ_apply', ← h rec hr hlive]
      rfl
    have hvalues : List.iterate rotatedValue v (n + 1) ++ opaqueValue (σ.exec (.atomic (.rotateKey r))).runtime r =
        List.iterate rotatedValue v (n + 1 + 1) := by
      rw [List.iterate_succ_append _ _ (n + 1), ← hv, opaqueValue, hr']
      rfl
    rw [hvalues]
    refine .registered v (n + 1) fun rec' hrec' _ => ?_
    rw [hr'] at hrec'
    rw [← Option.some.inj hrec', hv]

theorem orbit_run {t : List (Lts.Transition (System β) (Option (Action β)))} {σ : System β}
    (h : (interleaved β).Run t σ) (r : RegistrationId) : Orbit r σ.runtime (keyHistory r t) (rotations r t) := by
  refine h.trace_inv (I := fun t σ => Orbit r σ.runtime (keyHistory r t) (rotations r t)) (C := fun _ _ => True) ?_ ?_
    fun _ _ _ _ => trivial
  · rintro _ rfl
    exact .unregistered fun rec hr => by cases hr
  · intro t s l s' hs _ ho
    unfold keyHistory rotations at ho ⊢
    rw [List.foldl_append, List.foldl_append]
    rcases he : keyEvent r ⟨s, l, s'⟩ with _ | _ | _
    · simpa only [List.foldl_cons, List.foldl_nil, he] using ho.kept hs he
    · simpa only [List.foldl_cons, List.foldl_nil, he] using orbit_registered hs he
    · simpa only [List.foldl_cons, List.foldl_nil, he] using ho.rotated hs he

/-- The opaque values of a registration are distinct exactly if its key was rotated at most once. -/
theorem key_values_distinct_iff (t : List (Lts.Transition (System β) (Option (Action β)))) (σ : System β)
    (h : (interleaved β).Run t σ) (r : RegistrationId) : (keyHistory r t).Nodup ↔ rotations r t ≤ 1 := by
  have hinv : Function.Involutive rotatedValue := UInt64.involutive_xor _
  have hne : ∀ v, rotatedValue v ≠ v := UInt64.xor_ne_self (by decide)
  generalize keyHistory r t = values, rotations r t = n, orbit_run h r = ho
  cases ho with
  | unregistered => exact iff_of_true List.nodup_nil (Nat.zero_le 1)
  | registered v n => exact List.nodup_iterate_iff hinv hne v n

end

open Session

/-- The page is registered, and its key rotated `n` times. -/
def rotatedTimes (n : Nat) : List (Action Backend) :=
  registration 0 page ++ List.replicate n (.atomic (.rotateKey ⟨1⟩))

theorem key_values_distinct_once : ∃ t, (interleaved Backend).Run t (after (rotatedTimes 1)) ∧
    (keyHistory ⟨1⟩ t).length = 2 ∧ (keyHistory ⟨1⟩ t).Nodup := by
  have hr : (interleaved Backend).Run _ (after (rotatedTimes 1)) := ⟨{}, rfl, System.path_run _ _⟩
  exact ⟨_, hr, by decide +kernel, (key_values_distinct_iff _ _ hr ⟨1⟩).2 (by decide +kernel)⟩

/-- After two rotations the opaque value is again that of the registration. -/
theorem key_value_repeated : ∃ t v w, (interleaved Backend).Run t (after (rotatedTimes 2)) ∧ rotations ⟨1⟩ t = 2 ∧
    keyHistory ⟨1⟩ t = [v, w, v] ∧ ¬(keyHistory ⟨1⟩ t).Nodup := by
  have hr : (interleaved Backend).Run _ (after (rotatedTimes 2)) := ⟨{}, rfl, System.path_run _ _⟩
  exact ⟨_, _, _, hr, rfl, rfl, by decide +kernel⟩

end RdmaBuffer
