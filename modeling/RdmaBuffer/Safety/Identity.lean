/-
Registration identities across a restart. A recovery takes over the ids of the file and leaves the
counter that issues ids where it was: ids are issued once as long as every recovered id was already
passed by the counter and is not in flight.
-/
import RdmaBuffer.Persistence.RoundTrip
import RdmaBuffer.Runtime.Execution
import RdmaBuffer.Runtime.Lifespan

namespace RdmaBuffer

open Rdmabuffer

section

variable {β : Type} [IBackend β] [Environment β]

/-- The step recovers a registration whose id the runtime may still issue or commit. -/
def Reissuable (σ : System β) (l : Option (Action β)) : Prop :=
  ∃ bytes state, l = some (.atomic (.recover (some bytes))) ∧ Persistence.parse bytes = .ok state ∧
    ∃ rec ∈ state.registrations, σ.runtime.nextRegistration.toNat ≤ rec.id.value.toNat ∨
      ∃ c p, σ.HasPending c p ∧ p.record.id = rec.id

/-- The step keeps the ids of the table below a counter that does not wrap. -/
def KeepsIdsBelow (x : Lts.Transition (System β) (Option (Action β))) : Prop :=
  ¬Reissuable x.pre x.label ∧ x.post.runtime.nextRegistration ≠ 0

omit [IBackend β] in
/-- A registration that may be recovered is settled. -/
theorem settled_recovered {σ : System β} {bytes : Bytes} {state : PersistableState}
    (hk : ¬Reissuable σ (some (.atomic (.recover (some bytes))))) (hp : Persistence.parse bytes = .ok state)
    {rec : RegistrationRecord} (hm : rec ∈ state.registrations) : Settled σ rec.id := by
  refine ⟨?_, fun c p hc he => hk ⟨bytes, state, rfl, hp, rec, hm, .inr ⟨c, p, hc, he⟩⟩⟩
  by_contra hle
  exact hk ⟨bytes, state, rfl, hp, rec, hm, .inl (not_lt.1 hle)⟩

/-- The ids of the table were drawn from the counter, and no registration in flight carries one. -/
structure IssuedOnce (σ : System β) : Prop where
  ids : InFlightIds σ
  drawn : ∀ r rec, σ.runtime.registrations.lookup r = some rec →
    r.value.toNat < σ.runtime.nextRegistration.toNat
  free : ∀ c p, σ.HasPending c p → σ.runtime.registrations.lookup p.record.id = none

theorem issuedOnce_drawn {σ σ' : System β} {l : Option (Action β)} (h : (interleaved β).step σ l σ')
    (hk : KeepsIdsBelow ⟨σ, l, σ'⟩) (hi : IssuedOnce σ) {r : RegistrationId} {rec' : RegistrationRecord}
    (hr' : σ'.runtime.registrations.lookup r = some rec') :
    r.value.toNat < σ'.runtime.nextRegistration.toNat := by
  refine lt_of_lt_of_le ?_ (nextRegistration_le h hk.2)
  have hs := recordStep h r
  rw [hr'] at hs
  generalize ho : σ.runtime.registrations.lookup r = o at hs
  cases hs with
  | recovered bytes state rec o hl hp hm hid =>
    subst hl hid
    exact (settled_recovered hk.1 hp hm).drawn
  | committed c p bout o hl hc hid => exact hid ▸ hi.ids.drawn c p (.inr ⟨bout, hc⟩)
  | keep | leases | destroyed | reallocated | hardRevoked | softRevoked | rotated | deregistering | failed =>
    exact hi.drawn r _ ho

/-- The commit of another client leaves the id of a registration in flight free. -/
theorem issuedOnce_free {σ σ' : System β} {l : Option (Action β)} (h : (interleaved β).step σ l σ')
    (hk : KeepsIdsBelow ⟨σ, l, σ'⟩) (hi : IssuedOnce σ) {c : Nat} {p : PendingRegistration}
    (hp' : σ'.HasPending c p) : σ'.runtime.registrations.lookup p.record.id = none := by
  have hold : σ.runtime.registrations.lookup p.record.id = none := by
    rcases hasPending_step h hp' with hp | ⟨descriptor, backend, domain, env, b, -, -, rfl⟩
    · exact hi.free c p hp
    · by_contra hne
      obtain ⟨rec, hr⟩ := Option.ne_none_iff_exists'.1 hne
      exact absurd (hi.drawn _ rec hr) (lt_irrefl _)
  -- so the step would have to fill the free place
  have hs := recordStep h p.record.id
  rw [hold] at hs
  generalize σ'.runtime.registrations.lookup p.record.id = o' at hs
  cases hs with
  | keep => rfl
  | recovered bytes state rec o hl hp hm hid =>
    subst hl
    -- no file brings an id that is in flight
    have hset := settled_recovered hk.1 hp hm
    rcases hasPending_step h hp' with hp | ⟨_, _, _, _, _, hl, -⟩
    · exact absurd hid.symm (hset.landed c p hp)
    · cases hl
  | committed c' p' bout o hl hc hid =>
    subst hl
    rcases hasPending_step h hp' with hp | ⟨_, _, _, _, _, hl, -⟩
    · -- two clients never carry one id, and the one that commits carries it no longer
      obtain rfl : c' = c := hi.ids.distinct c' c p' p (.inr ⟨bout, hc⟩) hp hid
      obtain rfl : σ' = σ.exec (.registerCommit c') := h
      rw [exec_registerCommit hc] at hp'
      rcases hasPending_move hp' with ⟨hne, -⟩ | ⟨-, hf | ⟨bout', hf⟩⟩
      · exact absurd rfl hne
      · cases hf
      · cases hf
    · cases hl

theorem issuedOnce_step {σ σ' : System β} {l : Option (Action β)} (h : (interleaved β).step σ l σ')
    (hk : KeepsIdsBelow ⟨σ, l, σ'⟩) (hi : IssuedOnce σ) : IssuedOnce σ' where
  ids := inFlightIds_step h hk.2 hi.ids
  drawn _ _ hr' := issuedOnce_drawn h hk hi hr'
  free _ _ hp' := issuedOnce_free h hk hi hp'

theorem issuedOnce_run {t : List (Lts.Transition (System β) (Option (Action β)))} {σ : System β}
    (h : (interleaved β).Run t σ) (hk : ∀ x ∈ t, KeepsIdsBelow x) : IssuedOnce σ := by
  refine h.inv_of (I := IssuedOnce) (C := KeepsIdsBelow) ?_ (fun _ _ _ hs hk hi => issuedOnce_step hs hk hi) hk
  rintro _ rfl
  have hids : InFlightIds ({} : System β) := inFlightIds_run (.nil rfl) (by simp)
  exact ⟨hids, fun r rec hr => (by cases hr), fun c p hp => rfl⟩

/-- A recovery leaves every registration of its file dead. -/
theorem dead_recovered {σ : System β} {bytes : Bytes} {state : PersistableState}
    (hk : ¬Reissuable σ (some (.atomic (.recover (some bytes))))) (hp : Persistence.parse bytes = .ok state)
    {rec : RegistrationRecord} (hm : rec ∈ state.registrations) :
    Dead rec.id (σ.exec (.atomic (.recover (some bytes)))) := by
  have hrun : (AtomicOp.recover (some bytes)).run σ.runtime = (restore σ.runtime state).1 := by
    rw [AtomicOp.run, recover_of_parse _ hp]
  have hset := settled_recovered hk hp hm
  simp only [System.exec, hrun]
  have hres := restore_spec σ.runtime state
  refine ⟨⟨?_, hset.landed⟩, ?_⟩
  · show _ < (restore σ.runtime state).1.nextRegistration.toNat
    rw [hres.nextRegistration]
    exact hset.drawn
  · rcases hres.registration rec.id with ⟨hne, -⟩ | ⟨rec', -, -, hlk⟩
    · exact absurd rfl (hne rec hm)
    · show life ((restore σ.runtime state).1.registrations.lookup rec.id) = ⊤
      rw [hlk]
      exact life_of_not_valid (by simp [recoveredRecord])

/-- In every run in which no recovery brings an id that may still be issued, and in which the id
counter does not wrap, every registration is committed under an id that is not in the table, and
after a recovery no request that names a registration of its file is allowed. -/
theorem ids_issued_once (t : List (Lts.Transition (System β) (Option (Action β)))) (σ : System β)
    (h : (interleaved β).Run t σ) (hk : ∀ x ∈ t, KeepsIdsBelow x) :
    (∀ x ∈ t, ∀ c p bout, x.label = some (.registerCommit c) → x.pre.clients c = some (.registered p bout) →
      (x.pre.runtime.registerCommit p bout).2.ok = true ∧
      x.pre.runtime.registrations.lookup (x.pre.runtime.registerCommit p bout).2.registration = none) ∧
    ∀ t₁ x t₂, t = t₁ ++ x :: t₂ → ∀ bytes state, x.label = some (.atomic (.recover (some bytes))) →
      Persistence.parse bytes = .ok state → ∀ rec ∈ state.registrations, ∀ q, q.sourceRegistration = rec.id →
        (σ.runtime.validateRemoteAccess q).2.outcome ≠ .allow := by
  refine ⟨fun x hx c p bout hl hc => ?_, ?_⟩
  · obtain ⟨t₁, t₂, rfl, h₁, -, -⟩ := h.at_mem hx
    have hi : IssuedOnce x.pre := issuedOnce_run h₁ fun y hy => hk y (by simp [hy])
    exact ⟨rfl, hi.free c p (.inr ⟨bout, hc⟩)⟩
  · rintro t₁ x t₂ rfl bytes state hl hp rec hm q hq
    obtain ⟨s₀, h₀, hpath⟩ := h
    obtain ⟨u, -, hpath⟩ := hpath.split t₁ (x :: t₂) rfl
    obtain ⟨rfl, hs, hpath⟩ := hpath.head
    -- the recovered ids are dead from the recovery on
    have hx : ¬Reissuable x.pre x.label := (hk x (by simp)).1
    rw [hl] at hs hx
    have hpost : x.post = x.pre.exec (.atomic (.recover (some bytes))) := hs
    have hd : Dead rec.id x.post := hpost ▸ dead_recovered hx hp hm
    exact (dead_path hpath (fun y hy => (hk y (by simp [hy])).2) hd).not_allowed hq

end

open Session

/-- What a session saves after one registration. -/
def saved : PersistableState :=
  { buffers := [page]
    registrations := (after (registration 0 page)).runtime.registrations.entries.map fun e => e.2
    domains := [⟨1⟩]
    authoritySnapshot := snapshot }

/-- The file of that session. -/
def file : Bytes := Persistence.serialize saved

/-- A request captured before the restart. -/
def captured : RemoteAccessRequest :=
  { write ⟨1⟩ with expectedRegistrationGeneration := ⟨1⟩, expectedRemoteKeyGeneration := ⟨1⟩ }

theorem parse_file : Persistence.parse file = .ok (Persistence.persisted saved) := by
  have hrecords : ∀ rec ∈ saved.registrations,
      rec.backendHandle.length < 2 ^ 64 ∧ rec.invalidationReason.length < 2 ^ 64 := by
    decide
  have hsized : Persistence.Sized saved := by
    constructor
    case records => exact fun rec hr => ⟨(hrecords rec hr).1, (hrecords rec hr).2⟩
    case revocations | backends => exact fun _ h => absurd h List.not_mem_nil
    all_goals decide
  have hintact : Persistence.Intact saved := by constructor <;> decide
  exact (Persistence.parse_serialize hsized).2 ⟨rfl, by decide, hintact⟩

theorem file_parses : ∃ state, Persistence.parse file = .ok state ∧
    state.registrations.map (fun rec => rec.id) = [⟨1⟩] :=
  ⟨_, parse_file, by decide⟩

def isRecovery : Option (Action Backend) → Bool
  | some (.atomic (.recover _)) => true
  | _ => false

theorem keepsIdsBelow_of_not_recovery {x : Lts.Transition (System Backend) (Option (Action Backend))}
    (h : isRecovery x.label = false ∧ x.post.runtime.nextRegistration ≠ 0) : KeepsIdsBelow x := by
  refine ⟨?_, h.2⟩
  rintro ⟨bytes, state, hl, -⟩
  rw [hl] at h
  cases h.1

/-- A runtime that has issued id 1 may recover the file. -/
theorem keepsIdsBelow_recover :
    KeepsIdsBelow ⟨after (registration 0 page), some (.atomic (.recover (some file))),
      (after (registration 0 page)).exec (.atomic (.recover (some file)))⟩ := by
  have hnext : (after (registration 0 page)).runtime.nextRegistration = 2 := by decide
  refine ⟨?_, ?_⟩
  · rintro ⟨bytes, state, hl, hp, rec, hm, hr⟩
    cases hl
    obtain ⟨state', hp', hids⟩ := file_parses
    obtain rfl : state = state' := Except.ok.inj (hp.symm.trans hp')
    have hid : rec.id = ⟨1⟩ := by
      have := List.mem_map_of_mem (f := fun rec : RegistrationRecord => rec.id) hm
      rwa [hids, List.mem_singleton] at this
    rcases hr with hr | ⟨c, p, hc, -⟩
    · rw [hnext, hid] at hr
      exact absurd hr (by decide)
    · have hidle : (after (registration 0 page)).clients c = none := by cases c <;> rfl
      rcases hc with hc | ⟨bout, hc⟩
      · rw [hidle] at hc; cases hc
      · rw [hidle] at hc; cases hc
  · have := effect_nextRegistration
      ((AtomicOp.recover (β := Backend) (some file)).effect (after (registration 0 page)).runtime)
    show ((AtomicOp.recover (some file)).run (after (registration 0 page)).runtime).nextRegistration ≠ 0
    rw [this, hnext]
    decide

/-- A runtime recovers the file of its own session. -/
theorem ids_issued_once_renewed :
    ∃ t σ, (interleaved Backend).Run t σ ∧ (∀ x ∈ t, KeepsIdsBelow x) ∧
      (σ.runtime.validateRemoteAccess captured).2.outcome ≠ .allow := by
  let t₁ := System.trace {} (setup.map .atomic ++ registration 0 page)
  let σ := after (registration 0 page)
  let x : Lts.Transition (System Backend) (Option (Action Backend)) :=
    ⟨σ, some (.atomic (.recover (some file))), σ.exec (.atomic (.recover (some file)))⟩
  have hrun : (interleaved Backend).Run (t₁ ++ [x]) x.post := ⟨{}, rfl, (System.path_run _ _).snoc rfl⟩
  have ht : ∀ y ∈ t₁, isRecovery y.label = false ∧ y.post.runtime.nextRegistration ≠ 0 := by decide
  have hk : ∀ y ∈ t₁ ++ [x], KeepsIdsBelow y := by
    intro y hy
    rcases List.mem_append.1 hy with hy | hy
    · exact keepsIdsBelow_of_not_recovery (ht y hy)
    · exact List.mem_singleton.1 hy ▸ keepsIdsBelow_recover
  obtain ⟨state, hp, hids⟩ := file_parses
  obtain ⟨rec, hm, hid⟩ : ∃ rec ∈ state.registrations, rec.id = ⟨1⟩ :=
    List.mem_map.1 (hids ▸ List.mem_singleton_self _)
  exact ⟨_, _, hrun, hk, (ids_issued_once _ _ hrun hk).2 t₁ x [] rfl file state rfl hp rec hm captured hid.symm⟩

/-- A fresh runtime that recovers the file and begins to register the recovered page again. -/
def restarted : List (Action Backend) :=
  [.atomic (.recover (some file)), .atomic (.addBackend (some (.synthetic 0x52444D41))),
    .registerBegin 0 page synthetic ⟨1⟩ envelope, .registerCall 0]

/-- The commit of client 0 overwrites a record, and the request is allowed after it. -/
def reissues (σ : System Backend) (q : RemoteAccessRequest) : Bool :=
  match σ.clients 0 with
  | some (.registered p _) =>
    (σ.runtime.registrations.lookup p.record.id).isSome &&
      ((σ.exec (.registerCommit 0)).runtime.validateRemoteAccess q).2.outcome == .allow
  | _ => false

/-- A run that begins with the recovery of a file that is accepted. -/
theorem run_recover (s : Rdmabuffer Backend) {bytes : Bytes} {state : PersistableState}
    (hp : Persistence.parse bytes = .ok state) (as : List (Action Backend)) :
    System.run (idle s) (.atomic (.recover (some bytes)) :: as) = System.run (idle (restore s state).1) as := by
  show System.run (idle (recover s (some bytes)).1) as = _
  rw [recover_of_parse s hp]

theorem restarted_reissues : reissues (System.run {} restarted) captured = true := by
  -- the parse is known, so the file's checksum is not computed again
  have h : System.run {} restarted = _ := run_recover {} parse_file _
  rw [h]
  decide +kernel

theorem reissues_eq_true {σ : System Backend} {q : RemoteAccessRequest} (h : reissues σ q = true) :
    ∃ p bout, σ.clients 0 = some (.registered p bout) ∧
      (σ.runtime.registrations.lookup p.record.id).isSome = true ∧
      ((σ.exec (.registerCommit 0)).runtime.validateRemoteAccess q).2.outcome = .allow := by
  unfold reissues at h
  split at h
  · rename_i p bout hc
    simp only [Bool.and_eq_true, beq_iff_eq] at h
    exact ⟨p, bout, hc, h.1, h.2⟩
  · cases h

theorem run_restarted : ∃ t, (interleaved Backend).Run t (System.run {} restarted) :=
  ⟨_, {}, rfl, System.path_run _ _⟩

/-- A fresh runtime recovers id 1 and issues it again, and a request captured before the restart is
allowed. -/
theorem reissued_after_recovery :
    ∃ t σ p bout, (interleaved Backend).Run t σ ∧ σ.clients 0 = some (.registered p bout) ∧
      (σ.runtime.registrations.lookup p.record.id).isSome = true ∧
      ((σ.exec (.registerCommit 0)).runtime.validateRemoteAccess captured).2.outcome = .allow := by
  obtain ⟨t, hr⟩ := run_restarted
  obtain ⟨p, bout, h⟩ := reissues_eq_true restarted_reissues
  exact ⟨t, _, p, bout, hr, h⟩

end RdmaBuffer
