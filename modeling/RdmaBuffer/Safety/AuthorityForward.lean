/-
Authority over a run. Every operation but a recovery moves the coordinator epoch and the worker boot forward or
leaves them; a recovery puts the file's snapshot in force, whatever was current. Authority never runs back
exactly when no recovered file is older than the snapshot it replaces.
-/
import RdmaBuffer.Safety.Identity

namespace RdmaBuffer

open Rdmabuffer

/-! ## Earlier and later snapshots -/

/-- The epoch and the boot of the second snapshot are not behind those of the first. -/
def NotBefore (snap snap' : AuthoritySnapshot) : Prop :=
  snap.coordinatorEpoch.value ≤ snap'.coordinatorEpoch.value ∧ snap.workerBoot.value ≤ snap'.workerBoot.value
deriving Decidable

theorem NotBefore.refl (snap : AuthoritySnapshot) : NotBefore snap snap := ⟨UInt64.le_refl _, UInt64.le_refl _⟩

theorem NotBefore.trans {a b c : AuthoritySnapshot} (h : NotBefore a b) (h' : NotBefore b c) : NotBefore a c :=
  ⟨UInt64.le_trans h.1 h'.1, UInt64.le_trans h.2 h'.2⟩

/-- The envelope is rejected since a later epoch, or a later boot, is current. -/
def Superseded (snap : AuthoritySnapshot) (env : AuthorityEnvelope) : Prop :=
  (validateAuthority snap env).outcome = .rejectStaleEpoch ∧
      env.coordinatorEpoch.value < snap.coordinatorEpoch.value ∨
    (validateAuthority snap env).outcome = .rejectStaleBoot ∧ env.workerBoot.value < snap.workerBoot.value

/-- A superseded envelope is accepted under no later snapshot. -/
theorem Superseded.not_authorized {snap snap' : AuthoritySnapshot} {env : AuthorityEnvelope} (h : Superseded snap env)
    (hle : NotBefore snap snap') : ¬Authorized snap' env := by
  intro ha
  obtain ⟨he, hb⟩ := ha.incarnation
  rcases h with ⟨-, hlt⟩ | ⟨-, hlt⟩
  · rw [he] at hlt
    exact UInt64.lt_irrefl _ (UInt64.lt_of_le_of_lt hle.1 hlt)
  · rw [hb] at hlt
    exact UInt64.lt_irrefl _ (UInt64.lt_of_le_of_lt hle.2 hlt)

/-! ## One step -/

section

variable {β : Type} [Environment β]

def setsAuthority : Option (Action β) → Bool
  | some (.atomic (.setAuthority _)) => true
  | _ => false

/-- The step counts the epoch, or the boot, past 64 bits. -/
def wrapsAuthority (s : Rdmabuffer β) : Option (Action β) → Bool
  | some (.atomic .advanceEpoch) => s.authority.coordinatorEpoch.value + 1 == 0
  | some (.atomic .noteParticipantRestart) =>
    s.authority.coordinatorEpoch.value + 1 == 0 || s.authority.workerBoot.value + 1 == 0
  | _ => false

/-- The step recovers a file whose epoch or boot is behind the current one. -/
def turnsBack (s : Rdmabuffer β) : Option (Action β) → Bool
  | some (.atomic op) => op.restores.any fun state => !decide (NotBefore s.authority state.authoritySnapshot)
  | _ => false

variable [IBackend β]

omit [IBackend β] in
/-- Without a recovery the snapshot only moves forward. -/
theorem notBefore_snapshot (s : Rdmabuffer β) (op : AtomicOp β) (hset : setsAuthority (some (.atomic op)) = false)
    (hwrap : wrapsAuthority s (some (.atomic op)) = false) : NotBefore s.authority (op.snapshot s) := by
  have hsucc : ∀ v : UInt64, v + 1 ≠ 0 → v ≤ v + 1 := by
    intro v hv
    rw [UInt64.le_iff_toNat_le, UInt64.toNat_succ hv]
    omega
  cases op with
  | setAuthority snap => cases hset
  | advanceEpoch =>
    simp only [wrapsAuthority, beq_eq_false_iff_ne] at hwrap
    exact ⟨hsucc _ hwrap, UInt64.le_refl _⟩
  | noteParticipantRestart =>
    simp only [wrapsAuthority, Bool.or_eq_false_iff, beq_eq_false_iff_ne] at hwrap
    exact ⟨hsucc _ hwrap.1, hsucc _ hwrap.2⟩
  | _ => exact .refl _

/-- A step moves the authority forward exactly when it does not recover an older file. -/
theorem notBefore_step_iff {σ σ' : System β} {l : Option (Action β)} (h : (interleaved β).step σ l σ')
    (hset : setsAuthority l = false) (hwrap : wrapsAuthority σ.runtime l = false) :
    NotBefore σ.runtime.authority σ'.runtime.authority ↔ turnsBack σ.runtime l = false := by
  rw [step_authority h]
  match l with
  | some (.atomic op) =>
    show NotBefore _ (op.nextAuthority σ.runtime) ↔ _
    unfold AtomicOp.nextAuthority
    rcases hr : op.restores with _ | state
    · simp only [turnsBack, hr, Option.any_none, iff_true]
      exact notBefore_snapshot σ.runtime op hset hwrap
    · simp [turnsBack, hr]
  | none | some (.registerBegin ..) | some (.registerCall ..) | some (.registerCommit ..) | some (.deregisterBegin ..)
  | some (.deregisterCall ..) | some (.deregisterFinish ..) => exact iff_of_true (.refl _) rfl

/-! ## The run -/

/-- The authority of a run never goes back, and what it superseded is not accepted again. -/
structure NeverBack (t : List (Lts.Transition (System β) (Option (Action β)))) : Prop where
  forward : ∀ x ∈ t, NotBefore x.pre.runtime.authority x.post.runtime.authority
  superseded : ∀ t₁ x t₂, t = t₁ ++ x :: t₂ → ∀ env, Superseded x.pre.runtime.authority env →
    ∀ y ∈ x :: t₂, ¬Authorized y.post.runtime.authority env

theorem notBefore_path {σ σ' : System β} {t : List (Lts.Transition (System β) (Option (Action β)))}
    (h : (interleaved β).Path σ t σ') (hf : ∀ x ∈ t, NotBefore x.pre.runtime.authority x.post.runtime.authority) :
    NotBefore σ.runtime.authority σ'.runtime.authority :=
  h.inv_of (I := fun u => NotBefore σ.runtime.authority u.runtime.authority)
    (C := fun x => NotBefore x.pre.runtime.authority x.post.runtime.authority)
    (fun _ _ _ _ hc hi => hi.trans hc) hf (.refl _)

/-- Where every step moves forward, no superseded envelope is accepted again. -/
theorem neverBack_of_forward {σ σ' : System β} {t : List (Lts.Transition (System β) (Option (Action β)))}
    (h : (interleaved β).Path σ t σ') (hf : ∀ x ∈ t, NotBefore x.pre.runtime.authority x.post.runtime.authority) :
    NeverBack t := by
  refine ⟨hf, ?_⟩
  rintro t₁ x t₂ rfl env hs y hy
  obtain ⟨u, -, hpath⟩ := h.split t₁ (x :: t₂) rfl
  obtain ⟨rfl, -, -⟩ := hpath.head
  obtain ⟨t₃, hpre, hp⟩ := hpath.upto hy
  apply hs.not_authorized
  apply notBefore_path hp
  intro z hz
  exact hf z (List.mem_append_right t₁ (hpre.subset hz))

/-- In a run without set_authority in which epoch and boot do not wrap, the authority never runs back exactly
when no recovered file is older than the snapshot in force. -/
theorem authority_forward_iff (t : List (Lts.Transition (System β) (Option (Action β)))) (σ σ' : System β)
    (h : (interleaved β).Path σ t σ') (hset : ∀ x ∈ t, setsAuthority x.label = false)
    (hwrap : ∀ x ∈ t, wrapsAuthority x.pre.runtime x.label = false) :
    NeverBack t ↔ ∀ x ∈ t, turnsBack x.pre.runtime x.label = false := by
  have hstep : ∀ x ∈ t, (NotBefore x.pre.runtime.authority x.post.runtime.authority ↔
      turnsBack x.pre.runtime x.label = false) := by
    intro x hx
    have hs := h.step_mem hx
    exact notBefore_step_iff hs (hset x hx) (hwrap x hx)
  constructor
  · intro hn x hx
    exact (hstep x hx).1 (hn.forward x hx)
  · intro hc
    apply neverBack_of_forward h
    intro x hx
    exact (hstep x hx).2 (hc x hx)

end

open Session

/-- The epoch advances and the file of the session, which is of the epoch before, is recovered. -/
def turnedBack : List (Action Backend) := [.atomic .advanceEpoch, .atomic (.recover (some file))]

theorem run_turnedBack (σ : System Backend) : (σ.run turnedBack).runtime.authority = snapshot := by
  show ((AtomicOp.recover (some file)).run (σ.exec (.atomic .advanceEpoch)).runtime).authority = snapshot
  rw [run_authority, AtomicOp.nextAuthority, AtomicOp.restores, parse_file]
  rfl

/-- The epoch advances twice, and a participant restarts. -/
def advances : List (Action Backend) :=
  [.atomic .advanceEpoch, .registerBegin 0 page synthetic ⟨1⟩ envelope, .atomic .noteParticipantRestart,
    .atomic .advanceEpoch]

theorem authority_forward_iff_advances : ∃ t σ, (interleaved Backend).Path (after []) t σ ∧
    t.length = 4 ∧ NeverBack t := by
  have hp := (after []).path_run advances
  refine ⟨_, _, hp, rfl, ?_⟩
  exact (authority_forward_iff _ _ _ hp (by decide) (by decide)).2 (by decide)

/-- An envelope of the first epoch is rejected as stale after the epoch advanced, and accepted again after the
recovery. -/
theorem authority_turned_back : ∃ t σ, (interleaved Backend).Path (after []) t σ ∧
    (∀ x ∈ t, setsAuthority x.label = false) ∧ (∀ x ∈ t, wrapsAuthority x.pre.runtime x.label = false) ∧ ¬NeverBack t ∧
    (∃ x ∈ t, Superseded x.pre.runtime.authority envelope) ∧ Authorized σ.runtime.authority envelope := by
  have hp := (after []).path_run turnedBack
  have hw : wrapsAuthority (after []).runtime (some (.atomic .advanceEpoch)) = false := by decide
  have hs : Superseded ((after []).exec (.atomic .advanceEpoch)).runtime.authority envelope :=
    .inl ⟨by decide, by decide⟩
  have ha : Authorized ((after []).run turnedBack).runtime.authority envelope := by
    rw [run_turnedBack]
    decide
  refine ⟨_, _, hp, ?_, ?_, ?_, ⟨_, List.mem_cons_of_mem _ (List.mem_singleton_self _), hs⟩, ha⟩
  · exact List.forall_mem_cons.2 ⟨rfl, List.forall_mem_singleton.2 rfl⟩
  · exact List.forall_mem_cons.2 ⟨hw, List.forall_mem_singleton.2 rfl⟩
  · intro h
    exact h.superseded _ _ _ (List.singleton_append ..).symm envelope hs _ (List.mem_singleton_self _) ha

end RdmaBuffer
