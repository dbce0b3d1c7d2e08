/-
How the verdicts of the access check are counted. A verdict is counted exactly when it is not the authority's own: the
authority's rejection is returned as it is, past the counters, so that a run counts its rejected calls exactly when
the authority decided none of them.
-/
import RdmaBuffer.Registry.Access
import RdmaBuffer.Runtime.Execution
import RdmaBuffer.Runtime.Tallies

namespace RdmaBuffer

open Rdmabuffer Lts

/-! ## One call -/

/-- The accounting in which the verdict `o` on the request is counted once. -/
def tally (q : RemoteAccessRequest) (o : AccessOutcome) (a : Accounting) : Accounting :=
  if o = .allow then
    match q.kind with
    | .write => { a with remoteWriteBytes := a.remoteWriteBytes.increment q.length }
    | .read => { a with remoteReadBytes := a.remoteReadBytes.increment q.length }
    | .atomicCompareSwap => { a with atomicOperations := a.atomicOperations.increment }
  else
    { a with
      failedAccessAttempts := a.failedAccessAttempts.increment
      staleAccessRejections := if isStale o then a.staleAccessRejections.increment else a.staleAccessRejections }

/-- The call of the access check counts its verdict once. -/
def CountedOnce {β : Type} [IBackend β] (s : Rdmabuffer β) (q : RemoteAccessRequest) : Prop :=
  (s.validateRemoteAccess q).1.acct = tally q (s.validateRemoteAccess q).2.outcome s.acct

/-- The lifecycles the access check rejects. -/
def accessBarred : RegistrationLifecycle → Bool
  | .revoked | .deregistered | .stale | .revoking => true
  | _ => false

/-- The request gets as far as the authority's check, and fails it. -/
def authorityDecides {β : Type} (s : Rdmabuffer β) (q : RemoteAccessRequest) : Bool :=
  (s.registrations.lookup q.sourceRegistration).any fun rec =>
    !accessBarred rec.lifecycle && rec.freshness == .valid &&
      (validateAuthority s.authority q.authority).outcome != .allow

section

variable {β : Type} [IBackend β]

omit [IBackend β] in
theorem decision_tally (s : Rdmabuffer β) (q : RemoteAccessRequest) {o : AccessOutcome} (ho : o ≠ .allow)
    (e : StdString) : (s.decision o e).1.acct = tally q (s.decision o e).2.outcome s.acct := by
  rw [decision_outcome, decision, tally, if_neg ho, if_neg ho]

omit [IBackend β] in
theorem ite_tally {a : Accounting} {q : RemoteAccessRequest} {c : Prop} [Decidable c]
    {x y : Rdmabuffer β × AccessDecision} (hx : c → x.1.acct = tally q x.2.outcome a)
    (hy : ¬c → y.1.acct = tally q y.2.outcome a) :
    (if c then x else y).1.acct = tally q (if c then x else y).2.outcome a := by
  split
  · exact hx ‹_›
  · exact hy ‹_›

theorem tally_allow (q : RemoteAccessRequest) (a : Accounting) : tally q .allow a = observe a q.kind q.length := by
  rw [tally, if_pos rfl]
  cases q.kind <;> rfl

theorem failed_tally {q : RemoteAccessRequest} {o : AccessOutcome} (a : Accounting) :
    (tally q o a).failedAccessAttempts =
      if o = .allow then a.failedAccessAttempts else a.failedAccessAttempts.increment := by
  unfold tally
  split
  · cases q.kind <;> rfl
  · rfl

/-- Past the authority every verdict is counted, the backend's included. -/
theorem countedOnce_of_not {s : Rdmabuffer β} {q : RemoteAccessRequest} (h : authorityDecides s q = false) :
    CountedOnce s q := by
  have hd : ∀ o e, o ≠ .allow → (s.decision o e).1.acct = tally q (s.decision o e).2.outcome s.acct :=
    fun o e ho => decision_tally s q ho e
  unfold CountedOnce validateRemoteAccess
  unfold authorityDecides at h
  rcases hr : s.registrations.lookup q.sourceRegistration with _ | rec
  · exact hd _ _ (by decide)
  · refine ite_tally (fun _ => hd _ _ (by decide)) fun hl => ite_tally (fun _ => hd _ _ (by decide)) fun hl' => ?_
    refine ite_tally (fun _ => hd _ _ (by decide)) fun hf => ?_
    have ha : (validateAuthority s.authority q.authority).outcome = .allow := by
      have hbar : accessBarred rec.lifecycle = false := by
        unfold accessBarred
        split <;> simp_all
      rw [ne_eq, not_not] at hf
      simpa [hr, hbar, hf] using h
    rw [if_neg (not_not_intro ha)]
    refine ite_tally (fun _ => hd _ _ (by decide)) fun _ => ite_tally (fun _ => hd _ _ (by decide)) fun _ => ?_
    refine ite_tally (fun _ => hd _ _ (by decide)) fun _ => ite_tally (fun _ => hd _ _ (by decide)) fun _ => ?_
    refine ite_tally (fun _ => hd _ _ (by decide)) fun _ => ?_
    rcases hb : s.backends.lookup rec.backend with _ | b
    · exact hd _ _ (by decide)
    · refine ite_tally (fun _ => hd _ _ (by decide)) fun _ => ite_tally (fun _ => hd _ _ (by decide)) fun _ => ?_
      refine ite_tally (fun _ => hd _ _ (by decide)) fun _ => ite_tally (fun _ => hd _ _ (by decide)) fun _ => ?_
      refine ite_tally (fun _ => hd _ _ (by decide)) fun _ => ite_tally (fun _ => hd _ _ (by decide)) fun _ => ?_
      refine ite_tally (fun _ => hd _ _ (by decide)) fun _ => ?_
      exact ite_tally (fun ho => decision_tally _ q ho _) fun _ => (tally_allow q s.acct).symm

/-- The authority's rejection changes nothing. -/
theorem validateRemoteAccess_authority {s : Rdmabuffer β} {q : RemoteAccessRequest} (h : authorityDecides s q = true) :
    s.validateRemoteAccess q = (s, validateAuthority s.authority q.authority) ∧
      (validateAuthority s.authority q.authority).outcome ≠ .allow := by
  unfold authorityDecides at h
  obtain ⟨rec, hr, hrec⟩ := Option.any_eq_true .. |>.1 h
  simp only [Bool.and_eq_true, Bool.not_eq_true', beq_iff_eq, bne_iff_ne] at hrec
  obtain ⟨⟨hbar, hf⟩, ha⟩ := hrec
  refine ⟨?_, ha⟩
  have hl : ¬(rec.lifecycle = .revoked ∨ rec.lifecycle = .deregistered ∨ rec.lifecycle = .stale) := by
    rintro (h | h | h) <;> simp [h, accessBarred] at hbar
  have hl' : rec.lifecycle ≠ .revoking := by
    intro h
    simp [h, accessBarred] at hbar
  unfold validateRemoteAccess
  simp only [hr]
  rw [if_neg hl, if_neg hl', if_neg (not_not_intro hf), if_pos ha]

/-- A call counts its verdict exactly when the authority does not decide it. -/
theorem countedOnce_iff (s : Rdmabuffer β) (q : RemoteAccessRequest) :
    CountedOnce s q ↔ authorityDecides s q = false := by
  refine ⟨fun hc => ?_, countedOnce_of_not⟩
  rw [← Bool.not_eq_true]
  intro h
  obtain ⟨hv, ho⟩ := validateRemoteAccess_authority h
  unfold CountedOnce at hc
  rw [hv] at hc
  -- the counter would be its own successor
  have hfailed := congrArg (·.failedAccessAttempts.value) hc
  simp only [failed_tally, if_neg ho, Counter.increment] at hfailed
  have hn := congrArg UInt64.toNat hfailed
  rw [UInt64.toNat_add, UInt64.toNat_one] at hn
  have hlt := s.acct.failedAccessAttempts.value.toNat_lt
  omega

end

/-! ## The counter along a run -/

section

variable {β : Type} [IBackend β] [Environment β]

/-- No other operation touches the counter of failed attempts. -/
theorem failed_run (s : Rdmabuffer β) {op : AtomicOp β} (h : ∀ q, op ≠ .validateRemoteAccess q) :
    (op.run s).acct.failedAccessAttempts = s.acct.failedAccessAttempts := by
  have ht := op.tallied s
  generalize hs : (op.run s).acct.tallies = a at ht
  have hfailed : (op.run s).acct.failedAccessAttempts = a.failedAccessAttempts := hs ▸ rfl
  rw [hfailed]
  cases ht with
  | observed q => exact absurd rfl (h q)
  | _ => rfl

/-- The transition is a call of the access check that the given test hits. -/
def validates (hit : Rdmabuffer β → RemoteAccessRequest → Bool) :
    Transition (System β) (Option (Action β)) → Bool
  | ⟨σ, some (.atomic (.validateRemoteAccess q)), _⟩ => hit σ.runtime q
  | _ => false

/-- The call is rejected. -/
def rejected (s : Rdmabuffer β) (q : RemoteAccessRequest) : Bool := (s.validateRemoteAccess q).2.outcome != .allow

/-- How many calls of the access check were rejected. -/
def rejections (t : List (Transition (System β) (Option (Action β)))) : Nat := t.countP (validates rejected)

/-- How many calls of the access check the authority decided. -/
def authorityRejections (t : List (Transition (System β) (Option (Action β)))) : Nat :=
  t.countP (validates authorityDecides)

/-- What a step does to the counter: nothing when no call is rejected or the authority rejects it, else one more. -/
inductive FailedStep (x : Transition (System β) (Option (Action β))) : Prop
  | quiet (hr : validates rejected x = false) (ha : validates authorityDecides x = false)
      (hf : x.post.runtime.acct.failedAccessAttempts = x.pre.runtime.acct.failedAccessAttempts)
  | uncounted (hr : validates rejected x = true) (ha : validates authorityDecides x = true)
      (hf : x.post.runtime.acct.failedAccessAttempts = x.pre.runtime.acct.failedAccessAttempts)
  | counted (hr : validates rejected x = true) (ha : validates authorityDecides x = false)
      (hf : x.post.runtime.acct.failedAccessAttempts = x.pre.runtime.acct.failedAccessAttempts.increment)

theorem failed_validate (σ : System β) (q : RemoteAccessRequest) :
    FailedStep ⟨σ, some (.atomic (.validateRemoteAccess q)), σ.exec (.atomic (.validateRemoteAccess q))⟩ := by
  rcases ha : authorityDecides σ.runtime q with _ | _
  · have hc : (σ.runtime.validateRemoteAccess q).1.acct.failedAccessAttempts = _ :=
      (congrArg _ ((countedOnce_iff σ.runtime q).2 ha)).trans (failed_tally _)
    by_cases ho : (σ.runtime.validateRemoteAccess q).2.outcome = .allow
    · exact .quiet (by simp [validates, rejected, ho]) ha (hc.trans (if_pos ho))
    · exact .counted (by simp [validates, rejected, ho]) ha (hc.trans (if_neg ho))
  · obtain ⟨hv, ho⟩ := validateRemoteAccess_authority ha
    refine .uncounted (by simp [validates, rejected, hv, ho]) ha ?_
    show (σ.runtime.validateRemoteAccess q).1.acct.failedAccessAttempts = _
    rw [hv]

theorem failed_step {σ σ' : System β} {l : Option (Action β)} (h : (interleaved β).step σ l σ') :
    FailedStep ⟨σ, l, σ'⟩ := by
  cases l with
  | none => exact .quiet rfl rfl (congrArg (·.acct.failedAccessAttempts) h.1.others)
  | some a =>
    obtain rfl : σ' = σ.exec a := h
    by_cases hop : ∃ op, a = .atomic op
    · obtain ⟨op, rfl⟩ := hop
      by_cases hq : ∃ q, op = .validateRemoteAccess q
      · obtain ⟨q, rfl⟩ := hq
        exact failed_validate σ q
      · have hne : ∀ q, op ≠ .validateRemoteAccess q := fun q h => hq ⟨q, h⟩
        have hno : ∀ hit, validates hit ⟨σ, some (.atomic op), σ.exec (.atomic op)⟩ = false := by
          intro hit
          unfold validates
          split
          · rename_i heq
            simp only [Transition.mk.injEq, Option.some.injEq, Action.atomic.injEq] at heq
            exact absurd heq.2.1 (hne _)
          · rfl
        exact .quiet (hno _) (hno _) (failed_run σ.runtime hne)
    · have hno : ∀ hit σ', validates hit ⟨σ, some a, σ'⟩ = false := by
        intro hit σ'
        cases a with
        | atomic op => exact absurd ⟨op, rfl⟩ hop
        | _ => rfl
      obtain ⟨n, hn⟩ := section_tallies (σ.exec_cases a) fun op ha => hop ⟨op, ha⟩
      exact .quiet (hno _ _) (hno _ _) (congrArg Accounting.Tallies.failedAccessAttempts hn)

/-- The counter holds the rejections the authority did not decide, up to the wrap of the counter. -/
theorem failed_counted {σ : System β} {t : List (Transition (System β) (Option (Action β)))}
    (h : (interleaved β).Run t σ) : authorityRejections t ≤ rejections t ∧
      σ.runtime.acct.failedAccessAttempts.value.toNat = (rejections t - authorityRejections t) % 2 ^ 64 := by
  refine h.trace_inv (C := fun _ _ => True) (I := fun t σ => authorityRejections t ≤ rejections t ∧
    σ.runtime.acct.failedAccessAttempts.value.toNat = (rejections t - authorityRejections t) % 2 ^ 64) ?_ ?_
    fun _ _ _ _ => trivial
  · rintro _ rfl
    exact ⟨le_refl _, rfl⟩
  · rintro t σ l σ' hs - ⟨hle, hi⟩
    have hsnoc : ∀ (hit : Rdmabuffer β → RemoteAccessRequest → Bool) (x : Transition (System β) (Option (Action β))),
        (t ++ [x]).countP (validates hit) = t.countP (validates hit) + if validates hit x then 1 else 0 := by
      intro hit x
      rw [List.countP_append, List.countP_singleton]
    unfold rejections authorityRejections at hle hi ⊢
    rw [hsnoc, hsnoc]
    cases failed_step hs with
    | quiet hr ha hf =>
      rw [hr, ha, hf, hi]
      exact ⟨by simpa using hle, by simp⟩
    | uncounted hr ha hf =>
      rw [hr, ha, hf, hi, Nat.add_sub_add_right]
      exact ⟨by simpa using hle, rfl⟩
    | counted hr ha hf =>
      rw [hr, ha, hf, Counter.increment, UInt64.toNat_add, UInt64.toNat_one, hi]
      simp only [if_true, Bool.false_eq_true, if_false, Nat.add_zero]
      refine ⟨by omega, ?_⟩
      rw [Nat.mod_add_mod]
      congr 1
      omega

omit [IBackend β] in
theorem authorityRejections_eq_zero {t : List (Transition (System β) (Option (Action β)))} :
    authorityRejections t = 0 ↔ ∀ x ∈ t, ∀ q, x.label = some (.atomic (.validateRemoteAccess q)) →
      authorityDecides x.pre.runtime q = false := by
  unfold authorityRejections
  rw [List.countP_eq_zero]
  constructor
  · rintro h ⟨σ, l, σ'⟩ hx q rfl
    simpa [validates] using h _ hx
  · intro h x hx
    unfold validates
    split
    · rename_i σ q σ'
      simpa using h _ hx q rfl
    · exact Bool.false_ne_true

/-- In every state reached the call of the access check counts its verdict once exactly when the authority does not
decide it, and the counter is the number of rejected calls exactly when the authority decided none of them and the
counter did not wrap. -/
theorem verdicts_counted_iff {σ : System β} {t : List (Transition (System β) (Option (Action β)))}
    (h : (interleaved β).Run t σ) (q : RemoteAccessRequest) :
    (CountedOnce σ.runtime q ↔ authorityDecides σ.runtime q = false) ∧
      (σ.runtime.acct.failedAccessAttempts.value.toNat = rejections t ↔
        (∀ x ∈ t, ∀ q, x.label = some (.atomic (.validateRemoteAccess q)) → authorityDecides x.pre.runtime q = false) ∧
          rejections t < 2 ^ 64) := by
  refine ⟨countedOnce_iff σ.runtime q, ?_⟩
  obtain ⟨hle, hf⟩ := failed_counted h
  rw [← authorityRejections_eq_zero, hf]
  constructor
  · intro heq
    have hlt : rejections t < 2 ^ 64 := heq ▸ Nat.mod_lt _ (by decide)
    rw [Nat.mod_eq_of_lt (by omega)] at heq
    exact ⟨by omega, hlt⟩
  · rintro ⟨h0, hlt⟩
    rw [h0, Nat.sub_zero, Nat.mod_eq_of_lt hlt]

end

/-! ## A rejected call that is not counted -/

namespace Session

/-- The write of 64 bytes by a worker that has since rebooted. -/
def staleWrite (r : RegistrationId) : RemoteAccessRequest :=
  { write r with authority := { envelope with workerBoot := ⟨2⟩ } }

/-- A registered page, written under the current authority and under a stale one. -/
def verdicts : List (Action Backend) :=
  setup.map .atomic ++ registration 0 page ++
    [.atomic (.validateRemoteAccess (write ⟨1⟩)), .atomic (.validateRemoteAccess (staleWrite ⟨1⟩))]

/-- The call under the stale authority is rejected, for its boot, and no counter moves. -/
theorem stale_boot_uncounted :
    ∃ t, (interleaved Backend).Run t (System.run {} verdicts) ∧
      ((System.run {} verdicts).runtime.validateRemoteAccess (staleWrite ⟨1⟩)).2.outcome = .rejectStaleBoot ∧
      ¬CountedOnce (System.run {} verdicts).runtime (staleWrite ⟨1⟩) ∧
      rejections t = 1 ∧ (System.run {} verdicts).runtime.acct.failedAccessAttempts.value = 0 := by
  refine ⟨_, ⟨{}, rfl, System.path_run _ _⟩, by decide +kernel, ?_, by decide +kernel, by decide +kernel⟩
  rw [countedOnce_iff]
  decide +kernel

/-- A write through a registration that is not there, rejected and counted. -/
def strayWrite : List (Action Backend) := registration 0 page ++ [.atomic (.validateRemoteAccess (write ⟨9⟩))]

theorem verdicts_counted_current :
    ∃ t, (interleaved Backend).Run t (after strayWrite) ∧ CountedOnce (after strayWrite).runtime (write ⟨1⟩) ∧
      (after strayWrite).runtime.acct.failedAccessAttempts.value.toNat = rejections t ∧ rejections t = 1 := by
  have hr : (interleaved Backend).Run _ (after strayWrite) := ⟨{}, rfl, System.path_run _ _⟩
  obtain ⟨hcall, hrun⟩ := verdicts_counted_iff hr (write ⟨1⟩)
  refine ⟨_, hr, hcall.2 (by decide +kernel), hrun.2 ⟨?_, by decide +kernel⟩, by decide +kernel⟩
  rw [← authorityRejections_eq_zero]
  decide +kernel

end Session

end RdmaBuffer
