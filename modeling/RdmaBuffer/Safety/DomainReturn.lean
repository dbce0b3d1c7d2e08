/-
Protection domains across a restart. A file holds the ids of the domains and neither their states nor their
generations, so a recovery makes an unknown domain ACTIVE under the generation every domain begins with, also one
that was destroyed when it was saved.
-/
import RdmaBuffer.Runtime.Refusals
import RdmaBuffer.Safety.SaveCycle

namespace RdmaBuffer

open Codec Persistence Rdmabuffer

/-! ## What stays destroyed -/

/-- The state of the entry is DESTROYED. -/
def Destroyed {β : Type} (s : Rdmabuffer β) (d : ProtectionDomainId) : Prop :=
  ∃ de, s.domains.lookup d = some de ∧ de.state = .destroyed

/-- The domain is ACTIVE under the generation `g`. -/
def ActiveAt {β : Type} (s : Rdmabuffer β) (d : ProtectionDomainId) (g : ProtectionDomainGeneration) : Prop :=
  ∃ de, s.domains.lookup d = some de ∧ de.state = .active ∧ de.generation = g

section

variable {β : Type} [IBackend β] [Environment β]

/-- The run had the domain ACTIVE under the generation `g`. -/
def WasActiveAt (t : List (Lts.Transition (System β) (Option (Action β)))) (d : ProtectionDomainId)
    (g : ProtectionDomainGeneration) : Prop := ∃ x ∈ t, ActiveAt x.post.runtime d g

variable {β' : Type} [IBackend β'] [Environment β']

/-- A domain of the run `t` stays destroyed from the runtime `s` on: it is never ACTIVE again under a generation
it had, and `register_buffer` refuses it unless it was created under a later one. -/
structure StaysDestroyed (t : List (Lts.Transition (System β) (Option (Action β)))) (d : ProtectionDomainId)
    (s : Rdmabuffer β') : Prop where
  inactive : ∀ t' σ', (interleaved β').Path (idle s) t' σ' → ∀ g, WasActiveAt t d g → ¬ActiveAt σ'.runtime d g
  refused : ∀ t' σ', (interleaved β').Path (idle s) t' σ' →
    (¬∃ g', ActiveAt σ'.runtime d g' ∧ ∀ g, WasActiveAt t d g → g.value < g'.value) →
    ∀ descriptor backend env b, Authorized σ'.runtime.authority env → σ'.runtime.backends.lookup backend = some b →
      (σ'.runtime.registerBuffer descriptor backend d env).2 = domainInvalid

/-! ## Every domain was ACTIVE under the first generation -/

theorem effect_domain {s s' : Rdmabuffer β} {op : AtomicOp β} (he : Effect s op s') {d : ProtectionDomainId}
    {de' : DomainEntry} (hd : s'.domains.lookup d = some de') :
    (∃ de, s.domains.lookup d = some de) ∨ ActiveAt s' d ⟨1⟩ := by
  cases he with
  | domainCreated node process acct =>
    by_cases hid : d = ⟨s.nextDomain⟩
    · right
      exact ⟨_, (Table.lookup_put _ _ _ _).trans (if_pos hid), rfl, rfl⟩
    · rw [Table.lookup_put, if_neg hid] at hd
      exact .inl ⟨de', hd⟩
  | domainDestroyed d₀ de acct h =>
    left
    by_cases hid : d = d₀
    · exact ⟨de, hid ▸ h⟩
    · rw [Table.lookup_put, if_neg hid] at hd
      exact ⟨de', hd⟩
  | recovered bytes state hp =>
    rcases (restore_spec s state).domain d with hold | ⟨-, hnew⟩
    · rw [hold] at hd
      exact .inl ⟨de', hd⟩
    · exact .inr ⟨_, hnew, rfl, rfl⟩
  | _ => exact .inl ⟨de', hd⟩

/-- A step keeps the domains that were known; a new one is ACTIVE under the first generation. -/
theorem domain_step {σ σ' : System β} {l : Option (Action β)} (h : (interleaved β).step σ l σ')
    {d : ProtectionDomainId} {de' : DomainEntry} (hd : σ'.runtime.domains.lookup d = some de') :
    (∃ de, σ.runtime.domains.lookup d = some de) ∨ ActiveAt σ'.runtime d ⟨1⟩ := by
  cases l with
  | none =>
    obtain ⟨hr, -⟩ := h
    rw [← Table.lookup_perm hr.domains] at hd
    exact .inl ⟨de', hd⟩
  | some a =>
    obtain rfl : σ' = σ.exec a := h
    generalize σ.exec a = σ', σ.exec_cases a = hs at hd
    cases hs with
    | atomic op s he => exact effect_domain he hd
    | deregisterFinished c p refusal hc =>
      simp only [System.move, deregisterFinish] at hd
      split at hd <;> exact .inl ⟨de', hd⟩
    | _ => exact .inl ⟨de', hd⟩

theorem wasActiveAt_run {t : List (Lts.Transition (System β) (Option (Action β)))} {σ : System β}
    (h : (interleaved β).Run t σ) {d : ProtectionDomainId} {de : DomainEntry}
    (hd : σ.runtime.domains.lookup d = some de) : WasActiveAt t d ⟨1⟩ := by
  have hinv : ∀ de, σ.runtime.domains.lookup d = some de → WasActiveAt t d ⟨1⟩ := by
    apply h.trace_inv (I := fun t σ => ∀ de, σ.runtime.domains.lookup d = some de → WasActiveAt t d ⟨1⟩)
      (C := fun _ _ => True) _ _ fun _ _ _ _ => trivial
    · rintro _ rfl de hd
      cases hd
    · intro t σ l σ' hs _ ih de' hd'
      rcases domain_step hs hd' with ⟨de, hd⟩ | hnew
      · obtain ⟨x, hx, ha⟩ := ih de hd
        exact ⟨x, List.mem_append_left _ hx, ha⟩
      · exact ⟨_, List.mem_append_right _ (List.mem_singleton_self _), hnew⟩
  exact hinv de hd

/-! ## The recovery -/

omit [IBackend β'] [Environment β'] in
/-- A domain of the file that the runtime does not know is ACTIVE under the first generation afterwards. -/
theorem activeAt_restore (s : Rdmabuffer β') {state : PersistableState} {d : ProtectionDomainId}
    (hn : s.domains.lookup d = none) (hd : d ∈ state.domains) : ActiveAt (restore s state).1 d ⟨1⟩ := by
  obtain ⟨de, hde⟩ := Option.isSome_iff_exists.1 (restore_domain_isSome s hd)
  rcases (restore_spec s state).domain d with hold | ⟨-, hnew⟩
  · rw [hold, hn] at hde
    cases hde
  · exact ⟨_, hnew, rfl, rfl⟩

omit [Environment β] [IBackend β'] [Environment β'] in
/-- A saved domain comes back from the file ACTIVE under the first generation. -/
theorem activeAt_recover {s : Rdmabuffer β} (hz : Sized s.persistableState) {d : ProtectionDomainId} {de : DomainEntry}
    (hd : s.domains.lookup d = some de) (s' : Rdmabuffer β') (hn : s'.domains.lookup d = none) {report : RecoveryReport}
    (hr : (s'.recover (some s.saveBlob)).2 = .ok report) : ActiveAt (s'.recover (some s.saveBlob)).1 d ⟨1⟩ := by
  rcases hp : parse s.saveBlob with err | state
  · unfold recover at hr
    simp only [hp] at hr
    cases hr
  · rw [recover_of_parse s' hp]
    apply activeAt_restore s' hn
    obtain ⟨rfl, -⟩ := (parse_serialize hz).1 hp
    exact Table.key_mem hd

omit [Environment β'] in
/-- The domain check of `register_buffer` is passed by an ACTIVE domain. -/
theorem registerBuffer_ne_domainInvalid {s : Rdmabuffer β'} {d : ProtectionDomainId} {g : ProtectionDomainGeneration}
    (h : ActiveAt s d g) (descriptor : BufferDescriptor) (backend : BackendId) (env : AuthorityEnvelope) :
    (s.registerBuffer descriptor backend d env).2 ≠ domainInvalid := by
  intro heq
  have hok : (s.registerBuffer descriptor backend d env).2.ok = false := congrArg RegisterResult.ok heq
  have hr := registerBuffer_refusal hok
  rw [heq] at hr
  obtain ⟨de, hde, hst, -⟩ := h
  apply hr.of_domainInvalid
  rw [hde, Option.map_some, hst]

/-- A domain of the run that is ACTIVE under the first generation has not stayed destroyed. -/
theorem not_staysDestroyed {t : List (Lts.Transition (System β) (Option (Action β)))} {σ : System β}
    (h : (interleaved β).Run t σ) {d : ProtectionDomainId} {de : DomainEntry}
    (hd : σ.runtime.domains.lookup d = some de) {s : Rdmabuffer β'} (ha : ActiveAt s d ⟨1⟩) :
    ¬StaysDestroyed t d s := by
  intro hs
  have hnot := hs.inactive [] _ .nil ⟨1⟩ (wasActiveAt_run h hd)
  exact hnot ha

/-- A destroyed domain does not stay destroyed: after every run and every recovery of what it saved into a runtime
that does not know the domain, the domain is ACTIVE under a generation it had, and `register_buffer` takes it. -/
theorem destroyed_domain_returns (t : List (Lts.Transition (System β) (Option (Action β)))) (σ : System β)
    (h : (interleaved β).Run t σ) (hz : Sized σ.runtime.persistableState) (d : ProtectionDomainId)
    (hd : Destroyed σ.runtime d) (s : Rdmabuffer β') (hn : s.domains.lookup d = none) (report : RecoveryReport)
    (hr : (s.recover (some σ.runtime.saveBlob)).2 = .ok report) :
    ¬StaysDestroyed t d (s.recover (some σ.runtime.saveBlob)).1 ∧
      ∀ descriptor backend env,
        ((s.recover (some σ.runtime.saveBlob)).1.registerBuffer descriptor backend d env).2 ≠ domainInvalid := by
  obtain ⟨de, hde, -⟩ := hd
  have ha := activeAt_recover hz hde s hn hr
  generalize (s.recover (some σ.runtime.saveBlob)).1 = s' at ha ⊢
  exact ⟨not_staysDestroyed h hde ha, registerBuffer_ne_domainInvalid ha⟩

end

open Session

/-- The session with its domain destroyed. -/
def withoutDomain : System Backend := after [.atomic (.destroyProtectionDomain ⟨1⟩)]

theorem run_withoutDomain : ∃ t, (interleaved Backend).Run t withoutDomain := run_after _

theorem sized_withoutDomain : Sized withoutDomain.runtime.persistableState := by
  obtain ⟨t, h⟩ := run_withoutDomain
  have hf : BackendsFit withoutDomain.runtime := by decide
  have hb : BelowLimit withoutDomain.runtime := by decide
  exact sized_persistableState (recordsFiled_run h).fileable hb.within hf.sized

theorem parse_withoutDomain :
    parse withoutDomain.runtime.saveBlob = .ok (persisted withoutDomain.runtime.persistableState) := by
  have hi : Intact withoutDomain.runtime.persistableState := by constructor <;> decide
  exact (parse_serialize sized_withoutDomain).2 ⟨rfl, by decide, hi⟩

theorem destroyed_withoutDomain : Destroyed withoutDomain.runtime ⟨1⟩ := by
  refine ⟨{ state := .destroyed, generation := ⟨2⟩, node := ⟨1⟩, process := ⟨1⟩ }, ?_, rfl⟩
  rfl

/-- A fresh runtime recovers the file of the session. -/
theorem recover_withoutDomain : ∃ report,
    (({} : Rdmabuffer Backend).recover (some withoutDomain.runtime.saveBlob)).2 = .ok report := by
  rw [recover_of_parse _ parse_withoutDomain]
  exact ⟨_, rfl⟩

/-- The domain that the session destroyed is back in a fresh runtime that recovers its file. -/
theorem destroyed_domain_returns_fresh : ∃ t, (interleaved Backend).Run t withoutDomain ∧
    ¬StaysDestroyed t ⟨1⟩ (({} : Rdmabuffer Backend).recover (some withoutDomain.runtime.saveBlob)).1 := by
  obtain ⟨t, h⟩ := run_withoutDomain
  obtain ⟨report, hr⟩ := recover_withoutDomain
  have hd := destroyed_domain_returns t _ h sized_withoutDomain ⟨1⟩ destroyed_withoutDomain _ rfl report hr
  exact ⟨t, h, hd.1⟩

/-- A registration of the page, after a synthetic backend was attached. -/
def registersPage (s : Rdmabuffer Backend) : RegisterResult :=
  ((AtomicOp.run s (.addBackend (some (Backend.Spec.synthetic 0x52444D41)))).registerBuffer
    page synthetic ⟨1⟩ envelope).2

/-- Registrations of the page on the destroyed domain are refused, and accepted again by a fresh runtime that
recovers the file. -/
theorem destroyed_domain_registered : ∃ t, (interleaved Backend).Run t withoutDomain ∧
    Destroyed withoutDomain.runtime ⟨1⟩ ∧
    (withoutDomain.runtime.registerBuffer page synthetic ⟨1⟩ envelope).2 = domainInvalid ∧
    (∃ report, (({} : Rdmabuffer Backend).recover (some withoutDomain.runtime.saveBlob)).2 = .ok report) ∧
    ¬StaysDestroyed t ⟨1⟩ (({} : Rdmabuffer Backend).recover (some withoutDomain.runtime.saveBlob)).1 ∧
    (registersPage (({} : Rdmabuffer Backend).recover (some withoutDomain.runtime.saveBlob)).1).ok = true := by
  obtain ⟨t, h⟩ := run_withoutDomain
  obtain ⟨report, hr⟩ := recover_withoutDomain
  have hd := destroyed_withoutDomain
  obtain ⟨de, hde, -⟩ := hd
  have ha := activeAt_recover sized_withoutDomain hde _ rfl hr
  have hok : (registersPage (({} : Rdmabuffer Backend).recover (some withoutDomain.runtime.saveBlob)).1).ok = true := by
    rw [recover_of_parse _ parse_withoutDomain]
    decide +kernel
  exact ⟨t, h, destroyed_withoutDomain, rfl, ⟨report, hr⟩, not_staysDestroyed h hde ha, hok⟩

end RdmaBuffer
