/-
The counter of protection domains and their ids. The counter is the number of ACTIVE domains, in every state of a run,
exactly when no domain is destroyed twice and none that is ACTIVE is created over; and a creation returns an id that
was free exactly when no step brings the counter of ids and the table together.
-/
import RdmaBuffer.Runtime.Audit
import RdmaBuffer.Safety.RecoveredTeardown
import RdmaBuffer.Safety.SaveCycle

namespace RdmaBuffer

open Rdmabuffer

section

variable {β : Type}

/-! ## The count -/

def activeDomain (de : DomainEntry) : Nat := if de.state = .active then 1 else 0

/-- `protection_domains` is the number of domains that are ACTIVE. -/
def DomainsCounted (s : Rdmabuffer β) : Prop :=
  s.acct.protectionDomains.value.toNat = Table.total activeDomain s.domains

/-- The domain of the id is ACTIVE. -/
def activeAt (s : Rdmabuffer β) (d : ProtectionDomainId) : Bool :=
  (s.domains.lookup d).any fun de => de.state == .active

/-- How many domains of the file a recovery adds. -/
def newDomains (s : Rdmabuffer β) (ds : List ProtectionDomainId) : Nat :=
  (Table.absent (fun d => d) ds s.domains).length

/-! ## One operation -/

theorem domainsCounted_create {s : Rdmabuffer β} (hi : DomainsCounted s) (node : NodeId) (process : ProcessId) :
    DomainsCounted (s.createProtectionDomain node process).1 ↔
      (activeAt s ⟨s.nextDomain⟩ || Table.total activeDomain s.domains + 1 == 2 ^ 64) = false := by
  have hlt := s.acct.protectionDomains.value.toNat_lt
  unfold DomainsCounted at hi ⊢
  rw [hi] at hlt
  unfold createProtectionDomain activeAt
  dsimp only
  rw [Counter.increment, UInt64.toNat_add, UInt64.toNat_one, hi, Bool.or_eq_false_iff, beq_eq_false_iff_ne]
  rcases hk : s.domains.lookup ⟨s.nextDomain⟩ with _ | de
  · rw [Table.total_put_new _ hk]
    simp only [hk, activeDomain, if_true, Option.any_none, true_and]
    omega
  · -- the domain that is created over is gone
    have hput := Table.total_put_old (f := activeDomain)
      { domain := .unknown, state := .active, generation := ⟨1⟩, node := node, process := process } hk
    have hnew : activeDomain
        { domain := .unknown, state := .active, generation := ⟨1⟩, node := node, process := process } = 1 := rfl
    simp only [hk, Option.any_some, beq_eq_false_iff_ne]
    by_cases hst : de.state = .active
    · have hold : activeDomain de = 1 := if_pos hst
      refine iff_of_false (fun hc => ?_) fun h => h.1 hst
      omega
    · have hold : activeDomain de = 0 := if_neg hst
      simp only [ne_eq, hst, not_false_eq_true, true_and]
      omega

theorem domainsCounted_destroy {s : Rdmabuffer β} (hi : DomainsCounted s) (d : ProtectionDomainId) :
    DomainsCounted (s.destroyProtectionDomain d).1 ↔
      ((s.domains.lookup d).any (fun de => de.state != .active) && s.acct.protectionDomains.value != 0) = false := by
  unfold destroyProtectionDomain
  rcases hk : s.domains.lookup d with _ | de
  · exact iff_of_true hi rfl
  · have hput := Table.total_put_old (f := activeDomain)
      { de with state := .destroyed, generation := de.generation.next } hk
    have hclosed : activeDomain { de with state := .destroyed, generation := de.generation.next } = 0 := rfl
    obtain ⟨-, hframe, -⟩ := invalidated_frame (fun rec => rec.domainId == d && rec.lifecycle.isLive)
      s.registrations.entries s.acct
    unfold DomainsCounted at hi ⊢
    dsimp only [withdrawAll]
    rw [hframe, Option.any_some, Bool.and_eq_false_iff, bne_eq_false_iff_eq, bne_eq_false_iff_eq]
    by_cases hst : de.state = .active
    · have hopen : activeDomain de = 1 := if_pos hst
      refine iff_of_true ?_ (.inl hst)
      rw [(decrement_one (c := s.acct.protectionDomains)
        (n := s.acct.protectionDomains.value.toNat - 1) (by omega)).2]
      omega
    · have hopen : activeDomain de = 0 := if_neg hst
      by_cases hz : s.acct.protectionDomains.value = 0
      · have hsame : s.acct.protectionDomains.decrement.2 = s.acct.protectionDomains := by
          unfold Counter.decrement
          rw [hz]
          rfl
        rw [hsame]
        refine iff_of_true ?_ (.inr hz)
        omega
      · have hpos : s.acct.protectionDomains.value.toNat ≠ 0 := fun h => hz (UInt64.toNat_inj.1 h)
        rw [(decrement_one (c := s.acct.protectionDomains)
          (n := s.acct.protectionDomains.value.toNat - 1) (by omega)).2]
        refine iff_of_false ?_ fun h => h.elim hst hz
        omega

/-- The domain loop of a recovery adds the domains that are not there, and counts them. -/
theorem recoverDomains_counted (ds : List ProtectionDomainId) : ∀ sr : Rdmabuffer β × RecoveryReport, ds.Nodup →
    Table.total activeDomain (ds.foldl recoverDomain sr).1.domains =
        Table.total activeDomain sr.1.domains + newDomains sr.1 ds ∧
      (ds.foldl recoverDomain sr).1.acct.protectionDomains.value.toNat =
        (sr.1.acct.protectionDomains.value.toNat + newDomains sr.1 ds) % 2 ^ 64 := by
  induction ds with
  | nil =>
    rintro ⟨s, report⟩ -
    exact ⟨rfl, (Nat.mod_eq_of_lt s.acct.protectionDomains.value.toNat_lt).symm⟩
  | cons d ds ih =>
    rintro ⟨s, report⟩ hnd
    rw [List.foldl_cons]
    obtain ⟨htotal, hcount⟩ := ih (recoverDomain (s, report) d) (List.nodup_cons.1 hnd).2
    rw [htotal, hcount]
    unfold newDomains recoverDomain
    dsimp only
    rcases hd : s.domains.lookup d with _ | de
    · rw [if_neg (by simp), Table.absent_cons_of_absent (fun d => d) hd
        { state := .active, generation := ⟨1⟩ } (by simpa using hnd)]
      dsimp only
      rw [Table.total_put_new _ hd, List.length_cons, Counter.increment, UInt64.toNat_add, UInt64.toNat_one]
      have hnew : activeDomain { state := .active, generation := ⟨1⟩ } = 1 := rfl
      rw [hnew, Nat.mod_add_mod]
      constructor
      · omega
      · congr 1
        omega
    · rw [if_pos (by simp), Table.absent_cons_of_present (fun d => d) (by simp [hd])]
      exact ⟨rfl, rfl⟩

/-- A recovery counts what it adds, unless the counter wraps. -/
theorem domainsCounted_restore {s : Rdmabuffer β} (hi : DomainsCounted s) {state : PersistableState}
    (hnd : state.domains.Nodup) : DomainsCounted (restore s state).1 ↔
      decide (2 ^ 64 ≤ Table.total activeDomain s.domains + newDomains s state.domains) = false := by
  obtain ⟨buffers, acct, report, hb, -⟩ := recoverBuffers_spec state.buffers s {}
  obtain ⟨count, bytes, hacct⟩ := recoverBuffers_acct state.buffers (s, {})
  obtain ⟨htotal, hcount⟩ := recoverDomains_counted state.domains (state.buffers.foldl recoverBuffer (s, {})) hnd
  rcases hsr : state.domains.foldl recoverDomain (state.buffers.foldl recoverBuffer (s, {})) with ⟨s₁, report₁⟩
  obtain ⟨registrations, report', hr, -⟩ := recoverRegistrations_spec state.registrations s₁ report₁
  rw [hsr] at htotal hcount
  rw [hb] at htotal hcount hacct
  unfold DomainsCounted at hi ⊢
  unfold restore
  simp only [hsr, hr]
  rw [htotal, hcount, decide_eq_false_iff_not]
  dsimp only at hacct ⊢
  rw [hacct, hi]
  unfold newDomains
  dsimp only
  omega

end

/-! ## Along a run -/

section

variable {β : Type} [IBackend β] [Environment β]

/-- The step misses the count: it creates over a domain that is ACTIVE, destroys one that is not while the counter is
not zero, or makes the counter wrap. -/
def miscountsDomain (s : Rdmabuffer β) : Option (Action β) → Bool
  | some (.atomic (.createProtectionDomain _ _)) =>
    activeAt s ⟨s.nextDomain⟩ || Table.total activeDomain s.domains + 1 == 2 ^ 64
  | some (.atomic (.destroyProtectionDomain d)) =>
    (s.domains.lookup d).any (fun de => de.state != .active) && s.acct.protectionDomains.value != 0
  | some (.atomic op) => op.restores.any fun state =>
    decide (2 ^ 64 ≤ Table.total activeDomain s.domains + newDomains s state.domains)
  | _ => false

/-- The step brings the counter of ids and the table together: the id after the one created is taken, or a file has
the id that is next. -/
def meetsDomain (s : Rdmabuffer β) : Option (Action β) → Bool
  | some (.atomic (.createProtectionDomain _ _)) => (s.domains.lookup ⟨s.nextDomain + 1⟩).isSome
  | some (.atomic op) => op.restores.any fun state => state.domains.contains ⟨s.nextDomain⟩
  | _ => false

/-- What a step does to the protection domains, their counter and the counter of their ids. -/
inductive DomainsStep (s : Rdmabuffer β) : Option (Action β) → Rdmabuffer β → Prop
  | kept (l : Option (Action β)) (s' : Rdmabuffer β)
      (hc : ∀ node process, l ≠ some (.atomic (.createProtectionDomain node process)))
      (hd : ∀ d, l ≠ some (.atomic (.destroyProtectionDomain d)))
      (hr : ∀ op, l = some (.atomic op) → op.restores = none)
      (ht : ∀ d, s'.domains.lookup d = s.domains.lookup d)
      (ha : s'.acct.protectionDomains = s.acct.protectionDomains) (hn : s'.nextDomain = s.nextDomain) :
      DomainsStep s l s'
  | created (node : NodeId) (process : ProcessId) :
      DomainsStep s (some (.atomic (.createProtectionDomain node process))) (s.createProtectionDomain node process).1
  | destroyed (d : ProtectionDomainId) :
      DomainsStep s (some (.atomic (.destroyProtectionDomain d))) (s.destroyProtectionDomain d).1
  | recovered (bytes : Bytes) (state : PersistableState) (hp : Persistence.parse bytes = .ok state) :
      DomainsStep s (some (.atomic (.recover (some bytes)))) (restore s state).1

theorem effect_domainsStep {s s' : Rdmabuffer β} {op : AtomicOp β} (he : Effect s op s') (ho : s' = op.run s) :
    DomainsStep s (some (.atomic op)) s' := by
  by_cases hc : ∃ node process, op = .createProtectionDomain node process
  · obtain ⟨node, process, rfl⟩ := hc
    rw [ho]
    exact .created node process
  by_cases hd : ∃ d, op = .destroyProtectionDomain d
  · obtain ⟨d, rfl⟩ := hd
    rw [ho]
    exact .destroyed d
  rcases hr : op.restores with _ | state
  · have hnc : ∀ node process, some (Action.atomic op) ≠ some (.atomic (.createProtectionDomain node process)) := by
      rintro node process ⟨⟩
      exact hc ⟨node, process, rfl⟩
    have hnd : ∀ d, some (Action.atomic op) ≠ some (.atomic (.destroyProtectionDomain d)) := by
      rintro d ⟨⟩
      exact hd ⟨d, rfl⟩
    have hnr : ∀ op', some (Action.atomic op) = some (.atomic op') → op'.restores = none := by
      rintro _ ⟨⟩
      exact hr
    cases he with
    | refused op acct h ha | authority op acct ha | queried request rec b acct hr h ha
    | softRevoked k rec acct h hl ha =>
      exact .kept _ _ hnc hnd hnr (fun _ => rfl) (congrArg Accounting.Holdings.protectionDomains ha) rfl
    | domainCreated node process => exact absurd ⟨node, process, rfl⟩ hc
    | domainDestroyed d => exact absurd ⟨d, rfl⟩ hd
    | recovered bytes state hp => cases (restores_of_parse hp).symm.trans hr
    | bufferReallocated descriptor be nextBuffer acct h hg ha =>
      subst ha
      obtain ⟨-, hframe, -⟩ :=
        invalidated_frame (onBuffer (bufferTarget s descriptor)) s.registrations.entries s.acct
      exact .kept _ _ hnc hnd hnr (fun _ => rfl) hframe rfl
    | bufferCreated | leased | released | releasedAlone | hardRevoked =>
      subst_vars
      exact .kept _ _ hnc hnd hnr (fun _ => rfl) rfl rfl
    | _ => exact .kept _ _ hnc hnd hnr (fun _ => rfl) rfl rfl
  · obtain ⟨bytes, rfl, hp⟩ := restores_eq_some hr
    rw [ho, AtomicOp.run, recover_of_parse s hp]
    exact .recovered bytes state hp

theorem domainsStep {σ σ' : System β} {l : Option (Action β)} (h : (interleaved β).step σ l σ') :
    DomainsStep σ.runtime l σ'.runtime := by
  cases l with
  | none =>
    refine .kept _ _ (fun _ _ hl => by cases hl) (fun _ hl => by cases hl) (fun _ hl => by cases hl) ?_ ?_ ?_
    · exact fun d => (Table.lookup_perm h.1.domains d).symm
    · rw [h.1.others]
    · rw [h.1.others]
  | some a =>
    obtain rfl : σ' = σ.exec a := h
    by_cases ha : ∃ op, a = .atomic op
    · obtain ⟨op, rfl⟩ := ha
      exact effect_domainsStep (op.effect σ.runtime) rfl
    · have hnc : ∀ node process, some a ≠ some (.atomic (.createProtectionDomain node process)) := by
        rintro node process ⟨⟩
        exact ha ⟨_, rfl⟩
      have hnd : ∀ d, some a ≠ some (.atomic (.destroyProtectionDomain d)) := by
        rintro d ⟨⟩
        exact ha ⟨_, rfl⟩
      have hnr : ∀ op, some a = some (.atomic op) → op.restores = none := by
        rintro op ⟨⟩
        exact absurd ⟨_, rfl⟩ ha
      have hs := σ.exec_cases a
      generalize σ.exec a = σ' at hs
      cases hs with
      | atomic op => exact absurd ⟨op, rfl⟩ ha
      | deregisterFinished c d refusal =>
        have hkept : (σ.runtime.deregisterFinish d refusal).1.domains = σ.runtime.domains ∧
            (σ.runtime.deregisterFinish d refusal).1.acct.protectionDomains = σ.runtime.acct.protectionDomains ∧
            (σ.runtime.deregisterFinish d refusal).1.nextDomain = σ.runtime.nextDomain := by
          unfold deregisterFinish
          split <;> exact ⟨rfl, rfl, rfl⟩
        exact .kept _ _ hnc hnd hnr (fun id => congrArg (AList.lookup id) hkept.1) hkept.2.1 hkept.2.2
      | _ => exact .kept _ _ hnc hnd hnr (fun _ => rfl) rfl rfl

theorem domainsCounted_step {σ σ' : System β} {l : Option (Action β)} (h : (interleaved β).step σ l σ')
    (hi : DomainsCounted σ.runtime) : DomainsCounted σ'.runtime ↔ miscountsDomain σ.runtime l = false := by
  have hs := domainsStep h
  generalize σ'.runtime = s' at hs
  cases hs with
  | kept _ _ hc hd hr ht ha hn =>
    refine iff_of_true ?_ ?_
    · unfold DomainsCounted at hi ⊢
      rw [ha, hi, Table.total_congr ht]
    · unfold miscountsDomain
      split
      · exact absurd rfl (hc _ _)
      · exact absurd rfl (hd _)
      · rw [hr _ rfl]
        rfl
      · rfl
  | created node process => exact domainsCounted_create hi node process
  | destroyed d => exact domainsCounted_destroy hi d
  | recovered bytes state hp =>
    have hmiss : miscountsDomain σ.runtime (some (.atomic (.recover (some bytes)) : Action β)) =
        decide (2 ^ 64 ≤ Table.total activeDomain σ.runtime.domains + newDomains σ.runtime state.domains) := by
      simp only [miscountsDomain, restores_of_parse hp, Option.any_some]
    rw [hmiss]
    exact domainsCounted_restore hi (Persistence.parse_sound hp).2.domains

/-- No domain has the id that is next. -/
def domainIdFree (s : Rdmabuffer β) : Bool := (s.domains.lookup ⟨s.nextDomain⟩).isNone

theorem domainIdFree_step {σ σ' : System β} {l : Option (Action β)} (h : (interleaved β).step σ l σ')
    (hi : domainIdFree σ.runtime = true) :
    domainIdFree σ'.runtime = true ↔ meetsDomain σ.runtime l = false := by
  have hs := domainsStep h
  generalize σ'.runtime = s' at hs
  unfold domainIdFree at hi ⊢
  cases hs with
  | kept _ _ hc hd hr ht ha hn =>
    rw [hn, ht, hi]
    refine iff_of_true rfl ?_
    unfold meetsDomain
    split
    · exact absurd rfl (hc _ _)
    · rw [hr _ rfl]
      rfl
    · rfl
  | created node process =>
    have hne : (⟨σ.runtime.nextDomain + 1⟩ : ProtectionDomainId) ≠ ⟨σ.runtime.nextDomain⟩ := by
      rw [ne_eq, StrongId.mk.injEq, ← UInt64.toNat_inj, UInt64.toNat_add, UInt64.toNat_one]
      have hlt := σ.runtime.nextDomain.toNat_lt
      omega
    simp only [createProtectionDomain, meetsDomain, Table.lookup_put, if_neg hne]
    rw [← Option.not_isSome, Bool.not_eq_true']
  | destroyed d =>
    refine iff_of_true ?_ rfl
    unfold destroyProtectionDomain
    rcases hk : σ.runtime.domains.lookup d with _ | de
    · exact hi
    · have hne : (⟨σ.runtime.nextDomain⟩ : ProtectionDomainId) ≠ d := by
        rintro hid
        rw [hid, hk] at hi
        cases hi
      dsimp only [withdrawAll]
      rw [Table.lookup_put, if_neg hne, hi]
  | recovered bytes state hp =>
    have hmeets : meetsDomain σ.runtime (some (.atomic (.recover (some bytes)) : Action β)) =
        state.domains.contains ⟨σ.runtime.nextDomain⟩ := by
      simp only [meetsDomain, restores_of_parse hp, Option.any_some]
    rw [hmeets, (restore_spec σ.runtime state).nextDomain]
    by_cases hd : (⟨σ.runtime.nextDomain⟩ : ProtectionDomainId) ∈ state.domains
    · refine iff_of_false ?_ (by simpa using hd)
      have hsome := restore_domain_isSome σ.runtime hd
      rw [Option.isNone_iff_eq_none]
      intro hn
      rw [hn] at hsome
      cases hsome
    · rw [restore_domain_other σ.runtime hd]
      exact iff_of_true hi (by simpa using hd)

/-- In every run, the counter is the number of ACTIVE domains in all states reached exactly when no step miscounts,
and a creation returns an id that was free in all of them exactly when no step brings the counter of ids and the table
together. -/
theorem domain_count_iff {σ : System β} {t : List (Lts.Transition (System β) (Option (Action β)))}
    (h : (interleaved β).Run t σ) :
    ((∀ x ∈ t, DomainsCounted x.post.runtime) ↔ ∀ x ∈ t, miscountsDomain x.pre.runtime x.label = false) ∧
    ((∀ x ∈ t, ∀ node process,
        x.post.runtime.domains.lookup (x.post.runtime.createProtectionDomain node process).2 = none) ↔
      ∀ x ∈ t, meetsDomain x.pre.runtime x.label = false) := by
  constructor
  · refine h.inv_iff (I := fun σ => DomainsCounted σ.runtime)
      (C := fun x => miscountsDomain x.pre.runtime x.label = false) ?_ fun σ l σ' hs hi => domainsCounted_step hs hi
    rintro _ rfl
    rfl
  · refine Iff.trans ?_ (h.inv_iff (I := fun σ => domainIdFree σ.runtime = true)
      (C := fun x => meetsDomain x.pre.runtime x.label = false) ?_ fun σ l σ' hs hi => domainIdFree_step hs hi)
    · refine forall₂_congr fun x _ => ?_
      rw [domainIdFree, Option.isNone_iff_eq_none]
      exact ⟨fun hf => hf {} {}, fun hf _ _ => hf⟩
    · rintro _ rfl
      rfl

end

/-! ## A domain destroyed twice -/

namespace Session

/-- Two domains, of which the first is destroyed `n` times. -/
def destroyed (n : Nat) : List (Action Backend) :=
  [.atomic (.createProtectionDomain ⟨1⟩ ⟨1⟩), .atomic (.createProtectionDomain ⟨1⟩ ⟨1⟩)] ++
    List.replicate n (.atomic (.destroyProtectionDomain ⟨1⟩))

/-- After the second destruction the counter is zero and a domain is ACTIVE; and a fresh runtime that recovered a file
with domain 1 returns 1 for its first domain. -/
theorem destroyed_twice_miscounted :
    (∃ t, (interleaved Backend).Run t (System.run {} (destroyed 2))) ∧
      ¬DomainsCounted (System.run {} (destroyed 2)).runtime ∧
      ∃ t σ, (interleaved Backend).Run t σ ∧
        σ.runtime.domains.lookup (σ.runtime.createProtectionDomain ⟨1⟩ ⟨1⟩).2 ≠ none := by
  refine ⟨⟨_, {}, rfl, System.path_run _ _⟩, ?_, _, System.run {} recoveredAlone, ⟨{}, rfl, System.path_run _ _⟩, ?_⟩
  · unfold DomainsCounted
    decide +kernel
  · have hstate : System.run {} recoveredAlone = _ := run_recover {} parse_file _
    rw [hstate]
    decide +kernel

theorem destroyed_once_counted :
    ∃ t, (interleaved Backend).Run t (System.run {} (destroyed 1)) ∧ (∀ x ∈ t, DomainsCounted x.post.runtime) ∧
      ∀ x ∈ t, ∀ node process,
        x.post.runtime.domains.lookup (x.post.runtime.createProtectionDomain node process).2 = none := by
  have hr : (interleaved Backend).Run _ (System.run {} (destroyed 1)) := ⟨{}, rfl, System.path_run _ _⟩
  obtain ⟨hcount, hfresh⟩ := domain_count_iff hr
  exact ⟨_, hr, hcount.2 (by decide +kernel), hfresh.2 (by decide +kernel)⟩

end Session

end RdmaBuffer
