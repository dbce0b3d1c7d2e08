/-
The counter of ACTIVE leases. It is exact along a run, and every lease takes one off at most once, exactly when no
lease that was revoked is released while the counter is not zero, no deregistration erases a lease that is ACTIVE,
and no lease is issued under the id of one that is.
-/
import RdmaBuffer.Runtime.Execution
import RdmaBuffer.Runtime.Leases
import RdmaBuffer.Safety.Accounting

namespace RdmaBuffer

open Rdmabuffer

/-! ## The count and the steps that miss it -/

def activeLease (ls : Lease) : Nat := if ls.state = .active then 1 else 0

/-- `active_leases` is the number of leases that are ACTIVE. -/
def ActiveCounted {β : Type} (s : Rdmabuffer β) : Prop :=
  s.acct.activeLeases.value.toNat = Table.total activeLease s.leases

/-- The lease of the id is ACTIVE. -/
def activeId {β : Type} (s : Rdmabuffer β) (lease : RegistrationLeaseId) : Bool :=
  (s.leases.lookup lease).any fun ls => ls.state == .active

namespace LeaseOp

variable {β : Type}

/-- The operation misses the count: it issues the id of a lease that is ACTIVE or one lease more than the counter
holds, releases a lease that is not ACTIVE while the counter is not zero, or erases a lease that is ACTIVE. -/
def miscounts (s : Rdmabuffer β) : LeaseOp → Bool
  | .none | .revoke _ => false
  | .issue _ => activeId s ⟨s.nextLease⟩ || Table.total activeLease s.leases + 1 == 2 ^ 64
  | .release _ ls => ls.state != .active && s.acct.activeLeases.value != 0
  | .remove registration => s.leases.entries.any fun e => revokesLease registration e.2

/-- The operation issues a lease of the id. -/
def issues (s : Rdmabuffer β) (lease : RegistrationLeaseId) : LeaseOp → Bool
  | .issue _ => s.nextLease == lease.value
  | _ => false

end LeaseOp

/-- The loop of a hard revoke takes one off the counter for the lease. -/
def loopTakesOff (registration : RegistrationId) (lease : RegistrationLeaseId) :
    List (Sigma fun _ : RegistrationLeaseId => Lease) → Counter → Bool
  | [], _ => false
  | e :: l, c =>
    if revokesLease registration e.2 then
      if e.1 = lease then c.decrement.1 else loopTakesOff registration lease l c.decrement.2
    else loopTakesOff registration lease l c

/-- The operation takes one off the counter for the lease. -/
def LeaseOp.takesOff {β : Type} (s : Rdmabuffer β) (lease : RegistrationLeaseId) : LeaseOp → Bool
  | .release lease' _ => lease' == lease && s.acct.activeLeases.decrement.1
  | .revoke registration => loopTakesOff registration lease s.leases.entries s.acct.activeLeases
  | _ => false

/-! ## One step -/

section

variable {β : Type}

theorem total_active_issue (s : Rdmabuffer β) {ls : Lease} (hls : ls.state = .active) :
    Table.total activeLease ((LeaseOp.issue ls).leases s) + (if activeId s ⟨s.nextLease⟩ then 1 else 0) =
      Table.total activeLease s.leases + 1 := by
  have hnew : activeLease ls = 1 := if_pos hls
  unfold activeId
  rcases hk : s.leases.lookup ⟨s.nextLease⟩ with _ | w
  · have hput := Table.total_put_new (f := activeLease) ls hk
    rw [hnew] at hput
    simpa [LeaseOp.leases, hk] using hput
  · have hput := Table.total_put_old (f := activeLease) ls hk
    rw [hnew] at hput
    simpa [LeaseOp.leases, activeLease, hk] using hput

theorem total_active_release {s : Rdmabuffer β} {lease : RegistrationLeaseId} {ls : Lease}
    (hk : s.leases.lookup lease = some ls) :
    Table.total activeLease ((LeaseOp.release lease ls).leases s) + activeLease ls =
      Table.total activeLease s.leases := by
  have hput := Table.total_put_old (f := activeLease) { ls with state := .released } hk
  simpa [LeaseOp.leases, activeLease] using hput

/-- The indicator of the leases a hard revoke of the registration revokes. -/
def revokedLease (registration : RegistrationId) (ls : Lease) : Nat := if revokesLease registration ls then 1 else 0

theorem total_active_revoke (s : Rdmabuffer β) (registration : RegistrationId) :
    Table.total activeLease ((LeaseOp.revoke registration).leases s) +
      Table.total (revokedLease registration) s.leases =
      Table.total activeLease s.leases := by
  apply Table.total_mapVals_sub
  intro k ls _
  unfold revokedLease
  by_cases h : revokesLease registration ls = true
  · have hst : ls.state = .active := by
      simp only [revokesLease, Bool.and_eq_true, beq_iff_eq] at h
      exact h.2
    simp [h, activeLease, hst]
  · simp [h]

theorem total_active_remove (s : Rdmabuffer β) (registration : RegistrationId) :
    Table.total activeLease ((LeaseOp.remove registration).leases s) +
      Table.total (revokedLease registration) s.leases =
      Table.total activeLease s.leases := by
  apply Table.total_eraseIf_sub
  intro ls
  unfold revokedLease revokesLease activeLease
  by_cases hr : ls.registration = registration
  · simp [hr]
  · simp [hr]

/-- One more lease is counted, unless its id was that of an ACTIVE one or the counter wraps. -/
theorem activeCounted_issue {s : Rdmabuffer β} (hi : ActiveCounted s) {ls : Lease} (hls : ls.state = .active) :
    ((LeaseOp.issue ls).counter s).value.toNat = Table.total activeLease ((LeaseOp.issue ls).leases s) ↔
      (LeaseOp.issue ls).miscounts s = false := by
  have hlt := s.acct.activeLeases.value.toNat_lt
  have hsum := total_active_issue s hls
  unfold ActiveCounted at hi
  rw [hi] at hlt
  show (s.acct.activeLeases.value + 1).toNat = _ ↔ _
  rw [UInt64.toNat_add, UInt64.toNat_one, hi]
  simp only [LeaseOp.miscounts, Bool.or_eq_false_iff, beq_eq_false_iff_ne]
  cases ha : activeId s ⟨s.nextLease⟩ with
  | true =>
    rw [ha, if_pos rfl] at hsum
    simp only [Bool.true_eq_false, false_and, iff_false]
    omega
  | false =>
    rw [ha, if_neg Bool.false_ne_true] at hsum
    simp only [true_and]
    omega

/-- The lease is taken off, unless it was not ACTIVE and the counter had something to take off. -/
theorem activeCounted_release {s : Rdmabuffer β} (hi : ActiveCounted s) {lease : RegistrationLeaseId} {ls : Lease}
    (hk : s.leases.lookup lease = some ls) :
    ((LeaseOp.release lease ls).counter s).value.toNat = Table.total activeLease ((LeaseOp.release lease ls).leases s) ↔
      (LeaseOp.release lease ls).miscounts s = false := by
  have hsum := total_active_release hk
  unfold ActiveCounted at hi
  show s.acct.activeLeases.decrement.2.value.toNat = _ ↔ _
  simp only [LeaseOp.miscounts, Bool.and_eq_false_iff, bne_eq_false_iff_eq]
  by_cases hst : ls.state = .active
  · -- the lease was counted
    rw [activeLease, if_pos hst] at hsum
    have hdec := (decrement_one (c := s.acct.activeLeases) (hi.trans hsum.symm)).2
    exact iff_of_true hdec (.inl hst)
  · rw [activeLease, if_neg hst] at hsum
    by_cases hz : s.acct.activeLeases.value = 0
    · have hdec : s.acct.activeLeases.decrement.2 = s.acct.activeLeases := by
        unfold Counter.decrement
        rw [hz]
        rfl
      rw [hdec]
      refine iff_of_true ?_ (.inr hz)
      omega
    · have hpos : s.acct.activeLeases.value.toNat ≠ 0 := fun h => hz (UInt64.toNat_inj.1 h)
      obtain ⟨n, hn⟩ := Nat.exists_eq_succ_of_ne_zero hpos
      have hdec := (decrement_one hn).2
      refine iff_of_false ?_ fun h => h.elim hst hz
      omega

/-- The leases go without being taken off. -/
theorem activeCounted_remove {s : Rdmabuffer β} (hi : ActiveCounted s) (registration : RegistrationId) :
    s.acct.activeLeases.value.toNat = Table.total activeLease ((LeaseOp.remove registration).leases s) ↔
      (LeaseOp.remove registration).miscounts s = false := by
  have hsum := total_active_remove s registration
  have hnone : Table.total (revokedLease registration) s.leases = 0 ↔
      (LeaseOp.remove registration).miscounts s = false := by
    rw [Table.total_eq_zero, LeaseOp.miscounts, List.any_eq_false]
    simp [revokedLease]
  unfold ActiveCounted at hi
  rw [← hnone]
  omega

/-- The count stays exact exactly when the operation does not miss it. -/
theorem activeCounted_iff {s s' : Rdmabuffer β} {op : LeaseOp} (h : Follows s op s') (hf : op.Fits s)
    (hi : ActiveCounted s) : ActiveCounted s' ↔ op.miscounts s = false := by
  have htotal := Table.total_perm activeLease h.leases
  unfold ActiveCounted
  rw [h.counter, ← htotal]
  cases op with
  | none => exact iff_of_true hi rfl
  | issue ls => exact activeCounted_issue hi hf.1
  | release lease ls => exact activeCounted_release hi hf.1
  | revoke registration =>
    have hsum := total_active_revoke s registration
    exact iff_of_true (leaseLoop registration s.leases.entries (hi.trans hsum.symm)).2 rfl
  | remove registration => exact activeCounted_remove hi registration

theorem loopTakesOff_mem {registration : RegistrationId} {lease : RegistrationLeaseId}
    {l : List (Sigma fun _ : RegistrationLeaseId => Lease)} :
    ∀ {c : Counter}, loopTakesOff registration lease l c = true →
      ∃ e ∈ l, e.1 = lease ∧ revokesLease registration e.2 = true := by
  induction l with
  | nil => intro c h; cases h
  | cons e l ih =>
    intro c h
    unfold loopTakesOff at h
    by_cases hr : revokesLease registration e.2 = true
    · by_cases he : e.1 = lease
      · exact ⟨e, List.mem_cons_self .., he, hr⟩
      · rw [if_pos hr, if_neg he] at h
        obtain ⟨e', hm, hlease⟩ := ih h
        exact ⟨e', List.mem_cons_of_mem _ hm, hlease⟩
    · rw [if_neg hr] at h
      obtain ⟨e', hm, hlease⟩ := ih h
      exact ⟨e', List.mem_cons_of_mem _ hm, hlease⟩

theorem activeId_follows {s s' : Rdmabuffer β} {op : LeaseOp} (h : Follows s op s') (lease : RegistrationLeaseId) :
    activeId s' lease = ((op.leases s).lookup lease).any fun ls => ls.state == .active := by
  unfold activeId
  rw [Table.lookup_perm h.leases]

/-- An operation that does not issue the id activates no lease of it. -/
theorem activeId_of_not_issues {s s' : Rdmabuffer β} {op : LeaseOp} (h : Follows s op s')
    {lease : RegistrationLeaseId} (hn : op.issues s lease = false) (ha : activeId s' lease = true) :
    activeId s lease = true := by
  rw [activeId_follows h] at ha
  unfold activeId
  cases op with
  | none => exact ha
  | issue ls =>
    have hne : lease ≠ ⟨s.nextLease⟩ := by
      rintro rfl
      simp [LeaseOp.issues] at hn
    rwa [LeaseOp.leases, Table.lookup_put, if_neg hne] at ha
  | release lease' ls =>
    rw [LeaseOp.leases, Table.lookup_put] at ha
    split at ha
    · cases ha
    · exact ha
  | revoke registration =>
    rw [LeaseOp.leases, Table.lookup_mapVals, Option.any_map] at ha
    obtain ⟨ls, hls, hst⟩ := (Option.any_eq_true _ _).1 ha
    rw [hls, Option.any_some]
    have hst : ((if revokesLease registration ls then { ls with state := .revoked } else ls).state == .active) =
      true := hst
    split at hst
    · cases hst
    · exact hst
  | remove registration =>
    rw [LeaseOp.leases, Table.lookup_eraseIf] at ha
    obtain ⟨ls, hls, hst⟩ := (Option.any_eq_true _ _).1 ha
    rw [Option.filter_eq_some_iff] at hls
    rw [hls.1, Option.any_some]
    exact hst

/-- An operation that takes one off for a lease, and does not miss the count, ends the lease. -/
theorem activeId_of_takesOff {s s' : Rdmabuffer β} {op : LeaseOp} (h : Follows s op s') (hf : op.Fits s)
    {lease : RegistrationLeaseId} (ht : op.takesOff s lease = true) (hc : op.miscounts s = false) :
    activeId s lease = true ∧ activeId s' lease = false := by
  rw [activeId_follows h]
  unfold activeId
  cases op with
  | none | issue | remove => cases ht
  | release lease' ls =>
    simp only [LeaseOp.takesOff, Bool.and_eq_true, beq_iff_eq] at ht
    obtain ⟨rfl, hdec⟩ := ht
    constructor
    · -- the counter is not zero, so the lease was ACTIVE
      have hpos : s.acct.activeLeases.value ≠ 0 := by
        intro hz
        have := Counter.decrement_accepted.1 hdec
        rw [hz] at this
        exact absurd this (by decide)
      simp only [LeaseOp.miscounts, Bool.and_eq_false_iff, bne_eq_false_iff_eq] at hc
      rw [hf.1, Option.any_some, beq_iff_eq]
      exact hc.resolve_right hpos
    · rw [LeaseOp.leases, Table.lookup_put_self]
      rfl
  | revoke registration =>
    obtain ⟨e, hm, rfl, hr⟩ := loopTakesOff_mem ht
    have hls : s.leases.lookup e.1 = some e.2 := Table.mem_entries.1 hm
    constructor
    · simp only [revokesLease, Bool.and_eq_true] at hr
      rw [hls, Option.any_some]
      exact hr.2
    · rw [LeaseOp.leases, Table.lookup_mapVals, hls, Option.map_some, Option.any_some, if_pos hr]
      rfl

/-! ## The run -/

variable [IBackend β] [Environment β]

/-- The step misses the count. -/
def miscounts (x : Lts.Transition (System β) (Option (Action β))) : Bool :=
  (leaseOp x.pre x.label).miscounts x.pre.runtime

/-- The step issues a lease of the id. -/
def issuesLease (lease : RegistrationLeaseId) (x : Lts.Transition (System β) (Option (Action β))) : Bool :=
  (leaseOp x.pre x.label).issues x.pre.runtime lease

/-- The step takes one off the counter for the lease. -/
def takesOff (lease : RegistrationLeaseId) (x : Lts.Transition (System β) (Option (Action β))) : Bool :=
  (leaseOp x.pre x.label).takesOff x.pre.runtime lease

/-- The counter is the number of ACTIVE leases after every step, and every lease, from its issue on, takes one off
at most once. -/
structure LeasesCounted (t : List (Lts.Transition (System β) (Option (Action β)))) : Prop where
  counted : ∀ x ∈ t, ActiveCounted x.post.runtime
  once : ∀ lease t₁ t₂ t₃, t = t₁ ++ t₂ ++ t₃ → (∀ x ∈ t₂, issuesLease lease x = false) →
    t₂.countP (takesOff lease) ≤ 1

theorem activeCounted_step_iff {σ σ' : System β} {l : Option (Action β)} (h : (interleaved β).step σ l σ')
    (hi : ActiveCounted σ.runtime) : ActiveCounted σ'.runtime ↔ miscounts ⟨σ, l, σ'⟩ = false :=
  activeCounted_iff (follows_step h) (leaseOp_fits σ l) hi

/-- On the way through states in which the id is not issued, the lease takes one off only by ending. -/
theorem takesOff_path {σ σ' : System β} {t : List (Lts.Transition (System β) (Option (Action β)))}
    (h : (interleaved β).Path σ t σ') {lease : RegistrationLeaseId} (hc : ∀ x ∈ t, miscounts x = false)
    (hn : ∀ x ∈ t, issuesLease lease x = false) :
    t.countP (takesOff lease) + (activeId σ'.runtime lease).toNat ≤ (activeId σ.runtime lease).toNat := by
  induction h with
  | nil => rw [List.countP_nil, Nat.zero_add]
  | @snoc u v t l hp hs ih =>
    simp only [List.forall_mem_append, List.forall_mem_singleton] at hc hn
    have ih := ih hc.1 hn.1
    have hfollows := follows_step hs
    rw [List.countP_append, List.countP_singleton]
    by_cases ht : takesOff lease ⟨u, l, v⟩ = true
    · obtain ⟨hpre, hpost⟩ := activeId_of_takesOff hfollows (leaseOp_fits u l) ht hc.2
      rw [hpre] at ih
      rw [if_pos ht, hpost]
      exact ih
    · have hkeep : activeId v.runtime lease = true → activeId u.runtime lease = true :=
        activeId_of_not_issues hfollows hn.2
      rw [if_neg ht]
      cases hv : activeId v.runtime lease with
      | true =>
        rw [hkeep hv] at ih
        exact ih
      | false => exact (Nat.le_add_right _ _).trans ih

omit [IBackend β] [Environment β] in
theorem activeCounted_init : ActiveCounted ({} : System β).runtime := rfl

theorem activeCounted_run {t : List (Lts.Transition (System β) (Option (Action β)))} {σ : System β}
    (h : (interleaved β).Run t σ) (hc : ∀ x ∈ t, miscounts x = false) : ActiveCounted σ.runtime := by
  refine h.inv_of (I := fun σ => ActiveCounted σ.runtime) (C := fun x => miscounts x = false) ?_ ?_ hc
  · rintro _ rfl
    exact activeCounted_init
  · intro σ l σ' hs hc hi
    exact (activeCounted_step_iff hs hi).2 hc

/-- The counter of leases is exact over a run exactly when no step misses the count. -/
theorem leases_counted_iff (t : List (Lts.Transition (System β) (Option (Action β)))) (σ : System β)
    (h : (interleaved β).Run t σ) : LeasesCounted t ↔ ∀ x ∈ t, miscounts x = false := by
  constructor
  · intro hl x hx
    obtain ⟨t₁, t₂, rfl, hrun, hs, -⟩ := h.at_mem hx
    have hpre : ActiveCounted x.pre.runtime := by
      rcases hrun.last with hinit | ⟨y, hy, hpost⟩
      · have hinit : x.pre = {} := hinit
        rw [hinit]
        exact activeCounted_init
      · rw [← hpost]
        exact hl.counted y (by simp [hy])
    exact (activeCounted_step_iff hs hpre).1 (hl.counted x hx)
  · intro hc
    constructor
    · intro x hx
      obtain ⟨t₁, hpre, hrun⟩ := h.upto hx
      exact activeCounted_run hrun fun y hy => hc y (hpre.subset hy)
    · rintro lease t₁ t₂ t₃ rfl hn
      obtain ⟨σ₀, -, hp⟩ := h
      obtain ⟨u, hp, -⟩ := hp.split (t₁ ++ t₂) t₃ rfl
      obtain ⟨v, -, hp⟩ := hp.split t₁ t₂ rfl
      have hle := takesOff_path hp (fun x hx => hc x (by simp [hx])) hn
      exact (Nat.le_add_right _ _).trans (hle.trans (Bool.toNat_le _))

end

open Session

/-- The page and another one registered, and a lease on each. -/
def leasedPages : List (Action Backend) :=
  registration 0 page ++ [.atomic (.createBuffer otherPage)] ++ registration 0 otherPage ++
    [.atomic (.acquireLease ⟨1⟩ envelope 0x08), .atomic (.acquireLease ⟨2⟩ envelope 0x08)]

/-- One of the leases is released, and the registration of the other revoked. -/
def endedLeases : List (Action Backend) :=
  leasedPages ++ [.atomic (.releaseLease ⟨2⟩), .atomic (.revoke ⟨1⟩ .hardRevoke)]

theorem leases_counted_iff_pages : ∃ t, (interleaved Backend).Run t (after endedLeases) ∧ t.length = 15 ∧
    LeasesCounted t := by
  have hr : (interleaved Backend).Run _ (after endedLeases) := ⟨{}, rfl, System.path_run _ _⟩
  exact ⟨_, hr, rfl, (leases_counted_iff _ _ hr).2 (by decide +kernel)⟩

/-- A lease is released after a hard revoke ended it. -/
def releasedAgain : List (Action Backend) :=
  leasedPages ++ [.atomic (.revoke ⟨1⟩ .hardRevoke), .atomic (.releaseLease ⟨1⟩)]

/-- The counter says that no lease is ACTIVE, and one is. -/
theorem revoked_lease_released : ∃ t σ, (interleaved Backend).Run t σ ∧ ¬LeasesCounted t ∧
    σ.runtime.acct.activeLeases.value = 0 ∧ Table.total activeLease σ.runtime.leases = 1 ∧
    t.countP (takesOff ⟨1⟩) = 2 := by
  have hr : (interleaved Backend).Run _ (after releasedAgain) := ⟨{}, rfl, System.path_run _ _⟩
  have hone : Table.total activeLease (after releasedAgain).runtime.leases = 1 := by decide +kernel
  have hzero : (after releasedAgain).runtime.acct.activeLeases.value = 0 := by decide +kernel
  refine ⟨_, _, hr, ?_, hzero, hone, by decide +kernel⟩
  intro hl
  rcases hr.last with hinit | ⟨x, hx, hpost⟩
  · rw [show after releasedAgain = {} from hinit] at hone
    cases hone
  · have hcounted := hl.counted x hx
    rw [hpost, ActiveCounted, hzero, hone] at hcounted
    cases hcounted

end RdmaBuffer
