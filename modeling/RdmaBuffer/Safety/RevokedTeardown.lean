/-
Tearing a registration down after a hard revoke. The revoke ends its leases in `leases_` and takes them off
`active_leases`, but leaves `lease_count`, which `deregister` reads; and a release of a revoked lease takes one off
`active_leases` again. So it frees the registrations that had no lease to end, as long as the counters were exact.
-/
import RdmaBuffer.Registry.Access
import RdmaBuffer.Runtime.Execution
import RdmaBuffer.Runtime.Sequential
import RdmaBuffer.Safety.Accounting
import RdmaBuffer.Safety.LeaseCounter
import RdmaBuffer.Safety.RecoveredTeardown

namespace RdmaBuffer

open Rdmabuffer

variable {β : Type} [IBackend β]

/-! ## The law -/

/-- A hard revoke of the registration revokes the lease of the id. -/
def EndsLease (s : Rdmabuffer β) (r : RegistrationId) (k : RegistrationLeaseId) : Prop :=
  ∃ ls, s.leases.lookup k = some ls ∧ revokesLease r ls = true

/-- The hard revoke of the registration, and the release of the leases. -/
def revokedAndReleased (s : Rdmabuffer β) (r : RegistrationId) (leases : List RegistrationLeaseId) : Rdmabuffer β :=
  leases.foldl (fun s k => (s.releaseLease k).1) (s.revoke r .hardRevoke).1

/-- What `deregister` returns when it counts leases. -/
def leasesRefusal : Bool × StdString := (false, lit "registration has active leases; revoke first or force-revoke")

/-- The counters of registrations account for exactly the charges. -/
def OnBooks (s : Rdmabuffer β) (g : Charges) : Prop := Balance s.acct g.entries.length g.bytes g.pinned

/-- After the hard revoke, whichever of the leases it ended are released, the deregistration is not refused for
leases; and if it succeeds, `active_leases` is the number of ACTIVE leases, and the counters of registrations account
for exactly those that remain: after a run these are the charged ones of its history but for the registration. -/
structure FreesRegistration (s : Rdmabuffer β) (r : RegistrationId) (remaining : Charges) : Prop where
  begins : ∀ leases, (∀ k ∈ leases, EndsLease s r k) →
    ((revokedAndReleased s r leases).deregister r).2 ≠ leasesRefusal
  leases : ∀ leases, (∀ k ∈ leases, EndsLease s r k) → ((revokedAndReleased s r leases).deregister r).2.1 = true →
    ActiveCounted ((revokedAndReleased s r leases).deregister r).1
  registrations : ∀ leases, (∀ k ∈ leases, EndsLease s r k) →
    ((revokedAndReleased s r leases).deregister r).2.1 = true →
      OnBooks ((revokedAndReleased s r leases).deregister r).1 remaining

/-- The counter holds `n` beside the rest; or just the rest, which is less than `n`. -/
def Holds (c : Counter) (n : UInt64) (rest : Nat) : Prop :=
  c.value.toNat = rest + n.toNat ∨ (c.value.toNat = rest ∧ rest < n.toNat)

/-- The counters hold the record beside the other charges. -/
structure HoldsRecord (a : Accounting) (rec : RegistrationRecord) (others : Charges) : Prop where
  active : Holds a.activeRegistrations 1 others.entries.length
  locals : Holds a.localKeys 1 others.entries.length
  remotes : Holds a.remoteKeys 1 others.entries.length
  registered : Holds a.registeredBytes rec.length others.bytes
  pinned : if rec.domain = .hostPinned then Holds a.pinnedBytes rec.length others.pinned
    else a.pinnedBytes.value.toNat = others.pinned

/-- The registration has no ACTIVE lease and `active_leases` is exact; or no other one has, and `active_leases` is not
too high. -/
def LeasesCovered (s : Rdmabuffer β) (r : RegistrationId) : Prop :=
  ((∀ e ∈ s.leases.entries, revokesLease r e.2 = false) ∧ ActiveCounted s) ∨
    ((∀ e ∈ s.leases.entries, e.2.state = .active → e.2.registration = r) ∧
      s.acct.activeLeases.value.toNat ≤ Table.total activeLease s.leases)

/-- The record counts no lease; and if the backend lets go of the registration, the counters hold what is there. -/
structure Unleased (s : Rdmabuffer β) (r : RegistrationId) (rec : RegistrationRecord) (remaining : Charges) :
    Prop where
  leaseCount : rec.leaseCount = 0
  leases : releases s rec = true → LeasesCovered s r
  registrations : releases s rec = true → HoldsRecord s.acct rec remaining

/-! ## Decrements -/

theorem holds_iff {c : Counter} {n : UInt64} {rest : Nat} :
    (c.decrement n).2.value.toNat = rest ↔ Holds c n rest := by
  unfold Holds
  by_cases h : n.toNat ≤ c.value.toNat
  · rw [Counter.decrement_toNat h]
    omega
  · have hself : (c.decrement n).2 = c := decrement_eq_self.2 (.inr (UInt64.lt_iff_toNat_lt.2 (by omega)))
    rw [hself]
    omega

theorem decrement_one_value (c : Counter) : c.decrement.2.value.toNat = c.value.toNat - 1 := by
  rw [holds_iff, Holds, UInt64.toNat_one]
  omega

/-- What an invalidation leaves is what the counters held beside the record. -/
theorem balance_invalidate {a : Accounting} (rec : RegistrationRecord) {others : Charges} :
    Balance (accountRegistrationInvalidate a rec) others.entries.length others.bytes others.pinned ↔
      HoldsRecord a rec others := by
  have hpinned : (accountRegistrationInvalidate a rec).pinnedBytes.value.toNat = others.pinned ↔
      if rec.domain = .hostPinned then Holds a.pinnedBytes rec.length others.pinned
        else a.pinnedBytes.value.toNat = others.pinned := by
    unfold accountRegistrationInvalidate
    dsimp only
    split
    · exact holds_iff
    · exact .rfl
  exact ⟨fun h => ⟨holds_iff.1 h.active, holds_iff.1 h.locals, holds_iff.1 h.remotes, holds_iff.1 h.registered,
      hpinned.1 h.pinned⟩,
    fun h => ⟨holds_iff.2 h.active, holds_iff.2 h.locals, holds_iff.2 h.remotes, holds_iff.2 h.registered,
      hpinned.2 h.pinned⟩⟩

theorem HoldsRecord.congr {a a' : Accounting} {rec : RegistrationRecord} {others : Charges}
    (ha : a'.charges = a.charges) : HoldsRecord a' rec others ↔ HoldsRecord a rec others := by
  simp only [Accounting.charges, List.cons.injEq, and_true] at ha
  obtain ⟨hactive, hregistered, hpinned, hlocals, hremotes⟩ := ha
  rw [← balance_invalidate, ← balance_invalidate]
  unfold accountRegistrationInvalidate
  rw [hactive, hregistered, hpinned, hlocals, hremotes]
  exact ⟨fun h => ⟨h.active, h.locals, h.remotes, h.registered, h.pinned⟩,
    fun h => ⟨h.active, h.locals, h.remotes, h.registered, h.pinned⟩⟩

/-! ## The state before the deregistration -/

/-- What the hard revoke and any releases after it leave of a state with the record. -/
structure AfterRevoke (s : Rdmabuffer β) (r : RegistrationId) (rec : RegistrationRecord) (s' : Rdmabuffer β) :
    Prop where
  record : s'.registrations.lookup r = some (hardRevoked rec)
  backends : s'.backends = s.backends
  charges : s'.acct.charges = s.acct.charges
  inactive : ∀ e ∈ s'.leases.entries, revokesLease r e.2 = false

omit [IBackend β] in
theorem afterRevoke_revoke {s : Rdmabuffer β} {r : RegistrationId} {rec : RegistrationRecord}
    (hr : s.registrations.lookup r = some rec) (hl : rec.lifecycle.isLive = true) :
    AfterRevoke s r rec (s.revoke r .hardRevoke).1 := by
  have hlive := revoke_live hr hl .hardRevoke
  refine ⟨?_, hlive.2.2, ?_, fun e he => ?_⟩
  · rw [hlive.2.1]
    exact Table.lookup_put_self _ _ _
  · unfold revoke
    simp only [hr, hl, Bool.not_true, Bool.false_eq_true, if_false]
    rfl
  · have hk := Table.mem_entries.1 he
    unfold revoke at hk
    simp only [hr, hl, Bool.not_true, Bool.false_eq_true, if_false] at hk
    rw [Table.lookup_mapVals, Option.map_eq_some_iff] at hk
    obtain ⟨ls, -, hls⟩ := hk
    rw [← hls]
    split
    · simp [revokesLease]
    · rename_i h
      simpa using h

omit [IBackend β] in
/-- The releases leave the record of the registration alone, since it counts no lease. -/
theorem AfterRevoke.release {s s' : Rdmabuffer β} {r : RegistrationId} {rec : RegistrationRecord}
    (h : AfterRevoke s r rec s') (hn : rec.leaseCount = 0) (k : RegistrationLeaseId) :
    AfterRevoke s r rec (s'.releaseLease k).1 := by
  rw [releaseLease_fst]
  rcases hk : s'.leases.lookup k with _ | ls
  · exact h
  dsimp only
  split
  · exact h
  refine ⟨?_, h.backends, h.charges, fun e he => ?_⟩
  · rcases hls : s'.registrations.lookup ls.registration with _ | rec'
    · exact h.record
    · by_cases hc : rec'.leaseCount > 0
      · have hne : r ≠ ls.registration := by
          rintro rfl
          rw [h.record] at hls
          obtain rfl := Option.some.inj hls
          have hc : rec.leaseCount > 0 := hc
          rw [hn] at hc
          exact absurd hc (by decide)
        simp only [if_pos hc, Table.lookup_put, if_neg hne]
        exact h.record
      · simp only [if_neg hc]
        exact h.record
  · have hk' := Table.mem_entries.1 he
    rcases Table.lookup_put_some hk' with ⟨-, hls⟩ | ⟨-, hk'⟩
    · rw [hls]
      simp [revokesLease]
    · exact h.inactive e (Table.mem_entries.2 hk')

omit [IBackend β] in
theorem afterRevoke_released {s : Rdmabuffer β} {r : RegistrationId} {rec : RegistrationRecord}
    (hr : s.registrations.lookup r = some rec) (hl : rec.lifecycle.isLive = true) (hn : rec.leaseCount = 0)
    (leases : List RegistrationLeaseId) : AfterRevoke s r rec (revokedAndReleased s r leases) := by
  unfold revokedAndReleased
  have hstart := afterRevoke_revoke hr hl
  generalize (s.revoke r .hardRevoke).1 = s' at hstart
  induction leases generalizing s' with
  | nil => exact hstart
  | cons k leases ih => exact ih _ (hstart.release hn k)

/-! ## The count of leases -/

theorem leasesRevoked_value (r : RegistrationId) (l : List (Sigma fun _ : RegistrationLeaseId => Lease)) (c : Counter) :
    (l.foldl (fun c e => if revokesLease r e.2 then c.decrement.2 else c) c).value.toNat =
      c.value.toNat - (l.map fun e => revokedLease r e.2).sum := by
  induction l generalizing c with
  | nil => rfl
  | cons e l ih =>
    rw [List.foldl_cons, ih, List.map_cons, List.sum_cons, revokedLease]
    split
    · rw [decrement_one_value]
      omega
    · omega

omit [IBackend β] in
/-- The revoke takes the leases it ends off the counter as far as it goes, and off the ACTIVE leases. -/
theorem activeCounted_revoke {s : Rdmabuffer β} {r : RegistrationId} {rec : RegistrationRecord}
    (hr : s.registrations.lookup r = some rec) (hl : rec.lifecycle.isLive = true) :
    ActiveCounted (s.revoke r .hardRevoke).1 ↔
      s.acct.activeLeases.value.toNat - Table.total (revokedLease r) s.leases =
        Table.total activeLease (s.revoke r .hardRevoke).1.leases := by
  have hf := hardRevoke_follows s r
  rw [revokeOp_live hr hl] at hf
  have hcounter : (s.revoke r .hardRevoke).1.acct.activeLeases.value.toNat =
      s.acct.activeLeases.value.toNat - Table.total (revokedLease r) s.leases := by
    rw [hf.counter]
    exact leasesRevoked_value r s.leases.entries s.acct.activeLeases
  unfold ActiveCounted
  rw [hcounter]

omit [IBackend β] in
theorem total_active_revoked {s : Rdmabuffer β} {r : RegistrationId} {rec : RegistrationRecord}
    (hr : s.registrations.lookup r = some rec) (hl : rec.lifecycle.isLive = true) :
    Table.total activeLease (s.revoke r .hardRevoke).1.leases + Table.total (revokedLease r) s.leases =
      Table.total activeLease s.leases := by
  have hf := hardRevoke_follows s r
  rw [revokeOp_live hr hl] at hf
  rw [← Table.total_perm activeLease hf.leases]
  exact total_active_revoke s r

omit [IBackend β] in
/-- A release while no lease is ACTIVE keeps the count exact: there is nothing to take off. -/
theorem activeCounted_release_idle {s : Rdmabuffer β} (hi : ActiveCounted s)
    (hz : Table.total activeLease s.leases = 0) (k : RegistrationLeaseId) :
    ActiveCounted (s.releaseLease k).1 ∧ Table.total activeLease (s.releaseLease k).1.leases = 0 := by
  have hf := releaseLease_follows s k
  have hzero : s.acct.activeLeases.value = 0 := by
    unfold ActiveCounted at hi
    rw [hz] at hi
    exact UInt64.toNat_inj.1 hi
  unfold releaseOp at hf
  rcases hk : s.leases.lookup k with _ | ls
  · simp only [hk] at hf
    refine ⟨(activeCounted_iff hf trivial hi).2 rfl, ?_⟩
    rw [← Table.total_perm activeLease hf.leases]
    exact hz
  · simp only [hk] at hf
    split at hf
    · refine ⟨(activeCounted_iff hf trivial hi).2 rfl, ?_⟩
      rw [← Table.total_perm activeLease hf.leases]
      exact hz
    · rename_i hst
      refine ⟨(activeCounted_iff hf ⟨hk, hst⟩ hi).2 ?_, ?_⟩
      · simp [LeaseOp.miscounts, hzero]
      · have hsum := total_active_release hk
        rw [← Table.total_perm activeLease hf.leases]
        omega

omit [IBackend β] in
/-- The erasure of leases none of which is ACTIVE leaves the count as it is. -/
theorem activeCounted_removed {s : Rdmabuffer β} {r : RegistrationId}
    (h : ∀ e ∈ s.leases.entries, revokesLease r e.2 = false) (rec : RegistrationRecord)
    (backends : Table BackendId β) : ActiveCounted (removed s r rec backends) ↔ ActiveCounted s := by
  have hsum := total_active_remove s r
  have hnone : Table.total (revokedLease r) s.leases = 0 := by
    rw [Table.total_eq_zero]
    intro e he
    simp [revokedLease, h e he]
  rw [hnone, Nat.add_zero] at hsum
  show s.acct.activeLeases.value.toNat = Table.total activeLease ((LeaseOp.remove r).leases s) ↔ _
  rw [hsum]
  rfl

omit [IBackend β] in
theorem total_revoked_of_own {s : Rdmabuffer β} {r : RegistrationId}
    (h : ∀ e ∈ s.leases.entries, e.2.state = .active → e.2.registration = r) :
    Table.total (revokedLease r) s.leases = Table.total activeLease s.leases := by
  refine congrArg List.sum (List.map_congr_left fun e he => ?_)
  unfold revokedLease revokesLease activeLease
  by_cases hst : e.2.state = .active
  · simp [hst, h e he hst]
  · simp [hst]

omit [IBackend β] in
/-- The count is exact after the releases, if it covered the leases before the revoke. -/
theorem activeCounted_released {s : Rdmabuffer β} {r : RegistrationId} {rec : RegistrationRecord}
    (hr : s.registrations.lookup r = some rec) (hl : rec.lifecycle.isLive = true) (h : LeasesCovered s r)
    {leases : List RegistrationLeaseId} (hk : ∀ k ∈ leases, EndsLease s r k) :
    ActiveCounted (revokedAndReleased s r leases) := by
  have hsum := total_active_revoked hr hl
  rcases h with ⟨hnone, hi⟩ | ⟨hown, hle⟩
  · -- nothing was ended, so there is nothing to release
    have hzero : Table.total (revokedLease r) s.leases = 0 :=
      Table.total_eq_zero.2 fun e he => by rw [revokedLease, hnone e he, if_neg Bool.false_ne_true]
    have hstart : ActiveCounted (s.revoke r .hardRevoke).1 := by
      unfold ActiveCounted at hi
      rw [activeCounted_revoke hr hl]
      omega
    cases leases with
    | nil => exact hstart
    | cons k leases =>
      obtain ⟨ls, hls, hends⟩ := hk k List.mem_cons_self
      rw [hnone ⟨k, ls⟩ (Table.mem_entries.2 hls)] at hends
      cases hends
  · -- the leases ended are all there were
    have hall := total_revoked_of_own hown
    have hzero : Table.total activeLease (s.revoke r .hardRevoke).1.leases = 0 := by omega
    have hstart : ActiveCounted (s.revoke r .hardRevoke).1 := by
      rw [activeCounted_revoke hr hl]
      omega
    clear hk hsum
    unfold revokedAndReleased
    generalize (s.revoke r .hardRevoke).1 = s' at hstart hzero
    induction leases generalizing s' with
    | nil => exact hstart
    | cons k leases ih =>
      obtain ⟨hc, hz⟩ := activeCounted_release_idle hstart hzero k
      exact ih _ hc hz

omit [IBackend β] in
/-- The release of a lease the revoke ended takes off one more, if a lease of another registration is ACTIVE. -/
theorem miscounted_released {s : Rdmabuffer β} {r : RegistrationId} {rec : RegistrationRecord}
    (hr : s.registrations.lookup r = some rec) (hl : rec.lifecycle.isLive = true)
    (hcount : ActiveCounted (s.revoke r .hardRevoke).1)
    {k : RegistrationLeaseId} (hk : EndsLease s r k) {e : Sigma fun _ : RegistrationLeaseId => Lease}
    (he : e ∈ s.leases.entries) (hst : e.2.state = .active) (hne : e.2.registration ≠ r) :
    ¬ActiveCounted (revokedAndReleased s r [k]) := by
  have hlookup : ∀ j ls, s.leases.lookup j = some ls → (s.revoke r .hardRevoke).1.leases.lookup j =
      some (if revokesLease r ls then { ls with state := .revoked } else ls) := by
    intro j ls hj
    unfold revoke
    simp only [hr, hl, Bool.not_true, Bool.false_eq_true, if_false]
    rw [Table.lookup_mapVals, hj, Option.map_some]
  -- the other lease is still ACTIVE, so the counter is not zero
  have hother : (s.revoke r .hardRevoke).1.leases.lookup e.1 = some e.2 := by
    rw [hlookup e.1 e.2 (Table.mem_entries.1 he)]
    simp [revokesLease, hne]
  have hpos : (s.revoke r .hardRevoke).1.acct.activeLeases.value ≠ 0 := by
    intro hz
    have hle := Table.le_total (f := activeLease) hother
    unfold ActiveCounted at hcount
    rw [hz, UInt64.toNat_zero] at hcount
    rw [← hcount, activeLease, if_pos hst] at hle
    exact absurd hle (by decide)
  obtain ⟨ls, hls, hends⟩ := hk
  have hended := hlookup k ls hls
  rw [if_pos hends] at hended
  have hf := releaseLease_follows (s.revoke r .hardRevoke).1 k
  simp only [releaseOp, hended, reduceCtorEq, if_false] at hf
  intro hc
  have hno := (activeCounted_iff hf ⟨hended, by simp⟩ hcount).1 hc
  simp [LeaseOp.miscounts, hpos] at hno

omit [IBackend β] in
/-- If the count is exact after the revoke, and after every release of an ended lease, it covered the leases. -/
theorem leasesCovered_of_released {s : Rdmabuffer β} {r : RegistrationId} {rec : RegistrationRecord}
    (hr : s.registrations.lookup r = some rec) (hl : rec.lifecycle.isLive = true)
    (hnil : ActiveCounted (revokedAndReleased s r []))
    (hone : ∀ k, EndsLease s r k → ActiveCounted (revokedAndReleased s r [k])) : LeasesCovered s r := by
  have hsum := total_active_revoked hr hl
  have hcount := (activeCounted_revoke hr hl).1 hnil
  by_cases hnone : ∀ e ∈ s.leases.entries, revokesLease r e.2 = false
  · refine .inl ⟨hnone, ?_⟩
    have hzero : Table.total (revokedLease r) s.leases = 0 :=
      Table.total_eq_zero.2 fun e he => by rw [revokedLease, hnone e he, if_neg Bool.false_ne_true]
    unfold ActiveCounted
    omega
  · simp only [not_forall, Bool.not_eq_false] at hnone
    obtain ⟨⟨k, ls⟩, hk, hends⟩ := hnone
    have hended : EndsLease s r k := ⟨ls, Table.mem_entries.1 hk, hends⟩
    have hown : ∀ e ∈ s.leases.entries, e.2.state = .active → e.2.registration = r := by
      intro e he hst
      by_contra hne
      exact miscounted_released hr hl hnil hended he hst hne (hone k hended)
    have hall := total_revoked_of_own hown
    exact .inr ⟨hown, by omega⟩

/-! ## The deregistration -/

/-- A record that counts a lease is refused for it. -/
theorem deregister_leased {s : Rdmabuffer β} {r : RegistrationId} {rec : RegistrationRecord}
    (hr : s.registrations.lookup r = some rec) (hn : rec.leaseCount ≠ 0) : (s.deregister r).2 = leasesRefusal := by
  have hpos : rec.leaseCount > 0 := by
    rw [gt_iff_lt, UInt64.lt_iff_toNat_lt, UInt64.toNat_zero]
    exact Nat.pos_of_ne_zero fun h => hn (UInt64.toNat_inj.1 h)
  unfold deregister deregisterBegin
  simp only [hr, if_pos hpos]
  rfl

omit [IBackend β] in
theorem deregisterFinish_explanation (s : Rdmabuffer β) (d : PendingDeregistration)
    (refusal : Option RegisterOutcome) : (s.deregisterFinish d refusal).2.2 ≠ leasesRefusal.2 := by
  have hrefused : ∀ m, lit "backend deregister failed: " ++ m ≠ leasesRefusal.2 := by
    intro m he
    have hhead := congrArg List.head? he
    have hfirst : (lit "backend deregister failed: ").head? = some 98 := by decide +kernel
    have hother : leasesRefusal.2.head? = some 114 := by decide +kernel
    rw [List.head?_append, hfirst, hother] at hhead
    cases hhead
  unfold deregisterFinish
  rcases refusal with _ | bo
  · rcases s.registrations.lookup d.registration with _ | rec
    · show lit "registration vanished during deregister" ≠ leasesRefusal.2
      decide +kernel
    · show lit "registration deregistered" ≠ leasesRefusal.2
      decide +kernel
  · rcases s.registrations.lookup d.registration with _ | rec
    · exact hrefused bo.message
    · exact hrefused bo.message

/-- One that counts none is not, whatever its backend answers. -/
theorem deregister_unleased {s : Rdmabuffer β} {r : RegistrationId} {rec : RegistrationRecord}
    (hr : s.registrations.lookup r = some rec) (hn : rec.leaseCount = 0) : (s.deregister r).2 ≠ leasesRefusal := by
  have hzero : ¬rec.leaseCount > 0 := by
    rw [hn]
    decide
  refine fun he => absurd (congrArg Prod.snd he) ?_
  unfold deregister deregisterBegin
  simp only [hr, if_neg hzero]
  cases deregisterable rec.lifecycle with
  | false =>
    show lit "registration not in deregisterable state" ≠ leasesRefusal.2
    decide +kernel
  | true =>
    simp only [Bool.not_true, Bool.false_eq_true, if_false]
    exact deregisterFinish_explanation _ _ _

/-- What a deregistration makes of the state after the revoke and the releases: the backend decides whether it removes
the record, as it would have before. -/
theorem deregister_released {s : Rdmabuffer β} {r : RegistrationId} {rec : RegistrationRecord}
    (hr : s.registrations.lookup r = some rec) (hl : rec.lifecycle.isLive = true) (hn : rec.leaseCount = 0)
    (leases : List RegistrationLeaseId) : ∃ backends e, (revokedAndReleased s r leases).deregister r =
      (if releases s rec then removed (revokedAndReleased s r leases) r (hardRevoked rec) backends
        else failed (revokedAndReleased s r leases) r (hardRevoked rec) backends, releases s rec, e) := by
  have ha := afterRevoke_released hr hl hn leases
  obtain ⟨backends, ok, e, hrel, he⟩ := deregister_accepted ha.record hn rfl
  have hok := hrel.ok_eq
  have hsame : releases (revokedAndReleased s r leases) (hardRevoked rec) = releases s rec := by
    unfold releases
    rw [ha.backends]
    rfl
  rw [hsame] at hok
  exact ⟨backends, e, hok ▸ he⟩

/-- One that succeeds removes the record. -/
theorem removed_released {s : Rdmabuffer β} {r : RegistrationId} {rec : RegistrationRecord}
    (hr : s.registrations.lookup r = some rec) (hl : rec.lifecycle.isLive = true) (hn : rec.leaseCount = 0)
    {leases : List RegistrationLeaseId} (hok : ((revokedAndReleased s r leases).deregister r).2.1 = true) :
    releases s rec = true ∧ ∃ backends, ((revokedAndReleased s r leases).deregister r).1 =
      removed (revokedAndReleased s r leases) r (hardRevoked rec) backends := by
  obtain ⟨backends, e, hd⟩ := deregister_released hr hl hn leases
  rw [hd] at hok ⊢
  have hok : releases s rec = true := hok
  exact ⟨hok, backends, by rw [if_pos hok]⟩

omit [IBackend β] in
/-- The removal leaves the books of the others, if the counters held the record beside them. -/
theorem onBooks_removed {s s' : Rdmabuffer β} {r : RegistrationId} {rec : RegistrationRecord}
    (h : s'.acct.charges = s.acct.charges) (remaining : Charges) (backends : Table BackendId β) :
    OnBooks (removed s' r (hardRevoked rec) backends) remaining ↔ HoldsRecord s.acct rec remaining := by
  rw [← HoldsRecord.congr h]
  refine Iff.trans ?_ (balance_invalidate rec)
  exact ⟨fun h => ⟨h.active, h.locals, h.remotes, h.registered, h.pinned⟩,
    fun h => ⟨h.active, h.locals, h.remotes, h.registered, h.pinned⟩⟩

/-- A registration that the revoke frees has no lease to end, and counters that hold what is there. -/
theorem FreesRegistration.unleased {s : Rdmabuffer β} {r : RegistrationId} {rec : RegistrationRecord}
    {remaining : Charges} (hr : s.registrations.lookup r = some rec) (hl : rec.lifecycle.isLive = true)
    (h : FreesRegistration s r remaining) : Unleased s r rec remaining := by
  have hn : rec.leaseCount = 0 := by
    by_contra hn
    exact h.begins [] (by simp) (deregister_leased (afterRevoke_revoke hr hl).record hn)
  -- what the deregistration leaves where the backend lets go
  have hremoved : releases s rec = true → ∀ leases, ((revokedAndReleased s r leases).deregister r).2.1 = true ∧
      ∃ backends, ((revokedAndReleased s r leases).deregister r).1 =
        removed (revokedAndReleased s r leases) r (hardRevoked rec) backends := by
    intro hrel leases
    obtain ⟨backends, e, hd⟩ := deregister_released hr hl hn leases
    rw [hrel, if_pos rfl] at hd
    rw [hd]
    exact ⟨rfl, backends, rfl⟩
  have hcounted : releases s rec = true → ∀ leases, (∀ k ∈ leases, EndsLease s r k) →
      ActiveCounted (revokedAndReleased s r leases) := by
    intro hrel leases hk
    obtain ⟨hok, backends, hd⟩ := hremoved hrel leases
    have hc := h.leases leases hk hok
    rwa [hd, activeCounted_removed (afterRevoke_released hr hl hn leases).inactive] at hc
  refine ⟨hn, fun hrel => ?_, fun hrel => ?_⟩
  · exact leasesCovered_of_released hr hl (hcounted hrel [] (by simp))
      fun k hk => hcounted hrel [k] (by simpa using hk)
  · obtain ⟨hok, backends, hd⟩ := hremoved hrel []
    have hb := h.registrations [] (by simp) hok
    rwa [hd, onBooks_removed (afterRevoke_released hr hl hn []).charges] at hb

/-- A hard revoke frees a registration exactly if it has no lease to end, and the counters hold what is there. -/
theorem hard_revoke_frees_iff {s : Rdmabuffer β} {r : RegistrationId} {rec : RegistrationRecord}
    (hr : s.registrations.lookup r = some rec) (hl : rec.lifecycle.isLive = true) (remaining : Charges) :
    FreesRegistration s r remaining ↔ Unleased s r rec remaining := by
  refine ⟨FreesRegistration.unleased hr hl, ?_⟩
  rintro ⟨hn, hleases, hcharges⟩
  have hafter := afterRevoke_released hr hl hn
  refine ⟨fun leases _ => ?_, fun leases hk hok => ?_, fun leases _ hok => ?_⟩
  · exact deregister_unleased (hafter leases).record hn
  · obtain ⟨hrel, backends, hd⟩ := removed_released hr hl hn hok
    rw [hd, activeCounted_removed (hafter leases).inactive]
    exact activeCounted_released hr hl (hleases hrel) hk
  · obtain ⟨hrel, backends, hd⟩ := removed_released hr hl hn hok
    rw [hd, onBooks_removed (hafter leases).charges]
    exact hcharges hrel

namespace Session

/-- The page registered, and a lease on the registration. -/
def leasedPage : List (Action Backend) :=
  registration 0 page ++ [.atomic (.acquireLease ⟨1⟩ envelope 0x08)]

/-- The page and another one registered, and a lease on the registration of the other. -/
def otherLeased : List (Action Backend) :=
  registration 0 page ++ [.atomic (.createBuffer otherPage)] ++ registration 0 otherPage ++
    [.atomic (.acquireLease ⟨2⟩ envelope 0x08)]

/-- No lease is ACTIVE after the hard revoke, and the registration is refused for its leases. -/
theorem hard_revoke_refused : ∃ t rec, (interleaved Backend).Run t (after leasedPage) ∧
    (after leasedPage).runtime.registrations.lookup ⟨1⟩ = some rec ∧ rec.lifecycle.isLive = true ∧
    Table.total activeLease ((after leasedPage).runtime.revoke ⟨1⟩ .hardRevoke).1.leases = 0 ∧
    (((after leasedPage).runtime.revoke ⟨1⟩ .hardRevoke).1.deregister ⟨1⟩).2 = leasesRefusal ∧
    ∀ remaining, ¬FreesRegistration (after leasedPage).runtime ⟨1⟩ remaining := by
  have hrefused : (((after leasedPage).runtime.revoke ⟨1⟩ .hardRevoke).1.deregister ⟨1⟩).2 = leasesRefusal := by
    decide +kernel
  refine ⟨_, _, ⟨{}, rfl, System.path_run _ _⟩, rfl, by decide +kernel, by decide +kernel, hrefused, fun g h => ?_⟩
  exact h.begins [] (by simp) hrefused

theorem hard_revoke_frees_other : ∃ t rec, (interleaved Backend).Run t (after otherLeased) ∧
    (after otherLeased).runtime.acct.activeLeases.value = 1 ∧
    (after otherLeased).runtime.registrations.lookup ⟨1⟩ = some rec ∧
    FreesRegistration (after otherLeased).runtime ⟨1⟩ (Table.put ⟨2⟩ (4096, .hostPinned) ∅) := by
  refine ⟨_, _, ⟨{}, rfl, System.path_run _ _⟩, by decide +kernel, rfl, ?_⟩
  refine (hard_revoke_frees_iff rfl (by decide +kernel) _).2 ⟨by decide +kernel, fun _ => .inl ⟨?_, ?_⟩, fun _ => ?_⟩
  · decide +kernel
  · show _ = _
    decide +kernel
  · exact ⟨.inl (by decide +kernel), .inl (by decide +kernel), .inl (by decide +kernel), .inl (by decide +kernel),
      .inl (by decide +kernel)⟩

end Session

end RdmaBuffer
