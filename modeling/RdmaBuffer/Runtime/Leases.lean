/-
What a step does to the leases, read off its label and the state before: the table of leases, their counter and
the lease count of every record afterwards are functions of that.
-/
import RdmaBuffer.Runtime.Counting
import RdmaBuffer.Runtime.InFlight

namespace RdmaBuffer

open Rdmabuffer

/-! ## The operations on leases -/

section

variable {β : Type}

/-- The lease `acquire_lease` grants on a record. -/
def newLease (s : Rdmabuffer β) (registration : RegistrationId) (rec : RegistrationRecord) (env : AuthorityEnvelope)
    (needed : AccessMask) : Lease :=
  { id := ⟨s.nextLease⟩
    registration := registration
    registrationGeneration := rec.registrationGeneration
    leaseGeneration := ⟨rec.leaseCount + 1⟩
    bufferGeneration := rec.bufferGeneration
    boot := env.workerBoot
    owner := env.owner
    domain := rec.domainId
    access := needed
    state := .active
    provenance := rec.provenance }

/-- `acquire_lease` grants a lease on the record. -/
def grantable (s : Rdmabuffer β) (rec : RegistrationRecord) (env : AuthorityEnvelope) (needed : AccessMask) : Bool :=
  decide (Authorized s.authority env) && rec.lifecycle.isLive && accessSuperset rec.grantedAccess needed &&
    rec.freshness == .valid

/-- The ways a step changes the leases. -/
inductive LeaseOp
  | none
  | issue (ls : Lease)
  | release (lease : RegistrationLeaseId) (ls : Lease)
  | revoke (registration : RegistrationId)
  | remove (registration : RegistrationId)

namespace LeaseOp

/-- The leases afterwards. -/
def leases (s : Rdmabuffer β) : LeaseOp → Table RegistrationLeaseId Lease
  | .none => s.leases
  | .issue ls => Table.put ⟨s.nextLease⟩ ls s.leases
  | .release lease ls => Table.put lease { ls with state := .released } s.leases
  | .revoke registration =>
    Table.mapVals (fun _ ls => if revokesLease registration ls then { ls with state := .revoked } else ls) s.leases
  | .remove registration => Table.eraseIf (fun _ ls => ls.registration == registration) s.leases

/-- The counter of ACTIVE leases afterwards. -/
def counter (s : Rdmabuffer β) : LeaseOp → Counter
  | .none => s.acct.activeLeases
  | .issue _ => s.acct.activeLeases.increment
  | .release _ _ => s.acct.activeLeases.decrement.2
  | .revoke registration => leasesRevoked registration s.leases s.acct.activeLeases
  | .remove _ => s.acct.activeLeases

/-- The lease count of the record of `registration` afterwards, from the one before. -/
def leaseCount (registration : RegistrationId) (n : UInt64) : LeaseOp → UInt64
  | .issue ls => if ls.registration = registration then n + 1 else n
  | .release _ ls => if ls.registration = registration ∧ n > 0 then n - 1 else n
  | _ => n

/-- The id of the next lease afterwards. -/
def nextLease (s : Rdmabuffer β) : LeaseOp → UInt64
  | .issue _ => s.nextLease + 1
  | _ => s.nextLease

end LeaseOp

/-- What `acquire_lease` does to the leases. -/
def acquireOp (s : Rdmabuffer β) (registration : RegistrationId) (env : AuthorityEnvelope) (needed : AccessMask) :
    LeaseOp :=
  match s.registrations.lookup registration with
  | some rec => if grantable s rec env needed then .issue (newLease s registration rec env needed) else .none
  | none => .none

/-- What `release_lease` does to the leases. -/
def releaseOp (s : Rdmabuffer β) (lease : RegistrationLeaseId) : LeaseOp :=
  match s.leases.lookup lease with
  | some ls => if ls.state = .released then .none else .release lease ls
  | none => .none

/-- What a hard revoke does to the leases. -/
def revokeOp (s : Rdmabuffer β) (registration : RegistrationId) : LeaseOp :=
  if (s.registrations.lookup registration).any (·.lifecycle.isLive) then .revoke registration else .none

/-- What the last section of a deregistration does to the leases. -/
def removeOp (s : Rdmabuffer β) (d : PendingDeregistration) : LeaseOp :=
  if (s.registrations.lookup d.registration).isSome then .remove d.registration else .none

theorem revokeOp_live {s : Rdmabuffer β} {registration : RegistrationId} {rec : RegistrationRecord}
    (hr : s.registrations.lookup registration = some rec) (hl : rec.lifecycle.isLive = true) :
    revokeOp s registration = .revoke registration := by
  unfold revokeOp
  rw [hr, Option.any_some, if_pos hl]

variable [Environment β]

/-- What a step does to the leases. -/
def leaseOp (σ : System β) : Option (Action β) → LeaseOp
  | some (.atomic (.acquireLease registration env needed)) => acquireOp σ.runtime registration env needed
  | some (.atomic (.releaseLease lease)) => releaseOp σ.runtime lease
  | some (.atomic (.revoke registration .hardRevoke)) => revokeOp σ.runtime registration
  | some (.deregisterFinish c) =>
    match σ.clients c with
    | some (.deregistered d none) => removeOp σ.runtime d
    | _ => .none
  | _ => .none

end

/-- What the operation of a step tells of the state before it. -/
def LeaseOp.Fits {β : Type} (s : Rdmabuffer β) : LeaseOp → Prop
  | .none => True
  | .issue ls => ls.state = .active ∧
    ∃ rec, s.registrations.lookup ls.registration = some rec ∧ rec.lifecycle.isLive = true
  | .release lease ls => s.leases.lookup lease = some ls ∧ ls.state ≠ .released
  | .revoke registration => ∃ rec, s.registrations.lookup registration = some rec ∧ rec.lifecycle.isLive = true
  | .remove registration => ∃ rec, s.registrations.lookup registration = some rec

/-- Which step does what to the leases, with what it tells of the state before it. -/
inductive LeaseStep {β : Type} [Environment β] (σ : System β) : Option (Action β) → LeaseOp → Prop
  | none (l : Option (Action β)) : LeaseStep σ l .none
  | issue (registration : RegistrationId) (env : AuthorityEnvelope) (needed : AccessMask) (ls : Lease)
      (rec : RegistrationRecord) (hs : ls.state = .active)
      (hr : σ.runtime.registrations.lookup ls.registration = some rec) (hl : rec.lifecycle.isLive = true) :
      LeaseStep σ (some (.atomic (.acquireLease registration env needed))) (.issue ls)
  | release (lease : RegistrationLeaseId) (ls : Lease) (h : σ.runtime.leases.lookup lease = some ls)
      (hs : ls.state ≠ .released) : LeaseStep σ (some (.atomic (.releaseLease lease))) (.release lease ls)
  | revoke (registration : RegistrationId) (rec : RegistrationRecord)
      (hr : σ.runtime.registrations.lookup registration = some rec) (hl : rec.lifecycle.isLive = true) :
      LeaseStep σ (some (.atomic (.revoke registration .hardRevoke))) (.revoke registration)
  | remove (c : Nat) (d : PendingDeregistration) (rec : RegistrationRecord)
      (hc : σ.clients c = some (.deregistered d .none))
      (hr : σ.runtime.registrations.lookup d.registration = some rec) :
      LeaseStep σ (some (.deregisterFinish c)) (.remove d.registration)

theorem leaseOp_step {β : Type} [Environment β] (σ : System β) (l : Option (Action β)) :
    LeaseStep σ l (leaseOp σ l) := by
  unfold leaseOp
  split
  · rename_i registration env needed
    unfold acquireOp
    rcases hr : σ.runtime.registrations.lookup registration with _ | rec
    · exact .none _
    · dsimp only
      split
      · rename_i hg
        simp only [grantable, Bool.and_eq_true] at hg
        exact .issue registration env needed _ rec rfl hr hg.1.1.2
      · exact .none _
  · rename_i lease
    unfold releaseOp
    rcases hls : σ.runtime.leases.lookup lease with _ | ls
    · exact .none _
    · dsimp only
      split
      · exact .none _
      · rename_i hst
        exact .release lease ls hls hst
  · rename_i registration
    unfold revokeOp
    split
    · rename_i hl
      obtain ⟨rec, hr, hl⟩ := (Option.any_eq_true _ _).1 hl
      exact .revoke registration rec hr hl
    · exact .none _
  · rename_i c
    split
    · rename_i d hc
      unfold removeOp
      split
      · rename_i hr
        obtain ⟨rec, hr⟩ := Option.isSome_iff_exists.1 hr
        exact .remove c d rec hc hr
      · exact .none _
    · exact .none _
  · exact .none _

theorem leaseOp_fits {β : Type} [Environment β] (σ : System β) (l : Option (Action β)) :
    (leaseOp σ l).Fits σ.runtime := by
  have hs := leaseOp_step σ l
  generalize leaseOp σ l = op at hs
  cases hs with
  | none => trivial
  | issue registration env needed ls rec hst hr hl => exact ⟨hst, rec, hr, hl⟩
  | release lease ls h hst => exact ⟨h, hst⟩
  | revoke registration rec hr hl => exact ⟨rec, hr, hl⟩
  | remove c d rec hc hr => exact ⟨rec, hr⟩

/-- A record that is not live gets no new lease. -/
theorem LeaseOp.Fits.leaseCount {β : Type} {s : Rdmabuffer β} {op : LeaseOp} (h : op.Fits s) {r : RegistrationId}
    {rec : RegistrationRecord} (hr : s.registrations.lookup r = some rec) (hl : rec.lifecycle.isLive = false) :
    op.leaseCount r rec.leaseCount = rec.leaseCount ∨ rec.leaseCount > 0 ∧
      op.leaseCount r rec.leaseCount = rec.leaseCount - 1 ∧
        ∃ lease ls, op = .release lease ls ∧ ls.registration = r := by
  cases op with
  | issue ls =>
    left
    obtain ⟨-, rec', hr', hl'⟩ := h
    have hne : ls.registration ≠ r := by
      rintro rfl
      obtain rfl := Option.some.inj (hr.symm.trans hr')
      rw [hl] at hl'
      cases hl'
    exact if_neg hne
  | release lease ls =>
    by_cases hc : ls.registration = r ∧ rec.leaseCount > 0
    · exact .inr ⟨hc.2, if_pos hc, lease, ls, rfl, hc.1⟩
    · exact .inl (if_neg hc)
  | none | revoke | remove => exact .inl rfl

/-! ## A step follows its operation -/

section

variable {β : Type}

/-- The state after `s` has the leases, the counter and the next id the operation gives. -/
structure Follows (s : Rdmabuffer β) (op : LeaseOp) (s' : Rdmabuffer β) : Prop where
  leases : (op.leases s).entries.Perm s'.leases.entries
  counter : s'.acct.activeLeases = op.counter s
  nextLease : s'.nextLease = op.nextLease s

theorem Follows.refl (s : Rdmabuffer β) : Follows s .none s := ⟨.refl _, rfl, rfl⟩

/-- A lease that may be granted is entered and returned; otherwise `acquire_lease` fails and changes nothing. -/
theorem acquireLease_spec (s : Rdmabuffer β) (registration : RegistrationId) (env : AuthorityEnvelope)
    (needed : AccessMask) :
    ((s.acquireLease registration env needed).1,
      if (s.acquireLease registration env needed).2.ok then some (s.acquireLease registration env needed).2.lease
      else none) =
      match s.registrations.lookup registration with
      | some rec =>
        if grantable s rec env needed then
          ({ s with
            nextLease := s.nextLease + 1
            leases := Table.put ⟨s.nextLease⟩ (newLease s registration rec env needed) s.leases
            registrations := Table.put registration { rec with leaseCount := rec.leaseCount + 1 } s.registrations
            acct := { s.acct with activeLeases := s.acct.activeLeases.increment } },
            some (newLease s registration rec env needed))
        else (s, none)
      | none => (s, none) := by
  unfold acquireLease
  dsimp only
  rcases s.registrations.lookup registration with _ | rec
  · dsimp only
    split <;> rfl
  · dsimp only
    unfold grantable Authorized
    by_cases ha : (validateAuthority s.authority env).outcome = .allow
    · rw [if_neg (not_not_intro ha)]
      by_cases hl : rec.lifecycle.isLive = true
      · by_cases hr : accessSuperset rec.grantedAccess needed = true
        · by_cases hf : rec.freshness = .valid
          · simp [ha, hl, hr, hf, newLease]
          · simp [ha, hl, hr, hf]
        · simp [ha, hl, hr]
      · simp [ha, hl]
    · simp [ha]

/-- What `acquire_lease` leaves. -/
theorem acquireLease_fst (s : Rdmabuffer β) (registration : RegistrationId) (env : AuthorityEnvelope)
    (needed : AccessMask) :
    (s.acquireLease registration env needed).1 =
      match s.registrations.lookup registration with
      | some rec =>
        if grantable s rec env needed then
          { s with
            nextLease := s.nextLease + 1
            leases := Table.put ⟨s.nextLease⟩ (newLease s registration rec env needed) s.leases
            registrations := Table.put registration { rec with leaseCount := rec.leaseCount + 1 } s.registrations
            acct := { s.acct with activeLeases := s.acct.activeLeases.increment } }
        else s
      | none => s := by
  have hspec := congrArg Prod.fst (acquireLease_spec s registration env needed)
  dsimp only at hspec
  rw [hspec]
  rcases s.registrations.lookup registration with _ | rec
  · rfl
  · dsimp only
    split <;> rfl

/-- What `release_lease` leaves. -/
theorem releaseLease_fst (s : Rdmabuffer β) (lease : RegistrationLeaseId) :
    (s.releaseLease lease).1 =
      match s.leases.lookup lease with
      | some ls =>
        if ls.state = .released then s
        else
          { s with
            leases := Table.put lease { ls with state := .released } s.leases
            registrations :=
              match s.registrations.lookup ls.registration with
              | none => s.registrations
              | some rec =>
                if rec.leaseCount > 0 then
                  Table.put ls.registration { rec with leaseCount := rec.leaseCount - 1 } s.registrations
                else s.registrations
            acct := { s.acct with activeLeases := s.acct.activeLeases.decrement.2 } }
      | none => s := by
  unfold releaseLease
  rcases s.leases.lookup lease with _ | ls
  · rfl
  · dsimp only
    split <;> rfl

variable [IBackend β] [Environment β]

/-- The operations that touch the leases. -/
def touchesLeases : AtomicOp β → Bool
  | .acquireLease _ _ _ | .releaseLease _ | .revoke _ .hardRevoke => true
  | _ => false

/-- Every other operation leaves the leases and their counter alone. -/
theorem Follows.of_effect {s s' : Rdmabuffer β} {op : AtomicOp β} (he : Effect s op s')
    (hop : touchesLeases op = false) : Follows s .none s' := by
  cases he with
  | leased | released | releasedAlone | hardRevoked => cases hop
  | refused op acct h ha | authority op acct ha | queried request rec b acct hr h ha | softRevoked k rec acct h hl ha =>
    exact ⟨.refl _, congrArg Accounting.Holdings.activeLeases ha, rfl⟩
  | attached | controlled | bufferRefused | rotated | rotatedAlone => exact ⟨.refl _, rfl, rfl⟩
  | domainCreated node process acct ha | bufferCreated descriptor nextBuffer acct h ha =>
    subst ha
    exact ⟨.refl _, rfl, rfl⟩
  | domainDestroyed d de acct h ha =>
    subst ha
    exact ⟨.refl _, (invalidated_frame (inDomain d) s.registrations.entries s.acct).1, rfl⟩
  | bufferReallocated descriptor be nextBuffer acct h hg ha =>
    subst ha
    exact ⟨.refl _, (invalidated_frame (onBuffer (bufferTarget s descriptor)) s.registrations.entries s.acct).1, rfl⟩
  | recovered bytes state hp =>
    have hspec := restore_spec s state
    have hacct := restore_resources s state
    simp only [Accounting.resources, List.cons.injEq, and_true] at hacct
    refine ⟨?_, hacct.2.2.2.2.2, hspec.nextLease⟩
    rw [hspec.leases]
    exact .refl _

omit [Environment β] [IBackend β] in
theorem acquireLease_follows (s : Rdmabuffer β) (registration : RegistrationId) (env : AuthorityEnvelope)
    (needed : AccessMask) :
    Follows s (acquireOp s registration env needed) (s.acquireLease registration env needed).1 := by
  rw [acquireLease_fst, acquireOp]
  rcases s.registrations.lookup registration with _ | rec
  · exact .refl _
  · dsimp only
    split
    · exact ⟨.refl _, rfl, rfl⟩
    · exact .refl _

omit [Environment β] [IBackend β] in
theorem releaseLease_follows (s : Rdmabuffer β) (lease : RegistrationLeaseId) :
    Follows s (releaseOp s lease) (s.releaseLease lease).1 := by
  rw [releaseLease_fst, releaseOp]
  rcases s.leases.lookup lease with _ | ls
  · exact .refl _
  · dsimp only
    split
    · exact .refl _
    · exact ⟨.refl _, rfl, rfl⟩

omit [Environment β] [IBackend β] in
theorem hardRevoke_follows (s : Rdmabuffer β) (registration : RegistrationId) :
    Follows s (revokeOp s registration) (s.revoke registration .hardRevoke).1 := by
  unfold revoke revokeOp
  rcases hr : s.registrations.lookup registration with _ | rec
  · exact .refl _
  · simp only [Option.any_some]
    by_cases hl : rec.lifecycle.isLive = true
    · simp only [hl, Bool.not_true, Bool.false_eq_true, if_false, if_true]
      exact ⟨.refl _, rfl, rfl⟩
    · simp only [hl, Bool.not_false, Bool.false_eq_true, if_false, if_true]
      exact .refl _

omit [Environment β] [IBackend β] in
/-- The last section of a deregistration erases the leases with the record, or neither. -/
theorem deregisterFinish_follows (s : Rdmabuffer β) (d : PendingDeregistration) (refusal : Option RegisterOutcome) :
    Follows s (if refusal.isNone then removeOp s d else .none) (s.deregisterFinish d refusal).1 := by
  unfold deregisterFinish removeOp
  rcases hr : s.registrations.lookup d.registration with _ | rec
  · cases refusal with
    | none => exact .refl _
    | some bo => exact .refl _
  · cases refusal with
    | none => exact ⟨.refl _, rfl, rfl⟩
    | some bo => exact ⟨.refl _, rfl, rfl⟩

theorem atomic_follows (σ : System β) (op : AtomicOp β) :
    Follows σ.runtime (leaseOp σ (some (.atomic op))) (op.run σ.runtime) := by
  have hframe := fun hop => Follows.of_effect (op.effect σ.runtime) hop
  cases op with
  | acquireLease registration env needed => exact acquireLease_follows σ.runtime registration env needed
  | releaseLease lease => exact releaseLease_follows σ.runtime lease
  | revoke registration mode =>
    cases mode with
    | hardRevoke => exact hardRevoke_follows σ.runtime registration
    | softRevoke => exact hframe rfl
  | _ => exact hframe rfl

theorem section_follows {σ σ' : System β} {a : Action β} (h : SectionStep σ a σ') (ha : ∀ op, a ≠ .atomic op)
    (hf : ∀ c, a ≠ .deregisterFinish c) : Follows σ.runtime .none σ'.runtime := by
  cases h with
  | atomic op s he => exact absurd rfl (ha op)
  | deregisterFinished c d refusal hc => exact absurd rfl (hf c)
  | _ => exact ⟨.refl _, rfl, rfl⟩

/-- Every step does to the leases what its operation says. -/
theorem follows_step {σ σ' : System β} {l : Option (Action β)} (h : (interleaved β).step σ l σ') :
    Follows σ.runtime (leaseOp σ l) σ'.runtime := by
  cases l with
  | none =>
    obtain ⟨hr, -⟩ := h
    rw [hr.others]
    exact ⟨hr.leases, rfl, rfl⟩
  | some a =>
    obtain rfl : σ' = σ.exec a := h
    cases a with
    | atomic op => exact atomic_follows σ op
    | deregisterFinish c =>
      unfold System.exec leaseOp
      rcases hc : σ.clients c with _ | f
      · simp only [hc]
        exact .refl _
      · cases f with
        | deregistered d refusal =>
          have hd := deregisterFinish_follows σ.runtime d refusal
          simp only [hc]
          cases refusal with
          | none => exact hd
          | some bo => exact hd
        | _ =>
          simp only [hc]
          exact .refl _
    | _ => exact section_follows (σ.exec_cases _) (by simp) (by simp)

/-! ## Lease counts -/

omit [IBackend β] [Environment β] in
theorem leaseCount_put {m : Table RegistrationId RegistrationRecord} {k : RegistrationId} {rec : RegistrationRecord}
    (hk : m.lookup k = some rec) (rec' : RegistrationRecord) (h : rec'.leaseCount = rec.leaseCount)
    (r : RegistrationId) :
    ((Table.put k rec' m).lookup r).map (·.leaseCount) = (m.lookup r).map (·.leaseCount) := by
  rw [Table.lookup_put]
  split
  · rename_i hr
    rw [hr, hk, Option.map_some, Option.map_some, h]
  · rfl

omit [IBackend β] [Environment β] in
theorem leaseCount_withdrawn (hit : RegistrationRecord → Bool) (lifecycle : RegistrationLifecycle) (reason : StdString)
    (m : Table RegistrationId RegistrationRecord) (r : RegistrationId) :
    ((withdrawn hit lifecycle reason m).lookup r).map (·.leaseCount) = (m.lookup r).map (·.leaseCount) := by
  rw [withdrawn, Table.lookup_mapVals]
  rcases m.lookup r with _ | rec
  · rfl
  · simp only [Option.map_some]
    split <;> rfl

/-- The operations that change lease counts. -/
def countsLeases : AtomicOp β → Bool
  | .acquireLease _ _ _ | .releaseLease _ | .recover _ => true
  | _ => false

/-- Every other operation keeps the lease count of every record. -/
theorem effect_leaseCount {s s' : Rdmabuffer β} {op : AtomicOp β} (he : Effect s op s')
    (hop : countsLeases op = false) (r : RegistrationId) :
    (s'.registrations.lookup r).map (·.leaseCount) = (s.registrations.lookup r).map (·.leaseCount) := by
  cases he with
  | leased | released | releasedAlone | recovered => cases hop
  | domainDestroyed | bufferReallocated => exact leaseCount_withdrawn _ _ _ _ r
  | hardRevoked k rec leases acct h => exact leaseCount_put h (hardRevoked rec) rfl r
  | softRevoked k rec acct h => exact leaseCount_put h (softRevoked rec) rfl r
  | rotated k rec b h | rotatedAlone k rec h => exact leaseCount_put h (rotated rec) rfl r
  | _ => rfl

omit [IBackend β] [Environment β] in
/-- Assigning a new lease count to the record of `k`. -/
theorem leaseCount_put_count {m : Table RegistrationId RegistrationRecord} {k : RegistrationId}
    {rec : RegistrationRecord}
    (hk : m.lookup k = some rec) (f : UInt64 → UInt64) (r : RegistrationId) :
    ((Table.put k { rec with leaseCount := f rec.leaseCount } m).lookup r).map (·.leaseCount) =
      (m.lookup r).map fun rec => if k = r then f rec.leaseCount else rec.leaseCount := by
  rw [Table.lookup_put]
  by_cases hr : r = k
  · rw [if_pos hr, hr, hk, Option.map_some, Option.map_some, if_pos rfl]
  · rw [if_neg hr]
    simp only [if_neg (Ne.symm hr)]

omit [IBackend β] [Environment β] in
theorem acquireLease_leaseCount (s : Rdmabuffer β) (registration : RegistrationId) (env : AuthorityEnvelope)
    (needed : AccessMask) (r : RegistrationId) :
    ((s.acquireLease registration env needed).1.registrations.lookup r).map (·.leaseCount) =
      (s.registrations.lookup r).map fun rec => (acquireOp s registration env needed).leaseCount r rec.leaseCount := by
  rw [acquireLease_fst, acquireOp]
  rcases hr : s.registrations.lookup registration with _ | rec
  · rfl
  · dsimp only
    split
    · exact leaseCount_put_count hr (fun n => n + 1) r
    · rfl

omit [IBackend β] [Environment β] in
theorem releaseLease_leaseCount (s : Rdmabuffer β) (lease : RegistrationLeaseId) (r : RegistrationId) :
    ((s.releaseLease lease).1.registrations.lookup r).map (·.leaseCount) =
      (s.registrations.lookup r).map fun rec => (releaseOp s lease).leaseCount r rec.leaseCount := by
  rw [releaseLease_fst, releaseOp]
  rcases s.leases.lookup lease with _ | ls
  · rfl
  dsimp only
  split
  · rfl
  unfold LeaseOp.leaseCount
  dsimp only
  rcases hk : s.registrations.lookup ls.registration with _ | rec
  · by_cases hr : ls.registration = r
    · rw [← hr, hk]
      rfl
    · simp only [hr, false_and, if_false]
  · by_cases hn : rec.leaseCount > 0
    · simp only [if_pos hn]
      rw [leaseCount_put_count hk (fun n => n - 1)]
      by_cases hr : ls.registration = r
      · rw [← hr, hk, Option.map_some, Option.map_some, if_pos rfl, if_pos ⟨rfl, hn⟩]
      · simp only [hr, false_and, if_false]
    · simp only [if_neg hn]
      by_cases hr : ls.registration = r
      · rw [← hr, hk, Option.map_some, Option.map_some, if_neg fun h => hn h.2]
      · simp only [hr, false_and, if_false]

/-- The lease count of every record after an operation other than a recovery. -/
theorem atomic_leaseCount (σ : System β) (op : AtomicOp β) (hop : ∀ bytes, op ≠ .recover bytes) (r : RegistrationId) :
    ((op.run σ.runtime).registrations.lookup r).map (·.leaseCount) =
      (σ.runtime.registrations.lookup r).map fun rec =>
        (leaseOp σ (some (.atomic op))).leaseCount r rec.leaseCount := by
  have hframe := fun h => effect_leaseCount (op.effect σ.runtime) h r
  cases op with
  | acquireLease registration env needed => exact acquireLease_leaseCount σ.runtime registration env needed r
  | releaseLease lease => exact releaseLease_leaseCount σ.runtime lease r
  | revoke registration mode =>
    have hsame : ∀ n, (leaseOp σ (some (.atomic (.revoke registration mode)))).leaseCount r n = n := by
      intro n
      cases mode with
      | softRevoke => rfl
      | hardRevoke =>
        show (revokeOp σ.runtime registration).leaseCount r n = n
        unfold revokeOp
        split <;> rfl
    simp only [hsame]
    exact hframe rfl
  | recover bytes => exact absurd rfl (hop bytes)
  | _ => exact hframe rfl

omit [IBackend β] in
/-- No section of a registration or of a deregistration counts leases. -/
theorem section_counts_none (σ : System β) {a : Action β} (ha : ∀ op, a ≠ .atomic op) (r : RegistrationId)
    (n : UInt64) :
    (leaseOp σ (some a)).leaseCount r n = n := by
  cases a with
  | atomic op => exact absurd rfl (ha op)
  | deregisterFinish c =>
    unfold leaseOp
    dsimp only
    split
    · unfold removeOp
      split <;> rfl
    · rfl
  | _ => rfl

/-- The step puts a record under `r`: one that commits, or one from a file. -/
def Arrives (σ : System β) (l : Option (Action β)) (r : RegistrationId) (rec' : RegistrationRecord) : Prop :=
  (∃ c p bout, l = some (.registerCommit c) ∧ σ.clients c = some (.registered p bout) ∧ p.record.id = r ∧
    rec' = commitRecord σ.runtime.authority p bout) ∨
  ∃ bytes state rec, l = some (.atomic (.recover (some bytes))) ∧ Persistence.parse bytes = .ok state ∧
    rec ∈ state.registrations ∧ rec.id = r ∧ rec' = recoveredRecord rec

omit [IBackend β] [Environment β] in
/-- A record whose lease count is given by that of the record before. -/
theorem exists_of_leaseCount {m m' : Table RegistrationId RegistrationRecord} {r : RegistrationId}
    {rec' : RegistrationRecord} {f : UInt64 → UInt64}
    (h : (m'.lookup r).map (·.leaseCount) = (m.lookup r).map fun rec => f rec.leaseCount)
    (hr' : m'.lookup r = some rec') : ∃ rec, m.lookup r = some rec ∧ rec'.leaseCount = f rec.leaseCount := by
  rw [hr', Option.map_some] at h
  obtain ⟨rec, hr, hrec⟩ := Option.map_eq_some_iff.1 h.symm
  exact ⟨rec, hr, hrec.symm⟩

/-- Where a record after a section comes from. -/
theorem section_leaseCount {σ σ' : System β} {a : Action β} (h : SectionStep σ a σ') (ha : ∀ op, a ≠ .atomic op)
    {r : RegistrationId} {rec' : RegistrationRecord} (hr' : σ'.runtime.registrations.lookup r = some rec') :
    Arrives σ (some a) r rec' ∨
      ∃ rec, σ.runtime.registrations.lookup r = some rec ∧ rec'.leaseCount = rec.leaseCount := by
  cases h with
  | atomic op s he => exact absurd rfl (ha op)
  | committed c p bout hc =>
    simp only [System.move, registerCommit_lookup] at hr'
    split at hr'
    · rename_i hr
      exact .inl (.inl ⟨c, p, bout, rfl, hc, hr.symm, (Option.some.inj hr').symm⟩)
    · exact .inr ⟨rec', hr', rfl⟩
  | deregisterBegun c k rec hc h hn hd =>
    have hput := leaseCount_put h { rec with lifecycle := .deregistering } rfl r
    exact .inr (exists_of_leaseCount (f := id) hput hr')
  | deregisterFinished c d refusal hc =>
    right
    simp only [System.move, deregisterFinish] at hr'
    split at hr'
    · exact ⟨rec', hr', rfl⟩
    · rename_i rec h
      have hput := leaseCount_put h { rec with lifecycle := .failed } rfl r
      exact exists_of_leaseCount (f := id) hput hr'
    · exact ⟨rec', hr', rfl⟩
    · rw [Table.lookup_erase_eq] at hr'
      split at hr'
      · cases hr'
      · exact ⟨rec', hr', rfl⟩
  | _ => exact .inr ⟨rec', hr', rfl⟩

/-- Where a record after a step comes from, and with which lease count. -/
theorem leaseCount_step {σ σ' : System β} {l : Option (Action β)} (h : (interleaved β).step σ l σ') {r : RegistrationId}
    {rec' : RegistrationRecord} (hr' : σ'.runtime.registrations.lookup r = some rec') :
    Arrives σ l r rec' ∨ ∃ rec, σ.runtime.registrations.lookup r = some rec ∧
      rec'.leaseCount = (leaseOp σ l).leaseCount r rec.leaseCount := by
  cases l with
  | none =>
    obtain ⟨hr, -⟩ := h
    rw [← Table.lookup_perm hr.registrations] at hr'
    exact .inr ⟨rec', hr', rfl⟩
  | some a =>
    obtain rfl : σ' = σ.exec a := h
    by_cases ha : ∀ op, a ≠ .atomic op
    · rcases section_leaseCount (σ.exec_cases a) ha hr' with hnew | ⟨rec, hr, hn⟩
      · exact .inl hnew
      · refine .inr ⟨rec, hr, ?_⟩
        rw [section_counts_none σ ha, hn]
    · push Not at ha
      obtain ⟨op, rfl⟩ := ha
      have hr' : (op.run σ.runtime).registrations.lookup r = some rec' := hr'
      by_cases hop : ∀ bytes, op ≠ .recover bytes
      · have hc := atomic_leaseCount σ op hop r
        exact .inr (exists_of_leaseCount (f := fun n => (leaseOp σ (some (.atomic op))).leaseCount r n) hc hr')
      · push Not at hop
        obtain ⟨file, rfl⟩ := hop
        generalize (AtomicOp.recover file).run σ.runtime = s', (AtomicOp.recover file).effect σ.runtime = he at hr'
        cases he with
        | refused op acct => exact .inr ⟨rec', hr', rfl⟩
        | authority op acct => exact .inr ⟨rec', hr', rfl⟩
        | recovered bytes state hp =>
          rcases (restore_spec σ.runtime state).registration r with ⟨-, hold⟩ | ⟨rec, hm, hid, hnew⟩
          · rw [hold] at hr'
            exact .inr ⟨rec', hr', rfl⟩
          · rw [hnew] at hr'
            exact .inl (.inr ⟨bytes, state, rec, rfl, hp, hm, hid, (Option.some.inj hr').symm⟩)

/-! ## Which step does what -/

omit [IBackend β] in
theorem leaseOp_release {σ : System β} {l : Option (Action β)} {lease : RegistrationLeaseId} {ls : Lease}
    (h : leaseOp σ l = .release lease ls) : l = some (.atomic (.releaseLease lease)) := by
  have hs := leaseOp_step σ l
  rw [h] at hs
  cases hs with
  | release => rfl

/-- The record a lease is released on. -/
theorem release_step {σ σ' : System β} {l : Option (Action β)} (h : (interleaved β).step σ l σ')
    {lease : RegistrationLeaseId} {ls : Lease} (hop : leaseOp σ l = .release lease ls) {rec : RegistrationRecord}
    (hr : σ.runtime.registrations.lookup ls.registration = some rec) (hn : rec.leaseCount > 0) :
    σ'.runtime.registrations.lookup ls.registration = some { rec with leaseCount := rec.leaseCount - 1 } := by
  have hf := leaseOp_fits σ l
  rw [hop] at hf
  obtain rfl := leaseOp_release hop
  obtain rfl : σ' = _ := h
  show (σ.runtime.releaseLease lease).1.registrations.lookup _ = _
  rw [releaseLease_fst, hf.1]
  simp only [if_neg hf.2, hr, if_pos hn, Table.lookup_put, if_true]

omit [IBackend β] in
theorem leaseOp_remove {σ : System β} {l : Option (Action β)} {r : RegistrationId} (h : leaseOp σ l = .remove r) :
    ∃ c d, l = some (.deregisterFinish c) ∧ σ.clients c = some (.deregistered d none) ∧ d.registration = r ∧
      ∃ rec, σ.runtime.registrations.lookup r = some rec := by
  have hs := leaseOp_step σ l
  rw [h] at hs
  cases hs with
  | remove c d rec hc hr => exact ⟨c, d, rfl, hc, rfl, rec, hr⟩

/-- The leases of a registration go with its record. -/
theorem remove_step {σ σ' : System β} {l : Option (Action β)} (h : (interleaved β).step σ l σ') {r : RegistrationId}
    (hr : leaseOp σ l = .remove r) : σ'.runtime.registrations.lookup r = none := by
  obtain ⟨c, d, rfl, hc, rfl, rec, hrec⟩ := leaseOp_remove hr
  obtain rfl : σ' = σ.exec (.deregisterFinish c) := h
  simp only [System.exec, hc, System.move, deregisterFinish, hrec]
  exact AList.lookup_erase _ _

omit [IBackend β] in
theorem removed_leaseOp {σ : System β} {l : Option (Action β)} {r : RegistrationId} {o : RegistrationRecord}
    (hr : σ.runtime.registrations.lookup r = some o) (h : RecordStep σ l r (some o) none) :
    leaseOp σ l = .remove r := by
  cases h with
  | removed c d rec hl hc hid =>
    subst hl hid
    unfold leaseOp removeOp
    simp only [hc, hr, Option.isSome_some, if_true]

end

end RdmaBuffer
