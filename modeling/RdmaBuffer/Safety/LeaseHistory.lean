/-
Where a lease comes from and what became of it: in every interleaving the leases in the table are those that a call of
acquire_lease was granted and that were not replaced or removed since, in the state that the releases and the hard revokes
since then give them.
-/
import RdmaBuffer.Runtime.Execution
import RdmaBuffer.Runtime.Leases

namespace RdmaBuffer

open Rdmabuffer

/-! ## Fates -/

/-- What becomes of a lease of the registration `r` under the id `lease`. -/
def LeaseOp.fate (lease : RegistrationLeaseId) (r : RegistrationId) (state : LeaseState) : LeaseOp → LeaseState
  | .release k _ => if k = lease then .released else state
  | .revoke k => if k = r ∧ state = .active then .revoked else state
  | _ => state

section

variable {β : Type} [IBackend β] [Environment β]

/-- The state of a lease of `r` after the steps, where it was ACTIVE before them. -/
def fateSince (lease : RegistrationLeaseId) (r : RegistrationId)
    (t : List (Lts.Transition (System β) (Option (Action β)))) : LeaseState :=
  t.foldl (fun state x => (leaseOp x.pre x.label).fate lease r state) .active

omit [IBackend β] in
theorem fateSince_snoc (lease : RegistrationLeaseId) (r : RegistrationId)
    (t : List (Lts.Transition (System β) (Option (Action β)))) (x : Lts.Transition (System β) (Option (Action β))) :
    fateSince lease r (t ++ [x]) = (leaseOp x.pre x.label).fate lease r (fateSince lease r t) :=
  List.foldl_concat ..

/-! ## Grants -/

/-- The step is a call of `acquire_lease` that grants the lease on a VALID record to a current authority. -/
inductive GrantsLease (x : Lts.Transition (System β) (Option (Action β))) (lease : RegistrationLeaseId) : Lease → Prop
  | granted (r : RegistrationId) (env : AuthorityEnvelope) (needed : AccessMask) (rec : RegistrationRecord)
      (hl : x.label = some (.atomic (.acquireLease r env needed))) (hid : lease = ⟨x.pre.runtime.nextLease⟩)
      (hr : x.pre.runtime.registrations.lookup r = some rec) (hg : grantable x.pre.runtime rec env needed = true) :
      GrantsLease x lease (newLease x.pre.runtime r rec env needed)

omit [IBackend β] in
theorem leaseOp_issue {σ : System β} {l : Option (Action β)} {ls : Lease} (h : leaseOp σ l = .issue ls) (σ' : System β) :
    GrantsLease ⟨σ, l, σ'⟩ ⟨σ.runtime.nextLease⟩ ls := by
  unfold leaseOp at h
  split at h
  · rename_i r env needed
    unfold acquireOp at h
    rcases hr : σ.runtime.registrations.lookup r with _ | rec
    · rw [hr] at h
      cases h
    · rw [hr] at h
      dsimp only at h
      split at h
      · rename_i hg
        cases h
        exact .granted r env needed rec rfl rfl hr hg
      · cases h
  · unfold releaseOp at h
    split at h
    · split at h <;> cases h
    · cases h
  · unfold revokeOp at h
    split at h <;> cases h
  · split at h
    · unfold removeOp at h
      split at h <;> cases h
    · cases h
  · cases h

omit [IBackend β] in
theorem GrantsLease.op {x : Lts.Transition (System β) (Option (Action β))} {lease : RegistrationLeaseId} {ls : Lease}
    (h : GrantsLease x lease ls) :
    leaseOp x.pre x.label = .issue ls ∧ lease = ⟨x.pre.runtime.nextLease⟩ ∧ ls.state = .active := by
  cases h with
  | granted r env needed rec hl hid hr hg =>
    refine ⟨?_, hid, rfl⟩
    rw [hl]
    show acquireOp _ _ _ _ = _
    simp only [acquireOp, hr, hg, if_true]

/-! ## Steps -/

/-- What a step leaves of a lease that is there after it, where the step does not issue it. -/
theorem lease_step {σ σ' : System β} {l : Option (Action β)} (h : (interleaved β).step σ l σ')
    {lease : RegistrationLeaseId} {ls' : Lease} (hls' : σ'.runtime.leases.lookup lease = some ls')
    (hno : ∀ ls, ¬GrantsLease ⟨σ, l, σ'⟩ lease ls) :
    ∃ ls, σ.runtime.leases.lookup lease = some ls ∧
      ls' = { ls with state := (leaseOp σ l).fate lease ls.registration ls.state } ∧
      leaseOp σ l ≠ .remove ls.registration := by
  rw [← Table.lookup_perm (follows_step h).leases] at hls'
  have hfits := leaseOp_fits σ l
  cases hop : leaseOp σ l with
  | none =>
    rw [hop] at hls'
    exact ⟨ls', hls', rfl, nofun⟩
  | issue ls =>
    rw [hop] at hls'
    have hne : lease ≠ ⟨σ.runtime.nextLease⟩ := by
      rintro rfl
      exact hno ls (leaseOp_issue hop σ')
    have hls' : (Table.put ⟨σ.runtime.nextLease⟩ ls σ.runtime.leases).lookup lease = some ls' := hls'
    rw [Table.lookup_put, if_neg hne] at hls'
    exact ⟨ls', hls', rfl, nofun⟩
  | release k ls =>
    rw [hop] at hls' hfits
    have hls' : (Table.put k { ls with state := .released } σ.runtime.leases).lookup lease = some ls' := hls'
    rw [Table.lookup_put] at hls'
    by_cases hk : lease = k
    · subst hk
      rw [if_pos rfl] at hls'
      refine ⟨ls, hfits.1, ?_, nofun⟩
      rw [← Option.some.inj hls', LeaseOp.fate, if_pos rfl]
    · rw [if_neg hk] at hls'
      refine ⟨ls', hls', ?_, nofun⟩
      rw [LeaseOp.fate, if_neg (Ne.symm hk)]
  | revoke k =>
    rw [hop] at hls'
    have hls' : (Table.mapVals (fun _ ls => if revokesLease k ls then { ls with state := .revoked } else ls)
        σ.runtime.leases).lookup lease = some ls' := hls'
    rw [Table.lookup_mapVals] at hls'
    obtain ⟨ls, hls, rfl⟩ := Option.map_eq_some_iff.1 hls'
    refine ⟨ls, hls, ?_, nofun⟩
    simp only [LeaseOp.fate, revokesLease, Bool.and_eq_true, beq_iff_eq, eq_comm (a := k)]
    split <;> rfl
  | remove k =>
    rw [hop] at hls'
    have hls' : (Table.eraseIf (fun _ ls => ls.registration == k) σ.runtime.leases).lookup lease = some ls' := hls'
    rw [Table.lookup_eraseIf, Option.filter_eq_some_iff] at hls'
    obtain ⟨hls, hne⟩ := hls'
    refine ⟨ls', hls, rfl, ?_⟩
    rintro ⟨⟩
    simp at hne

/-- A lease that a step neither issues anew nor removes is there after it. -/
theorem lease_kept {σ σ' : System β} {l : Option (Action β)} (h : (interleaved β).step σ l σ')
    {lease : RegistrationLeaseId} {ls : Lease} (hls : σ.runtime.leases.lookup lease = some ls)
    (hno : ∀ ls, ¬GrantsLease ⟨σ, l, σ'⟩ lease ls) (hrm : leaseOp σ l ≠ .remove ls.registration) :
    σ'.runtime.leases.lookup lease =
      some { ls with state := (leaseOp σ l).fate lease ls.registration ls.state } := by
  rw [← Table.lookup_perm (follows_step h).leases]
  have hfits := leaseOp_fits σ l
  cases hop : leaseOp σ l with
  | none => exact hls
  | issue ls₁ =>
    have hne : lease ≠ ⟨σ.runtime.nextLease⟩ := by
      rintro rfl
      exact hno ls₁ (leaseOp_issue hop σ')
    exact (Table.lookup_put _ _ _ _).trans ((if_neg hne).trans hls)
  | release k ls₁ =>
    rw [hop] at hfits
    refine (Table.lookup_put _ _ _ _).trans ?_
    by_cases hk : lease = k
    · subst hk
      obtain rfl := Option.some.inj (hfits.1.symm.trans hls)
      rw [if_pos rfl, LeaseOp.fate, if_pos rfl]
    · rw [if_neg hk, LeaseOp.fate, if_neg (Ne.symm hk)]
      exact hls
  | revoke k =>
    refine (Table.lookup_mapVals _ _ _).trans ?_
    rw [hls, Option.map_some]
    simp only [LeaseOp.fate, revokesLease, Bool.and_eq_true, beq_iff_eq, eq_comm (a := k)]
    split <;> rfl
  | remove k =>
    have hne : ls.registration ≠ k := fun he => hrm (by rw [hop, he])
    refine (Table.lookup_eraseIf _ _ _).trans ?_
    rw [hls, Option.filter_some, if_pos (by simpa using hne)]
    rfl

/-! ## Runs -/

/-- Along steps that neither issue it again nor remove it a lease keeps all but its state, which is its fate. -/
theorem lease_path {σ σ' : System β} {t : List (Lts.Transition (System β) (Option (Action β)))}
    (h : (interleaved β).Path σ t σ') {lease : RegistrationLeaseId} {ls₀ : Lease}
    (hls₀ : σ.runtime.leases.lookup lease = some ls₀) (hactive : ls₀.state = .active)
    (hno : ∀ z ∈ t, ∀ ls, ¬GrantsLease z lease ls) (hrm : ∀ z ∈ t, leaseOp z.pre z.label ≠ .remove ls₀.registration) :
    σ'.runtime.leases.lookup lease = some { ls₀ with state := fateSince lease ls₀.registration t } := by
  induction h with
  | nil =>
    have hfate : fateSince (β := β) lease ls₀.registration [] = ls₀.state := hactive.symm
    rw [hls₀, hfate]
  | @snoc u v t l hp hs ih =>
    have hlookup := ih (fun z hz => hno z (List.mem_append_left _ hz)) fun z hz => hrm z (List.mem_append_left _ hz)
    have hlast : (⟨u, l, v⟩ : Lts.Transition _ _) ∈ t ++ [⟨u, l, v⟩] := by simp
    rw [lease_kept hs hlookup (hno _ hlast) (hrm _ hlast), fateSince_snoc]

/-- A lease that is not issued again and is there at every step is not removed. -/
theorem lease_unremoved {σ σ' : System β} {t : List (Lts.Transition (System β) (Option (Action β)))}
    (h : (interleaved β).Path σ t σ') {lease : RegistrationLeaseId} {ls₀ : Lease}
    (hls₀ : σ.runtime.leases.lookup lease = some ls₀) (hactive : ls₀.state = .active)
    (hno : ∀ z ∈ t, ∀ ls, ¬GrantsLease z lease ls)
    (hheld : ∀ z ∈ t, ∃ ls, z.post.runtime.leases.lookup lease = some ls) :
    ∀ z ∈ t, leaseOp z.pre z.label ≠ .remove ls₀.registration := by
  induction h with
  | nil => exact fun z hz => absurd hz List.not_mem_nil
  | @snoc u v t l hp hs ih =>
    have hno' : ∀ z ∈ t, ∀ ls, ¬GrantsLease z lease ls := fun z hz => hno z (List.mem_append_left _ hz)
    have hkept := ih hno' fun z hz => hheld z (List.mem_append_left _ hz)
    have hlast : (⟨u, l, v⟩ : Lts.Transition _ _) ∈ t ++ [⟨u, l, v⟩] := by simp
    obtain ⟨ls', hls'⟩ := hheld _ hlast
    obtain ⟨ls, hls, -, hne⟩ := lease_step hs hls' (hno _ hlast)
    obtain rfl := Option.some.inj ((lease_path hp hls₀ hactive hno' hkept).symm.trans hls)
    simp only [List.forall_mem_append, List.forall_mem_singleton]
    exact ⟨hkept, hne⟩

/-- The lease is the last that the run granted under its id; its registration has not been removed since then, and its
state is what the releases and the hard revokes since then made of it. -/
def Chronicled (t : List (Lts.Transition (System β) (Option (Action β)))) (lease : RegistrationLeaseId) (ls : Lease) : Prop :=
  ∃ t₁ x t₂ ls₀, t = t₁ ++ x :: t₂ ∧ GrantsLease x lease ls₀ ∧ (∀ z ∈ t₂, ∀ ls, ¬GrantsLease z lease ls) ∧
    (∀ z ∈ t₂, leaseOp z.pre z.label ≠ .remove ls₀.registration) ∧
    ls = { ls₀ with state := fateSince lease ls₀.registration t₂ }

/-- What a granted lease is under its id after the step that grants it. -/
theorem GrantsLease.lookup {x : Lts.Transition (System β) (Option (Action β))} {lease : RegistrationLeaseId} {ls : Lease}
    (h : GrantsLease x lease ls) (hs : (interleaved β).step x.pre x.label x.post) :
    x.post.runtime.leases.lookup lease = some ls := by
  obtain ⟨hop, rfl, -⟩ := h.op
  rw [← Table.lookup_perm (follows_step hs).leases, hop]
  exact Table.lookup_put_self _ _ _

/-- In every interleaving, the leases in the table are those that the run chronicles. -/
theorem lease_chronicled {t : List (Lts.Transition (System β) (Option (Action β)))} {σ : System β}
    (h : (interleaved β).Run t σ) (lease : RegistrationLeaseId) (ls : Lease) :
    σ.runtime.leases.lookup lease = some ls ↔ Chronicled t lease ls := by
  constructor
  · intro hls
    obtain ⟨t₁, x, t₂, rfl, -, hs, hp, ⟨ls₀, hgrants⟩, hheld⟩ := h.since
      (P := fun σ => ∃ ls, σ.runtime.leases.lookup lease = some ls) (E := fun x => ∃ ls, GrantsLease x lease ls)
      (by
        rintro _ rfl ⟨ls, hls⟩
        cases hls)
      (by
        rintro σ l σ' hs ⟨ls', hls'⟩
        by_cases hi : ∃ ls, GrantsLease ⟨σ, l, σ'⟩ lease ls
        · exact .inl hi
        · obtain ⟨ls, hls, -⟩ := lease_step hs hls' fun ls h => hi ⟨ls, h⟩
          exact .inr ⟨ls, hls⟩)
      ⟨ls, hls⟩
    have hactive := hgrants.op.2.2
    have hfirst := hgrants.lookup hs
    have hno : ∀ z ∈ t₂, ∀ ls, ¬GrantsLease z lease ls := fun z hz ls hi => (hheld z hz).1 ⟨ls, hi⟩
    have hrm := lease_unremoved hp hfirst hactive hno fun z hz => (hheld z hz).2
    exact ⟨t₁, x, t₂, ls₀, rfl, hgrants, hno, hrm,
      Option.some.inj (hls.symm.trans (lease_path hp hfirst hactive hno hrm))⟩
  · rintro ⟨t₁, x, t₂, ls₀, rfl, hgrants, hno, hrm, rfl⟩
    obtain ⟨s₀, -, hp⟩ := h
    obtain ⟨u, -, hrest⟩ := hp.split t₁ (x :: t₂) rfl
    obtain ⟨rfl, hs, hp₂⟩ := hrest.head
    exact lease_path hp₂ (hgrants.lookup hs) hgrants.op.2.2 hno hrm

end

open Session

/-- Two leases, of which the first is released before a hard revoke. -/
def leaseReleasedOrRevoked : List (Action Backend) :=
  registration 0 page ++ [.atomic (.acquireLease ⟨1⟩ envelope 0x08), .atomic (.acquireLease ⟨1⟩ envelope 0x08),
    .atomic (.releaseLease ⟨1⟩), .atomic (.revoke ⟨1⟩ .hardRevoke)]

/-- The first lease stays RELEASED, and the second is REVOKED. -/
theorem lease_chronicled_both : ∃ t ls ls', (interleaved Backend).Run t (after leaseReleasedOrRevoked) ∧
    ls.state = .released ∧ ls'.state = .revoked ∧ Chronicled t ⟨1⟩ ls ∧ Chronicled t ⟨2⟩ ls' := by
  obtain ⟨t, ht⟩ := run_after leaseReleasedOrRevoked
  obtain ⟨ls, hls, hstate⟩ : ∃ ls, (after leaseReleasedOrRevoked).runtime.leases.lookup ⟨1⟩ = some ls ∧
      ls.state = .released := ⟨_, rfl, by decide +kernel⟩
  obtain ⟨ls', hls', hstate'⟩ : ∃ ls, (after leaseReleasedOrRevoked).runtime.leases.lookup ⟨2⟩ = some ls ∧
      ls.state = .revoked := ⟨_, rfl, by decide +kernel⟩
  exact ⟨t, ls, ls', ht, hstate, hstate', (lease_chronicled ht _ _).1 hls, (lease_chronicled ht _ _).1 hls'⟩

end RdmaBuffer
