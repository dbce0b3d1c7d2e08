/-
Reference counts and leases, between recoveries. As long as the counters that issue lease and registration ids do
not wrap, the lease count of every record is the number of its leases that are not released, in every state of
every interleaving, so that no deregistration that goes through erases an ACTIVE lease. The counters are 64 bits
wide and nothing checks them: once the one of the leases comes round to the id of a lease that is held, that lease is
overwritten and still counted.
-/
import RdmaBuffer.Runtime.Draining
import RdmaBuffer.Safety.Identity
import RdmaBuffer.Safety.LeaseTurnover

namespace RdmaBuffer

open Rdmabuffer

/-! ## The leases that are held -/

/-- The lease is held on the registration: it is not released. -/
def heldLease (registration : RegistrationId) (ls : Lease) : Nat :=
  if ls.registration = registration ∧ ls.state ≠ .released then 1 else 0

theorem heldLease_le (registration : RegistrationId) (ls : Lease) : heldLease registration ls ≤ 1 := by
  unfold heldLease
  split <;> omega

section

variable {β : Type}

/-- The ids of the leases are below the counter that issues them. -/
def LeasesBelow (s : Rdmabuffer β) : Prop :=
  ∀ k ls, s.leases.lookup k = some ls → k.value.toNat < s.nextLease.toNat

theorem LeasesBelow.free {s : Rdmabuffer β} (h : LeasesBelow s) : s.leases.lookup ⟨s.nextLease⟩ = none := by
  by_contra hne
  obtain ⟨ls, hls⟩ := Option.ne_none_iff_exists'.1 hne
  exact absurd (h _ ls hls) (lt_irrefl _)

theorem LeasesBelow.held_le {s : Rdmabuffer β} (h : LeasesBelow s) (r : RegistrationId) :
    Table.total (heldLease r) s.leases ≤ s.nextLease.toNat := by
  have hinj : Function.Injective fun k : RegistrationLeaseId => k.value.toNat := by
    rintro ⟨a⟩ ⟨b⟩ hab
    exact congrArg _ (UInt64.toNat_inj.1 hab)
  exact (Table.total_le_length (heldLease_le r) s.leases).trans (Table.length_le hinj h)

theorem held_issue {s : Rdmabuffer β} (h : LeasesBelow s) {ls : Lease} (hls : ls.state = .active) (r : RegistrationId) :
    Table.total (heldLease r) ((LeaseOp.issue ls).leases s) =
      Table.total (heldLease r) s.leases + if ls.registration = r then 1 else 0 := by
  have hput := Table.total_put_new (f := heldLease r) ls h.free
  simpa [LeaseOp.leases, heldLease, hls] using hput

theorem held_release {s : Rdmabuffer β} {lease : RegistrationLeaseId} {ls : Lease}
    (hk : s.leases.lookup lease = some ls) (hst : ls.state ≠ .released) (r : RegistrationId) :
    Table.total (heldLease r) ((LeaseOp.release lease ls).leases s) + (if ls.registration = r then 1 else 0) =
      Table.total (heldLease r) s.leases := by
  have hput := Table.total_put_old (f := heldLease r) { ls with state := .released } hk
  simpa [LeaseOp.leases, heldLease, hst] using hput

theorem held_revoke (s : Rdmabuffer β) (registration r : RegistrationId) :
    Table.total (heldLease r) ((LeaseOp.revoke registration).leases s) = Table.total (heldLease r) s.leases := by
  have hsub := Table.total_mapVals_sub (f := heldLease r) (d := fun _ => 0)
    (g := fun _ ls => if revokesLease registration ls then { ls with state := .revoked } else ls) s.leases
    fun k ls _ => by
      by_cases h : revokesLease registration ls = true
      · have hst : ls.state = .active := by
          simp only [revokesLease, Bool.and_eq_true, beq_iff_eq] at h
          exact h.2
        simp [h, heldLease, hst]
      · simp [h]
  have hzero : Table.total (fun _ : Lease => 0) s.leases = 0 := Table.total_eq_zero.2 fun _ _ => rfl
  rw [hzero, Nat.add_zero] at hsub
  exact hsub

theorem held_remove (s : Rdmabuffer β) {registration r : RegistrationId} (hne : registration ≠ r) :
    Table.total (heldLease r) ((LeaseOp.remove registration).leases s) = Table.total (heldLease r) s.leases := by
  have hsub := Table.total_eraseIf_sub (f := heldLease r) (d := fun _ => 0)
    (p := fun ls => ls.registration == registration) (fun ls => by
      by_cases h : ls.registration = registration
      · simp [h, heldLease, hne]
      · simp [h]) s.leases
  have hzero : Table.total (fun _ : Lease => 0) s.leases = 0 := Table.total_eq_zero.2 fun _ _ => rfl
  rw [hzero, Nat.add_zero] at hsub
  exact hsub

/-- The lease count and the number of held leases change alike. -/
theorem held_follows {s s' : Rdmabuffer β} {op : LeaseOp} (h : Follows s op s') (hf : op.Fits s) (hb : LeasesBelow s)
    (hw : s'.nextLease ≠ 0) {r : RegistrationId} (hrm : op ≠ .remove r) {n : UInt64}
    (hi : n.toNat = Table.total (heldLease r) s.leases) :
    (op.leaseCount r n).toNat = Table.total (heldLease r) s'.leases := by
  rw [← Table.total_perm _ h.leases]
  cases op with
  | none => exact hi
  | issue ls =>
    rw [held_issue hb hf.1, ← hi]
    have hle := hb.held_le r
    have hnext : s.nextLease + 1 ≠ 0 := by rw [h.nextLease] at hw; exact hw
    have hlt := (s.nextLease + 1).toNat_lt
    rw [UInt64.toNat_succ hnext] at hlt
    unfold LeaseOp.leaseCount
    dsimp only
    split
    · rw [UInt64.toNat_add, UInt64.toNat_one]
      omega
    · rfl
  | release lease ls =>
    have hsum := held_release hf.1 hf.2 r
    unfold LeaseOp.leaseCount
    dsimp only
    by_cases hr : ls.registration = r
    · -- the lease is counted, so the guard does not fire
      rw [if_pos hr, ← hi] at hsum
      have hpos : n > 0 := by
        rw [gt_iff_lt, UInt64.lt_iff_toNat_lt, UInt64.toNat_zero]
        omega
      rw [if_pos ⟨hr, hpos⟩, UInt64.toNat_sub_of_le _ _ (UInt64.le_iff_toNat_le.2 (by rw [UInt64.toNat_one]; omega)),
        UInt64.toNat_one]
      omega
    · rw [if_neg hr, ← hi, Nat.add_zero] at hsum
      rw [if_neg fun h => hr h.1, hsum]
  | revoke registration => rw [held_revoke]; exact hi
  | remove registration =>
    have hne : registration ≠ r := by
      rintro rfl
      exact hrm rfl
    rw [held_remove s hne]
    exact hi

/-- Where a lease after an operation comes from. -/
theorem lease_follows {s s' : Rdmabuffer β} {op : LeaseOp} (h : Follows s op s') (hf : op.Fits s)
    {k : RegistrationLeaseId} {ls' : Lease}
    (hk : s'.leases.lookup k = some ls') :
    (k = ⟨s.nextLease⟩ ∧ op = .issue ls') ∨
      ((∃ ls, s.leases.lookup k = some ls ∧ ls.registration = ls'.registration) ∧ op ≠ .remove ls'.registration) := by
  rw [← Table.lookup_perm h.leases] at hk
  cases op with
  | none => exact .inr ⟨⟨ls', hk, rfl⟩, by simp⟩
  | issue ls =>
    rw [LeaseOp.leases, Table.lookup_put] at hk
    split at hk
    · rename_i he
      exact .inl ⟨he, by rw [Option.some.inj hk]⟩
    · exact .inr ⟨⟨ls', hk, rfl⟩, by simp⟩
  | release lease ls =>
    rw [LeaseOp.leases, Table.lookup_put] at hk
    split at hk
    · rename_i he
      cases hk
      exact .inr ⟨⟨ls, he ▸ hf.1, rfl⟩, by simp⟩
    · exact .inr ⟨⟨ls', hk, rfl⟩, by simp⟩
  | revoke registration =>
    rw [LeaseOp.leases, Table.lookup_mapVals] at hk
    obtain ⟨ls, hls, rfl⟩ := Option.map_eq_some_iff.1 hk
    refine .inr ⟨⟨ls, hls, ?_⟩, by simp⟩
    split <;> rfl
  | remove registration =>
    rw [LeaseOp.leases, Table.lookup_eraseIf, Option.filter_eq_some_iff] at hk
    refine .inr ⟨⟨ls', hk.1, rfl⟩, ?_⟩
    intro he
    cases he
    simp at hk

/-! ## The invariant -/

variable [IBackend β] [Environment β]

def isRecover : Option (Action β) → Bool
  | some (.atomic (.recover _)) => true
  | _ => false

/-- The step is no recovery, and leaves the counters of registration and lease ids away from zero. -/
def Counted (x : Lts.Transition (System β) (Option (Action β))) : Prop :=
  isRecover x.label = false ∧ x.post.runtime.nextRegistration ≠ 0 ∧ x.post.runtime.nextLease ≠ 0

/-- Lease counts are the numbers of held leases, and leases refer to records. -/
structure Referenced (σ : System β) : Prop where
  counts : ∀ r rec, σ.runtime.registrations.lookup r = some rec →
    rec.leaseCount.toNat = Table.total (heldLease r) σ.runtime.leases
  refers : ∀ k ls, σ.runtime.leases.lookup k = some ls →
    ∃ rec, σ.runtime.registrations.lookup ls.registration = some rec

/-- What the invariant rests on: ids are issued once, and registrations in flight have no leases. -/
structure Bookkeeping (σ : System β) : Prop where
  issued : IssuedOnce σ
  pending : ∀ c p, σ.HasPending c p → p.record.leaseCount = 0
  below : LeasesBelow σ.runtime
  draining : Draining σ
  referenced : Referenced σ

omit [IBackend β] [Environment β] in
/-- A registration without a record has no leases. -/
theorem Referenced.none_held {σ : System β} (hi : Referenced σ) {r : RegistrationId}
    (hr : σ.runtime.registrations.lookup r = none) : Table.total (heldLease r) σ.runtime.leases = 0 := by
  rw [Table.total_eq_zero]
  intro e he
  obtain ⟨rec, hrec⟩ := hi.refers e.1 e.2 (Table.mem_entries.1 he)
  refine if_neg ?_
  rintro ⟨rfl, -⟩
  rw [hr] at hrec
  cases hrec

omit [IBackend β] in
theorem keepsIdsBelow_of_counted {x : Lts.Transition (System β) (Option (Action β))} (h : Counted x) :
    KeepsIdsBelow x := by
  refine ⟨?_, h.2.1⟩
  rintro ⟨bytes, state, hl, -⟩
  have := h.1
  rw [hl] at this
  cases this

omit [IBackend β] in
/-- Between recoveries, a record arrives only where there was none. -/
theorem arrives_free {σ σ' : System β} {l : Option (Action β)} (hk : Counted ⟨σ, l, σ'⟩) (hi : IssuedOnce σ)
    {r : RegistrationId} {rec' : RegistrationRecord} (ha : Arrives σ l r rec') :
    σ.runtime.registrations.lookup r = none ∧
      ∃ c p bout, l = some (.registerCommit c) ∧ σ.clients c = some (.registered p bout) ∧
        rec' = commitRecord σ.runtime.authority p bout := by
  rcases ha with ⟨c, p, bout, hl, hc, rfl, hrec⟩ | ⟨bytes, state, rec, hl, -⟩
  · exact ⟨hi.free c p (.inr ⟨bout, hc⟩), c, p, bout, hl, hc, hrec⟩
  · have := hk.1
    rw [hl] at this
    cases this

theorem leasesBelow_step {σ σ' : System β} {l : Option (Action β)} (h : (interleaved β).step σ l σ')
    (hw : σ'.runtime.nextLease ≠ 0) (hi : LeasesBelow σ.runtime) : LeasesBelow σ'.runtime := by
  have hf := follows_step h
  have hle : σ.runtime.nextLease.toNat ≤ σ'.runtime.nextLease.toNat := by
    have hnext := hf.nextLease
    unfold LeaseOp.nextLease at hnext
    split at hnext
    · rw [hnext] at hw ⊢
      rw [UInt64.toNat_succ hw]
      exact Nat.le_succ _
    · rw [hnext]
  intro k ls hk
  rcases lease_follows hf (leaseOp_fits σ l) hk with ⟨rfl, hop⟩ | ⟨⟨ls₀, hls₀, -⟩, -⟩
  · have hnext := hf.nextLease
    rw [hop] at hnext
    have hnext : σ'.runtime.nextLease = σ.runtime.nextLease + 1 := hnext
    rw [hnext] at hw ⊢
    rw [UInt64.toNat_succ hw]
    exact Nat.lt_succ_self _
  · exact (hi k ls₀ hls₀).trans_le hle

theorem referenced_step {σ σ' : System β} {l : Option (Action β)} (h : (interleaved β).step σ l σ')
    (hk : Counted ⟨σ, l, σ'⟩) (hi : Bookkeeping σ) : Referenced σ' := by
  have hf := follows_step h
  have hfits := leaseOp_fits σ l
  constructor
  · intro r rec' hr'
    have hrm : leaseOp σ l ≠ .remove r := by
      intro hop
      rw [remove_step h hop] at hr'
      cases hr'
    rcases leaseCount_step h hr' with hnew | ⟨rec, hr, hn⟩
    · obtain ⟨hnone, c, p, bout, hl, hc, rfl⟩ := arrives_free hk hi.issued hnew
      have hzero : p.record.leaseCount.toNat = Table.total (heldLease r) σ.runtime.leases := by
        rw [hi.referenced.none_held hnone, hi.pending c p (.inr ⟨bout, hc⟩)]
        rfl
      have hheld := held_follows hf hfits hi.below hk.2.2 hrm hzero
      subst hl
      exact hheld
    · rw [hn]
      exact held_follows hf hfits hi.below hk.2.2 hrm (hi.referenced.counts r rec hr)
  · intro k ls' hk'
    -- the record that was there stays, since its leases were not erased with it
    have hstays : ∀ rec, σ.runtime.registrations.lookup ls'.registration = some rec →
        leaseOp σ l ≠ .remove ls'.registration →
          ∃ rec', σ'.runtime.registrations.lookup ls'.registration = some rec' := by
      intro rec hr hrm
      rw [← Option.ne_none_iff_exists']
      intro hnone
      have hs := recordStep h ls'.registration
      rw [hr, hnone] at hs
      exact hrm (removed_leaseOp hr hs)
    rcases lease_follows hf hfits hk' with ⟨-, hop⟩ | ⟨⟨ls, hls, he⟩, hrm⟩
    · have hissue := hfits
      rw [hop] at hissue
      obtain ⟨-, rec, hr, -⟩ := hissue
      exact hstays rec hr (by rw [hop]; simp)
    · obtain ⟨rec, hr⟩ := hi.referenced.refers k ls hls
      exact hstays rec (he ▸ hr) hrm

theorem bookkeeping_step {σ σ' : System β} {l : Option (Action β)} (h : (interleaved β).step σ l σ')
    (hk : Counted ⟨σ, l, σ'⟩) (hi : Bookkeeping σ) : Bookkeeping σ' := by
  constructor
  · exact issuedOnce_step h (keepsIdsBelow_of_counted hk) hi.issued
  · intro c p hp
    rcases hasPending_step h hp with hold | ⟨descriptor, backend, domain, env, b, -, -, rfl⟩
    · exact hi.pending c p hold
    · rfl
  · exact leasesBelow_step h hk.2.2 hi.below
  · apply draining_step h _ hi.draining
    intro c d rec' hd ha
    obtain ⟨rec, hr, -⟩ := hi.draining.record c d hd
    have hnone := (arrives_free hk hi.issued ha).1
    rw [hr] at hnone
    cases hnone
  · exact referenced_step h hk hi

theorem bookkeeping_run {t : List (Lts.Transition (System β) (Option (Action β)))} {σ : System β}
    (h : (interleaved β).Run t σ) (hk : ∀ x ∈ t, Counted x) : Bookkeeping σ := by
  refine h.inv_of (I := Bookkeeping) (C := Counted) ?_ (fun _ _ _ hs hk hi => bookkeeping_step hs hk hi) hk
  rintro _ rfl
  constructor
  · exact issuedOnce_run (.nil rfl) (by simp)
  · rintro c p (hp | ⟨bout, hp⟩) <;> cases hp
  · intro k ls hls
    cases hls
  · exact draining_init
  · constructor
    · intro r rec hr
      cases hr
    · intro k ls hls
      cases hls

/-! ## The headline -/

/-- Reference counts protect the leases of a run: they are the numbers of held leases, every lease refers to a
record, a release finds a count to decrement, and no deregistration goes on, or through, on a registration with an
ACTIVE lease. -/
structure LeasesProtected (t : List (Lts.Transition (System β) (Option (Action β)))) (σ : System β) : Prop where
  referenced : Referenced σ
  released : ∀ x ∈ t, ∀ lease ls, leaseOp x.pre x.label = .release lease ls →
    ∃ rec, x.pre.runtime.registrations.lookup ls.registration = some rec ∧ rec.leaseCount > 0
  begun : ∀ x ∈ t, ∀ c r d, x.label = some (.deregisterBegin c r) → (x.pre.runtime.deregisterBegin r).2 = .ok d →
    ∀ k ls, x.pre.runtime.leases.lookup k = some ls → ls.registration = r → ls.state = .released
  erased : ∀ x ∈ t, ∀ c d, x.label = some (.deregisterFinish c) → x.pre.clients c = some (.deregistered d none) →
    ∀ k ls, x.pre.runtime.leases.lookup k = some ls → ls.registration = d.registration → ls.state = .released

omit [IBackend β] [Environment β] in
/-- On a registration without a lease count every lease is released. -/
theorem Referenced.released {σ : System β} (hi : Referenced σ) {r : RegistrationId} {rec : RegistrationRecord}
    (hr : σ.runtime.registrations.lookup r = some rec) (hz : rec.leaseCount = 0) {k : RegistrationLeaseId} {ls : Lease}
    (hls : σ.runtime.leases.lookup k = some ls) (hlr : ls.registration = r) : ls.state = .released := by
  have hcount := hi.counts r rec hr
  rw [hz, UInt64.toNat_zero, eq_comm, Table.total_eq_zero] at hcount
  have hheld := hcount ⟨k, ls⟩ (Table.mem_entries.2 hls)
  by_contra hst
  rw [heldLease, if_pos ⟨hlr, hst⟩] at hheld
  cases hheld

omit [IBackend β] [Environment β] in
/-- A release finds a count to decrement. -/
theorem Referenced.release {σ : System β} (hi : Referenced σ) {lease : RegistrationLeaseId} {ls : Lease}
    (hf : (LeaseOp.release lease ls).Fits σ.runtime) :
    ∃ rec, σ.runtime.registrations.lookup ls.registration = some rec ∧ rec.leaseCount > 0 := by
  obtain ⟨rec, hr⟩ := hi.refers lease ls hf.1
  refine ⟨rec, hr, ?_⟩
  have hle := Table.le_total (f := heldLease ls.registration) hf.1
  rw [← hi.counts _ rec hr, heldLease, if_pos ⟨rfl, hf.2⟩] at hle
  rw [gt_iff_lt, UInt64.lt_iff_toNat_lt, UInt64.toNat_zero]
  exact hle

/-- Between recoveries, in every run of interleaved clients in which the counters of registration and lease ids do
not wrap to zero, reference counts protect the leases. -/
theorem leases_protected (t : List (Lts.Transition (System β) (Option (Action β)))) (σ : System β)
    (h : (interleaved β).Run t σ) (hk : ∀ x ∈ t, Counted x) : LeasesProtected t σ := by
  have hpre : ∀ x ∈ t, Bookkeeping x.pre := by
    intro x hx
    obtain ⟨t₁, t₂, rfl, hrun, -, -⟩ := h.at_mem hx
    exact bookkeeping_run hrun fun y hy => hk y (by simp [hy])
  constructor
  · exact (bookkeeping_run h hk).referenced
  · intro x hx lease ls hop
    have hf := leaseOp_fits x.pre x.label
    rw [hop] at hf
    exact (hpre x hx).referenced.release hf
  · intro x hx c r d hl hok k ls hls hlr
    rcases deregisterBegin_cases x.pre.runtime r with ⟨e, he⟩ | ⟨rec, hr, hz, -, he⟩
    · rw [he] at hok
      cases hok
    · exact (hpre x hx).referenced.released hr hz hls hlr
  · intro x hx c d hl hc k ls hls hlr
    obtain ⟨rec, hr, -, hz⟩ := (hpre x hx).draining.record c d (.inr ⟨none, hc⟩)
    exact (hpre x hx).referenced.released hr hz hls hlr

end

open Session

/-- A lease on the registered page while it is being deregistered, and after it was. -/
def leasesAround : List (Action Backend) :=
  registration 0 page ++
    [.atomic (.acquireLease ⟨1⟩ envelope 0x08), .atomic (.releaseLease ⟨1⟩), .deregisterBegin 0 ⟨1⟩,
      .atomic (.acquireLease ⟨1⟩ envelope 0x08), .deregisterCall 0, .atomic (.releaseLease ⟨1⟩), .deregisterFinish 0]

instance (x : Lts.Transition (System Backend) (Option (Action Backend))) : Decidable (Counted x) := by
  unfold Counted
  infer_instance

theorem leases_protected_around : ∃ t, (interleaved Backend).Run t (after leasesAround) ∧ t.length = 14 ∧
    LeasesProtected t (after leasesAround) := by
  have hr : (interleaved Backend).Run _ (after leasesAround) := ⟨{}, rfl, System.path_run _ _⟩
  exact ⟨_, hr, rfl, leases_protected _ _ hr (by decide +kernel)⟩

/-! ## When the counter of lease ids wraps -/

/-- A section of an operation leaves the leases as they were before the operation, or as they are after it. -/
theorem SectionOf.leases {y : Lts.Transition (Rdmabuffer Backend) (Option (Op Backend))}
    {x : Lts.Transition (System Backend) (Option (Action Backend))} (h : SectionOf y x)
    (hstep : (sequential Backend).step y.pre y.label y.post) :
    x.post.runtime.leases.entries.Perm y.pre.leases.entries ∨ x.post.runtime.leases = y.post.leases := by
  have hkeep : ∀ (σ : System Backend) a, leaseOp σ (some a) = .none →
      (σ.exec a).runtime.leases.entries.Perm σ.runtime.leases.entries := by
    intro σ a ha
    have hf : Follows σ.runtime (leaseOp σ (some a)) (σ.exec a).runtime :=
      follows_step (show (interleaved Backend).step σ (some a) (σ.exec a) from rfl)
    rw [ha] at hf
    exact hf.leases.symm
  obtain ⟨u, l, v⟩ := y
  cases l with
  | none =>
    obtain rfl : x = ⟨idle u, none, idle v⟩ := h
    exact .inr rfl
  | some op =>
    obtain rfl : v = op.run u := hstep
    have hend := congrArg System.runtime (run_actions u op)
    have hx : x ∈ (idle u).trace op.actions := h
    cases op with
    | atomic op =>
      obtain rfl := List.mem_singleton.1 hx
      exact .inr rfl
    | registerBuffer descriptor backend domain env =>
      have h₁ := hkeep (idle u) (.registerBegin 0 descriptor backend domain env) rfl
      have h₂ := (hkeep _ (.registerCall 0) rfl).trans h₁
      have h₃ := (hkeep _ (.registerCommit 0) rfl).trans h₂
      rcases List.mem_cons.1 hx with rfl | hx
      · exact .inl h₁
      · rcases List.mem_cons.1 hx with rfl | hx
        · exact .inl h₂
        · obtain rfl := List.mem_singleton.1 hx
          exact .inl h₃
    | deregister registration =>
      have h₁ := hkeep (idle u) (.deregisterBegin 0 registration) rfl
      have h₂ := (hkeep _ (.deregisterCall 0) rfl).trans h₁
      rcases List.mem_cons.1 hx with rfl | hx
      · exact .inl h₁
      · rcases List.mem_cons.1 hx with rfl | hx
        · exact .inl h₂
        · obtain rfl := List.mem_singleton.1 hx
          exact .inr (congrArg Rdmabuffer.leases hend)

theorem SectionOf.isRecover {y : Lts.Transition (Rdmabuffer Backend) (Option (Op Backend))}
    {x : Lts.Transition (System Backend) (Option (Action Backend))} (h : SectionOf y x)
    (hy : Op.recovers y.label = false) : isRecover x.label = false := by
  obtain ⟨u, l, v⟩ := y
  cases l with
  | none =>
    obtain rfl : x = ⟨idle u, none, idle v⟩ := h
    rfl
  | some op =>
    have hx : x ∈ (idle u).trace op.actions := h
    cases op with
    | atomic op =>
      obtain rfl := List.mem_singleton.1 hx
      cases op <;> first | rfl | cases hy
    | registerBuffer descriptor backend domain env =>
      simp only [Op.actions, System.trace, Lts.trace, List.mem_cons, List.not_mem_nil, or_false] at hx
      rcases hx with rfl | rfl | rfl <;> rfl
    | deregister registration =>
      simp only [Op.actions, System.trace, Lts.trace, List.mem_cons, List.not_mem_nil, or_false] at hx
      rcases hx with rfl | rfl | rfl <;> rfl

/-- With at most 258 leases at any time, a registration comes to have a lease count of one and no lease: its only lease
was overwritten by one with the same id. -/
theorem lease_count_stranded : ∃ t σ, (interleaved Backend).Run t σ ∧
    (∀ x ∈ t, isRecover x.label = false ∧ x.post.runtime.leases.entries.length ≤ 258) ∧ ¬LeasesProtected t σ ∧
    (∃ rec, σ.runtime.registrations.lookup ⟨1⟩ = some rec ∧ rec.leaseCount = 1) ∧
    ∀ k ls, σ.runtime.leases.lookup k = some ls → ls.registration ≠ ⟨1⟩ := by
  obtain ⟨t, s, r, n, m, hrun, ht, h, hone⟩ := lease_ids_turned
  obtain ⟨b, rec, hturn, hrec, hf⟩ := h.turning
  obtain ⟨rec₁, hrec₁, hcount⟩ := hturn.record
  -- the lease that takes the place of lease 1
  have hs : (Op.atomic (.acquireLease r envelope 0x08)).run s = _ := acquireLease_fst s r envelope 0x08
  rw [hrec] at hs
  simp only [hf.grantable hturn, if_true] at hs
  obtain ⟨t', hrun', hsec⟩ := sequential_run hrun
  have hstep : (interleaved Backend).step (idle s) (some (.atomic (.acquireLease r envelope 0x08)))
      (idle ((Op.atomic (.acquireLease r envelope 0x08)).run s)) := rfl
  have hnone : ∀ k ls, ((Op.atomic (.acquireLease r envelope 0x08)).run s).leases.lookup k = some ls →
      ls.registration ≠ ⟨1⟩ := by
    intro k ls hk
    rw [hs] at hk
    rcases Table.lookup_put_some hk with ⟨-, rfl⟩ | ⟨hk₁, hk⟩
    · exact h.other
    · rcases h.leases k ls hk with rfl | hreg
      · exact absurd (by rw [hone]) hk₁
      · exact hreg ▸ h.other
  have hkept : ((Op.atomic (.acquireLease r envelope 0x08)).run s).registrations.lookup ⟨1⟩ = some rec₁ := by
    rw [hs]
    exact (Table.lookup_put _ _ _ _).trans ((if_neg h.other.symm).trans hrec₁)
  refine ⟨_, _, hrun'.append (.single hstep), ?_, ?_, ⟨rec₁, hkept, hcount⟩, hnone⟩
  · intro x hx
    rcases List.mem_append.1 hx with hx | hx
    · obtain ⟨y, hy, hyx⟩ := hsec x hx
      refine ⟨hyx.isRecover (ht y hy).recovers, ?_⟩
      rcases hyx.leases (hrun.step_mem hy) with hl | hl
      · rw [hl.length_eq]
        exact (ht y hy).pre.leases
      · rw [hl]
        exact (ht y hy).post.leases
    · obtain rfl := List.mem_singleton.1 hx
      refine ⟨rfl, ?_⟩
      show ((Op.atomic (.acquireLease r envelope 0x08)).run s).leases.entries.length ≤ 258
      rw [hs]
      exact (Table.length_put_le _ _ _).trans (by have := h.few; omega)
  · intro hp
    have hsum := hp.referenced.counts ⟨1⟩ rec₁ hkept
    have hzero : Table.total (heldLease ⟨1⟩) ((Op.atomic (.acquireLease r envelope 0x08)).run s).leases = 0 :=
      Table.total_eq_zero.2 fun e he => if_neg fun hc => hnone e.1 e.2 (Table.mem_entries.1 he) hc.1
    rw [hcount, UInt64.toNat_one] at hsum
    exact absurd (hsum.trans hzero) one_ne_zero

end RdmaBuffer
