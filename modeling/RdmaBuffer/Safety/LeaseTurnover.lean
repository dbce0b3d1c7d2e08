/-
Turning the counter of lease ids round. While one lease is held, another buffer is registered, leased and deregistered
over and over, until `next_lease_` is back at the id of the lease that is held. On the way the runtime never has more
than 258 leases, and the backend makes fewer than `2 ^ 57` registrations.
-/
import RdmaBuffer.Runtime.Leases
import RdmaBuffer.Runtime.Ledgers
import RdmaBuffer.Safety.Accounting

namespace RdmaBuffer

open Rdmabuffer Session

/-! ## What the rounds keep -/

/-- No backend has repeated a handle, and there are few leases. -/
structure Feasible (s : Rdmabuffer Backend) : Prop where
  bounded : Bounded s
  leases : s.leases.entries.length ≤ 258

/-- A step between feasible states that is no recovery. -/
structure StaysFeasible (x : Lts.Transition (Rdmabuffer Backend) (Option (Op Backend))) : Prop where
  recovers : Op.recovers x.label = false
  pre : Feasible x.pre
  post : Feasible x.post

/-- Registration 1, of the other page, holds lease 1, and nothing but a registration of it stands in the way of a
registration of the page. There were `n` of these, with `m` leases between them. -/
structure Turning (n m : Nat) (b : SyntheticBackend) (s : Rdmabuffer Backend) : Prop where
  authorized : Authorized s.authority envelope
  backend : s.backends.lookup Session.synthetic = some (.synthetic b)
  alone : ∀ id b', s.backends.lookup id = some b' → id = Session.synthetic
  domain : ∃ de, s.domains.lookup ⟨1⟩ = some de ∧ de.state = .active
  buffer : ∃ be, s.buffers.lookup page.id = some be ∧ be.descriptor.generation = page.generation
  admissible : b.canRegister page = []
  nextSeq : b.nextSeq.toNat = n + 2
  nextRegistration : s.nextRegistration.toNat = n + 2
  nextLease : s.nextLease.toNat = (m + 2) % 2 ^ 64
  record : ∃ rec, s.registrations.lookup ⟨1⟩ = some rec ∧ rec.leaseCount = 1
  lease : ∃ ls, s.leases.lookup ⟨1⟩ = some ls ∧ ls.registration = ⟨1⟩

/-- Between two registrations of the page. -/
structure Vacant (n m : Nat) (s : Rdmabuffer Backend) : Prop where
  turning : ∃ b, Turning n m b s
  slot : s.activeRegistrationForBuffer.lookup page.id = none
  leases : ∀ k ls, s.leases.lookup k = some ls → k = ⟨1⟩

/-- A record of the page with no lease on it, and with its entry in the backend. -/
structure PageRecord (b : SyntheticBackend) (rec : RegistrationRecord) : Prop where
  lifecycle : rec.lifecycle = .active
  freshness : rec.freshness = .valid
  access : rec.grantedAccess = page.requestedAccess
  leaseCount : rec.leaseCount = 0
  backend : rec.backend = Session.synthetic
  entry : ∃ e, b.entries.lookup rec.backendHandle = some e

/-- While the page is registered as `r`, after `i` leases on it. -/
structure Occupied (r : RegistrationId) (n m i : Nat) (s : Rdmabuffer Backend) : Prop where
  other : r ≠ ⟨1⟩
  turning : ∃ b rec, Turning n m b s ∧ s.registrations.lookup r = some rec ∧ PageRecord b rec
  slot : s.activeRegistrationForBuffer.lookup page.id = some r
  leases : ∀ k ls, s.leases.lookup k = some ls → k = ⟨1⟩ ∨ ls.registration = r
  few : s.leases.entries.length ≤ i + 1

section

variable {n m i : Nat} {b : SyntheticBackend} {s : Rdmabuffer Backend} {r : RegistrationId}

theorem Turning.bounded (h : Turning n m b s) (hn : n + 2 ≤ 2 ^ 57) : Bounded s := by
  rintro ⟨id, b'⟩ he
  have hb' := Table.mem_entries.1 he
  obtain rfl := h.alone id b' hb'
  obtain rfl := Option.some.inj (h.backend.symm.trans hb')
  show b.nextSeq.toNat ≤ 2 ^ 57
  rw [h.nextSeq]
  exact hn

/-- No other backend comes with what the only one is changed to. -/
theorem Turning.alone_put (h : Turning n m b s) (b' : Backend) (id : BackendId) (b'' : Backend)
    (hb : (Table.put Session.synthetic b' s.backends).lookup id = some b'') : id = Session.synthetic := by
  rcases Table.lookup_put_some hb with ⟨rfl, -⟩ | ⟨-, hb⟩
  · rfl
  · exact h.alone id b'' hb

theorem Vacant.feasible (h : Vacant n m s) (hn : n + 2 ≤ 2 ^ 57) : Feasible s where
  bounded := by
    obtain ⟨b, ht⟩ := h.turning
    exact ht.bounded hn
  leases := by
    have hle := Table.length_le_of_keys [⟨1⟩] fun k ls hk => List.mem_singleton.2 (h.leases k ls hk)
    rw [List.length_singleton] at hle
    omega

theorem Occupied.feasible (h : Occupied r n m i s) (hn : n + 2 ≤ 2 ^ 57) (hi : i ≤ 257) : Feasible s where
  bounded := by
    obtain ⟨b, rec, ht, -⟩ := h.turning
    exact ht.bounded hn
  leases := h.few.trans (by omega)

/-! ## Registering the page -/

theorem Turning.validated (h : Turning n m b s) (hs : s.activeRegistrationForBuffer.lookup page.id = none) :
    Validated s page Session.synthetic ⟨1⟩ envelope (.synthetic b) where
  authorized := h.authorized
  backend := h.backend
  domain := h.domain
  range := by decide
  buffer := h.buffer
  slot := hs
  admissible := h.admissible

/-- The backend takes the page, under a new handle. -/
theorem takes_page (h : b.canRegister page = []) (ctx : RegistrationContext) : ∃ b' bo,
    IBackend.registerBuffer (Backend.synthetic b) page ctx =
      (.synthetic b', bo, b.makeRegistration (b.regionAt b.nextSeq) page ctx) ∧
    bo.ok = true ∧ b'.nextSeq = b.nextSeq + 1 ∧ b'.canRegister page = [] ∧
    ∃ e, b'.entries.lookup (SyntheticBackend.makeHandle (b.regionAt b.nextSeq)) = some e := by
  have hr : IBackend.registerBuffer (Backend.synthetic b) page ctx =
      Backend.onSynthetic (b.registerBuffer page ctx) := rfl
  rw [hr, SyntheticBackend.registerBuffer, h]
  exact ⟨_, _, rfl, rfl, rfl, h, _, Table.lookup_put_self _ _ _⟩

theorem Vacant.register (h : Vacant n m s) (hn : n + 3 ≤ 2 ^ 57) :
    ∃ r, Occupied r (n + 1) m 0 ((Op.registerBuffer page Session.synthetic ⟨1⟩ envelope).run s) := by
  obtain ⟨b, ht⟩ := h.turning
  have hv := ht.validated h.slot
  obtain ⟨b', bo, hr, ho, hseq, hadm, hentry⟩ :=
    takes_page ht.admissible (registrationContext s (Backend.synthetic b) page ⟨1⟩ envelope)
  have hrun : (Op.registerBuffer page Session.synthetic ⟨1⟩ envelope).run s = _ :=
    congrArg Prod.fst (registerBuffer_accepted hv hr ho)
  have hother : (⟨s.nextRegistration⟩ : RegistrationId) ≠ ⟨1⟩ := by
    intro he
    have hone := congrArg (fun k : RegistrationId => k.value.toNat) he
    dsimp only at hone
    rw [ht.nextRegistration, UInt64.toNat_one] at hone
    omega
  rw [hrun]
  refine ⟨⟨s.nextRegistration⟩, hother, ?_, Table.lookup_put_self _ _ _, fun k ls hk => .inl (h.leases k ls hk),
    Table.length_le_of_keys [⟨1⟩] fun k ls hk => List.mem_singleton.2 (h.leases k ls hk)⟩
  refine ⟨b', _, ?_, Table.lookup_put_self _ _ _, ⟨rfl, rfl, rfl, rfl, rfl, hentry⟩⟩
  constructor
  · exact ht.authorized
  · exact Table.lookup_put_self _ _ _
  · exact ht.alone_put _
  · exact ht.domain
  · exact ht.buffer
  · exact hadm
  · rw [hseq, UInt64.toNat_add, UInt64.toNat_one, ht.nextSeq]
    omega
  · show (s.nextRegistration + 1).toNat = _
    rw [UInt64.toNat_add, UInt64.toNat_one, ht.nextRegistration]
    omega
  · exact ht.nextLease
  · obtain ⟨rec, hrec, hcount⟩ := ht.record
    exact ⟨rec, (Table.lookup_put _ _ _ _).trans ((if_neg hother.symm).trans hrec), hcount⟩
  · exact ht.lease

/-! ## A lease on it, and its release -/

theorem PageRecord.grantable {rec : RegistrationRecord} (h : PageRecord b rec) (ht : Turning n m b s) :
    grantable s rec envelope 0x08 = true := by
  have ha : decide (Authorized s.authority envelope) = true := decide_eq_true ht.authorized
  unfold RdmaBuffer.grantable
  rw [ha, h.lifecycle, h.freshness, h.access]
  decide

/-- The counter moves on, and the lease goes where the first one is not. -/
theorem Turning.turn (h : Turning n m b s) (hm : m + 1 < 2 ^ 64) (hr : r ≠ ⟨1⟩)
    {registrations : Table RegistrationId RegistrationRecord} {leases : Table RegistrationLeaseId Lease}
    {acct : Accounting} (hregs : ∀ k, k ≠ r → registrations.lookup k = s.registrations.lookup k)
    (hleases : ∀ k, k ≠ ⟨s.nextLease⟩ → leases.lookup k = s.leases.lookup k) :
    Turning n (m + 1) b
      { s with nextLease := s.nextLease + 1, leases := leases, registrations := registrations, acct := acct } where
  authorized := h.authorized
  backend := h.backend
  alone := h.alone
  domain := h.domain
  buffer := h.buffer
  admissible := h.admissible
  nextSeq := h.nextSeq
  nextRegistration := h.nextRegistration
  nextLease := by
    show (s.nextLease + 1).toNat = _
    rw [UInt64.toNat_add, UInt64.toNat_one, h.nextLease]
    omega
  record := by
    obtain ⟨rec, hrec, hcount⟩ := h.record
    exact ⟨rec, (hregs _ hr.symm).trans hrec, hcount⟩
  lease := by
    obtain ⟨ls, hls, hreg⟩ := h.lease
    refine ⟨ls, (hleases _ ?_).trans hls, hreg⟩
    -- the counter is not yet back at 1
    intro he
    have hone := congrArg (fun k : RegistrationLeaseId => k.value.toNat) he
    dsimp only at hone
    rw [h.nextLease, UInt64.toNat_one] at hone
    omega

/-- A lease on the page, acquired and released. -/
theorem Occupied.lease (h : Occupied r n m i s) (hm : m + 1 < 2 ^ 64) :
    ∃ s₁, (Op.atomic (.acquireLease r envelope 0x08)).run s = s₁ ∧ s₁.backends = s.backends ∧
      s₁.leases.entries.length ≤ i + 2 ∧
      Occupied r n (m + 1) (i + 1) ((Op.atomic (.releaseLease ⟨s.nextLease⟩)).run s₁) := by
  obtain ⟨b, rec, ht, hrec, hf⟩ := h.turning
  have hrun : (Op.atomic (.acquireLease r envelope 0x08)).run s = _ := acquireLease_fst s r envelope 0x08
  rw [hrec] at hrun
  simp only [hf.grantable ht, if_true] at hrun
  refine ⟨_, hrun, rfl, ?_, ?_⟩
  · exact (Table.length_put_le _ _ _).trans (Nat.succ_le_succ h.few)
  · rw [show (Op.atomic (.releaseLease ⟨s.nextLease⟩)).run _ = _ from releaseLease_fst _ ⟨s.nextLease⟩]
    simp only [Table.lookup_put_self, newLease, hf.leaseCount]
    rw [if_neg (by decide), if_pos (by decide)]
    have hother : ∀ k, k ≠ r → ∀ v w, (Table.put r v (Table.put r w s.registrations)).lookup k =
        s.registrations.lookup k := by
      intro k hk v w
      rw [Table.lookup_put, if_neg hk, Table.lookup_put, if_neg hk]
    refine ⟨h.other, ⟨b, _, ht.turn hm h.other (fun k hk => hother k hk _ _) (fun k hk => ?_),
      Table.lookup_put_self _ _ _, ?_⟩, h.slot, ?_, ?_⟩
    · rw [Table.lookup_put, if_neg hk, Table.lookup_put, if_neg hk]
    · exact ⟨hf.lifecycle, hf.freshness, hf.access, rfl, hf.backend, hf.entry⟩
    · intro k ls hk
      rcases Table.lookup_put_some hk with ⟨-, rfl⟩ | ⟨-, hk⟩
      · exact .inr rfl
      · rcases Table.lookup_put_some hk with ⟨-, rfl⟩ | ⟨-, hk⟩
        · exact .inr rfl
        · exact h.leases k ls hk
    · exact (Table.length_put_old _ (Table.lookup_put_self _ _ _)).le.trans
        ((Table.length_put_le _ _ _).trans (Nat.succ_le_succ h.few))

/-! ## Deregistering the page -/

theorem drops_page (handle : RegisterHandle) {e : SyntheticEntry} (h : b.entries.lookup handle.handle = some e) :
    ∃ b' bo, IBackend.deregisterBuffer (Backend.synthetic b) handle = (.synthetic b', bo) ∧ bo.ok = true ∧
      b'.nextSeq = b.nextSeq ∧ b'.canRegister page = b.canRegister page := by
  have hd : IBackend.deregisterBuffer (Backend.synthetic b) handle =
      Backend.onSynthetic (b.deregisterBuffer handle) := rfl
  rw [hd, SyntheticBackend.deregisterBuffer, h]
  exact ⟨_, _, rfl, rfl, rfl, rfl⟩

theorem Occupied.deregister (h : Occupied r n m i s) : Vacant n m ((Op.deregister r).run s) := by
  obtain ⟨b, rec, ht, hrec, hf⟩ := h.turning
  obtain ⟨e, he⟩ := hf.entry
  have hd : deregisterable rec.lifecycle = true := by
    rw [hf.lifecycle]
    rfl
  obtain ⟨backends, ok, expl, hrel, hrun⟩ := deregister_accepted hrec hf.leaseCount hd
  cases hrel with
  | skipped hs =>
    rw [hf.backend, ht.backend] at hs
    rcases hs with hs | hs <;> cases hs
  | called b₀ b' bo hv hb hcall =>
    rw [hf.backend, ht.backend] at hb
    obtain rfl := Option.some.inj hb
    obtain ⟨b₁, bo₁, hdrop, ho, hseq, hadm⟩ := drops_page ⟨rec.memoryRegionId, rec.backendHandle⟩ he
    obtain ⟨rfl, rfl⟩ := Prod.mk.inj (hdrop.symm.trans hcall)
    rw [ho, if_pos rfl] at hrun
    have hrun : (Op.deregister r).run s = _ := congrArg Prod.fst hrun
    rw [hrun, hf.backend]
    refine ⟨⟨b₁, ?_⟩, ?_, ?_⟩
    · constructor
      · exact ht.authorized
      · exact Table.lookup_put_self _ _ _
      · exact ht.alone_put _
      · exact ht.domain
      · exact ht.buffer
      · exact hadm.trans ht.admissible
      · rw [hseq]
        exact ht.nextSeq
      · exact ht.nextRegistration
      · exact ht.nextLease
      · obtain ⟨rec₁, hrec₁, hcount⟩ := ht.record
        exact ⟨rec₁, (removed_lookup _ _ _ _ _).trans ((if_neg h.other.symm).trans hrec₁), hcount⟩
      · obtain ⟨ls, hls, hreg⟩ := ht.lease
        refine ⟨ls, (Table.lookup_eraseIf _ _ _).trans ?_, hreg⟩
        rw [hls, Option.filter_some, hreg, if_pos]
        simpa using h.other.symm
    · refine (Table.lookup_eraseIf _ _ _).trans ?_
      rw [h.slot, Option.filter_some, beq_self_eq_true]
      rfl
    · intro k ls hk
      have hk : (Table.eraseIf _ s.leases).lookup k = some ls := hk
      rw [Table.lookup_eraseIf, Option.filter_eq_some_iff] at hk
      rcases h.leases k ls hk.1 with hone | hreg
      · exact hone
      · simp [hreg] at hk

/-! ## Rounds -/

theorem vacant_occupied (hn : n + 3 ≤ 2 ^ 57) :
    (sequential Backend).Reaches StaysFeasible (Vacant n m) fun s => ∃ r, Occupied r (n + 1) m 0 s := by
  refine .single fun s h => ?_
  obtain ⟨r, hr⟩ := h.register hn
  exact ⟨some (.registerBuffer page Session.synthetic ⟨1⟩ envelope), _, rfl,
    ⟨rfl, h.feasible (by omega), hr.feasible (by omega) (Nat.zero_le _)⟩, r, hr⟩

theorem occupied_occupied (hn : n + 2 ≤ 2 ^ 57) (hm : m + 1 < 2 ^ 64) (hi : i < 257) :
    (sequential Backend).Reaches StaysFeasible (fun s => ∃ r, Occupied r n m i s)
      fun s => ∃ r, Occupied r n (m + 1) (i + 1) s := by
  rintro s ⟨r, h⟩
  obtain ⟨s₁, hs₁, hbackends, hfew, h₂⟩ := h.lease hm
  have hf := h.feasible hn hi.le
  have hf₁ : Feasible s₁ := ⟨fun e he => hf.bounded e (hbackends ▸ he), hfew.trans (by omega)⟩
  have hacquire : (sequential Backend).step s (some (.atomic (.acquireLease r envelope 0x08))) s₁ := hs₁.symm
  have hrelease : (sequential Backend).step s₁ (some (.atomic (.releaseLease ⟨s.nextLease⟩))) _ := rfl
  refine ⟨_, _, (Lts.Path.single hacquire).snoc hrelease, ?_, r, h₂⟩
  simp only [List.forall_mem_append, List.forall_mem_singleton]
  exact ⟨⟨rfl, hf, hf₁⟩, rfl, hf₁, h₂.feasible hn hi⟩

theorem occupied_vacant (hn : n + 2 ≤ 2 ^ 57) (hi : i ≤ 257) :
    (sequential Backend).Reaches StaysFeasible (fun s => ∃ r, Occupied r n m i s) (Vacant n m) := by
  refine .single fun s h => ?_
  obtain ⟨r, h⟩ := h
  exact ⟨some (.deregister r), _, rfl, ⟨rfl, h.feasible hn hi, h.deregister.feasible hn⟩, h.deregister⟩

/-- The page is registered, leased 257 times and deregistered. -/
theorem registration_round (hn : n + 3 ≤ 2 ^ 57) (hm : m + 257 < 2 ^ 64) :
    (sequential Backend).Reaches StaysFeasible (Vacant n m) (Vacant (n + 1) (m + 257)) := by
  have hleases : (sequential Backend).Reaches StaysFeasible (fun s => ∃ r, Occupied r (n + 1) m 0 s)
      fun s => ∃ r, Occupied r (n + 1) (m + 257) 257 s :=
    .iterate (I := fun i s => ∃ r, Occupied r (n + 1) (m + i) i s) fun i hi =>
      occupied_occupied (by omega) (by omega) hi
  exact (vacant_occupied hn).trans (hleases.trans (occupied_vacant (by omega) le_rfl))

end

/-- The other page registered, with a lease on it. -/
def otherHeld : List (Op Backend) :=
  [.atomic (.createBuffer otherPage), .registerBuffer otherPage Session.synthetic ⟨1⟩ envelope,
    .atomic (.acquireLease ⟨1⟩ envelope 0x08)]

instance (s : Rdmabuffer Backend) : Decidable (Feasible s) :=
  decidable_of_iff (Bounded s ∧ s.leases.entries.length ≤ 258) ⟨fun h => ⟨h.1, h.2⟩, fun h => ⟨h.bounded, h.leases⟩⟩

instance (x : Lts.Transition (Rdmabuffer Backend) (Option (Op Backend))) : Decidable (StaysFeasible x) :=
  decidable_of_iff (Op.recovers x.label = false ∧ Feasible x.pre ∧ Feasible x.post)
    ⟨fun h => ⟨h.1, h.2.1, h.2.2⟩, fun h => ⟨h.recovers, h.pre, h.post⟩⟩

theorem vacant_otherHeld : Vacant 0 0 (afterOps otherHeld) where
  turning := by
    refine ⟨_, by decide +kernel, rfl, fun id b' hb => ?_, ⟨_, rfl, by decide +kernel⟩, ⟨_, rfl, by decide +kernel⟩,
      by decide +kernel, by decide +kernel, by decide +kernel, by decide +kernel, ⟨_, rfl, by decide +kernel⟩,
      ⟨_, rfl, by decide +kernel⟩⟩
    have hkeys : (afterOps otherHeld).backends.keys = [Session.synthetic] := by decide +kernel
    exact List.mem_singleton.1 (hkeys ▸ Table.key_mem hb)
  slot := by decide +kernel
  leases k ls hk := by
    have hkeys : (afterOps otherHeld).leases.keys = [⟨1⟩] := by decide +kernel
    exact List.mem_singleton.1 (hkeys ▸ Table.key_mem hk)

/-- After `2 ^ 64 - 1` leases on the page the next one gets the id of the lease that is held. -/
theorem lease_ids_turned : ∃ t s r n m, (sequential Backend).Run t s ∧ (∀ x ∈ t, StaysFeasible x) ∧ Occupied r n m 0 s ∧
    s.nextLease = 1 := by
  obtain ⟨q, hq⟩ : ∃ q, 257 * q + 1 = 2 ^ 64 := ⟨71777214294589695, rfl⟩
  have hr : (sequential Backend).Run (Rdmabuffer.trace {} (setup.map .atomic ++ otherHeld))
      (afterOps otherHeld) := ⟨{}, rfl, Rdmabuffer.path_run _ _⟩
  have hsmall : ∀ x ∈ Rdmabuffer.trace {} (setup.map .atomic ++ otherHeld), StaysFeasible x := by decide +kernel
  have hrounds : (sequential Backend).Reaches StaysFeasible (Vacant 0 0) (Vacant q (257 * q)) :=
    .iterate (I := fun i => Vacant i (257 * i)) fun i hi => registration_round (by omega) (by omega)
  obtain ⟨t, s, hp, ht, r, h⟩ := hrounds.trans (vacant_occupied (by omega)) _ vacant_otherHeld
  refine ⟨_, s, r, q + 1, 257 * q, hr.append hp, List.forall_mem_append.2 ⟨hsmall, ht⟩, h, ?_⟩
  obtain ⟨b, rec, hturn, -⟩ := h.turning
  rw [← UInt64.toNat_inj, hturn.nextLease, UInt64.toNat_one]
  omega

end RdmaBuffer
