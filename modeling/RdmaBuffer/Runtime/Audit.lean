/-
The audit of the counters: each counter that is decremented covers the table it counts, as long as no
registration, protection domain or lease is given back twice.
-/
import RdmaBuffer.Runtime.Counting
import RdmaBuffer.Runtime.Drawn

namespace RdmaBuffer

open Rdmabuffer

/-! ## What is charged -/

/-- A withdrawal loop took the registration off the books: it left its reason in the record. -/
def writtenOff (rec : RegistrationRecord) : Bool :=
  rec.invalidationReason == lit "memory reallocated under new generation" ||
    rec.invalidationReason == lit "protection domain destroyed"

/-- What a registration is charged with: its length and its memory domain. -/
def RegistrationRecord.extent (rec : RegistrationRecord) : UInt64 × MemoryDomain := (rec.length, rec.domain)

/-- The sum of `w` over the registrations on the books. -/
def chargeTotal (w : UInt64 × MemoryDomain → Nat) (m : Table RegistrationId RegistrationRecord) : Nat :=
  Table.total (fun rec => if writtenOff rec then 0 else w rec.extent) m

/-- Assigning a record of the same charge. -/
theorem chargeTotal_put (w : UInt64 × MemoryDomain → Nat) {m : Table RegistrationId RegistrationRecord}
    {k : RegistrationId} {rec rec' : RegistrationRecord} (hk : m.lookup k = some rec)
    (hw : writtenOff rec' = writtenOff rec) (he : rec'.extent = rec.extent) :
    chargeTotal w (Table.put k rec' m) = chargeTotal w m := by
  have := Table.total_put_old (f := fun rec => if writtenOff rec then 0 else w rec.extent) rec' hk
  simp only [hw, he] at this
  unfold chargeTotal
  omega

/-- A withdrawal loop takes off the books what it hits. -/
theorem chargeTotal_withdrawn (w : UInt64 × MemoryDomain → Nat) {hit : RegistrationRecord → Bool}
    {lc : RegistrationLifecycle} {reason : StdString} {m : Table RegistrationId RegistrationRecord}
    (hr : ∀ rec, writtenOff (withdraw lc reason rec) = true)
    (hm : ∀ k rec, m.lookup k = some rec → hit rec = true → writtenOff rec = false) :
    chargeTotal w (withdrawn hit lc reason m) + Table.total (hitting hit fun rec => w rec.extent) m =
      chargeTotal w m := by
  refine Table.total_mapVals_sub m fun k rec hk => ?_
  unfold hitting
  by_cases hh : hit rec = true
  · simp [hh, hr, hm k rec hk hh]
  · simp [hh]

/-- A new record on the books adds its charge. -/
theorem chargeTotal_new (w : UInt64 × MemoryDomain → Nat) {m : Table RegistrationId RegistrationRecord}
    {k : RegistrationId} {rec : RegistrationRecord} (hk : m.lookup k = none) (hw : writtenOff rec = false) :
    chargeTotal w (Table.put k rec m) = chargeTotal w m + w rec.extent := by
  have := Table.total_put_new (f := fun rec => if writtenOff rec then 0 else w rec.extent) rec hk
  simp only [hw, Bool.false_eq_true, if_false] at this
  exact this

theorem chargeTotal_erase (w : UInt64 × MemoryDomain → Nat) {m : Table RegistrationId RegistrationRecord}
    {k : RegistrationId} {rec : RegistrationRecord} (hk : m.lookup k = some rec) (hw : writtenOff rec = false) :
    chargeTotal w (m.erase k) + w rec.extent = chargeTotal w m := by
  have := Table.total_erase (f := fun rec => if writtenOff rec then 0 else w rec.extent) hk
  simp only [hw, Bool.false_eq_true, if_false] at this
  exact this

/-! ## The audit -/

def openDomain (de : DomainEntry) : Nat := if de.state = .destroyed then 0 else 1

def openLease (ls : Lease) : Nat := if ls.state = .released ∨ ls.state = .revoked then 0 else 1

theorem openDomain_le (de : DomainEntry) : openDomain de ≤ 1 := by unfold openDomain; split <;> omega

theorem openLease_le (ls : Lease) : openLease ls ≤ 1 := by unfold openLease; split <;> omega

def bufferBytes (be : BufferEntry) : Nat := be.descriptor.byteLength.toNat

variable {β : Type}

/-- The registration counters are the sums over the registrations on the books. -/
def Balanced (s : Rdmabuffer β) : Prop :=
  Balance s.acct (chargeTotal (fun _ => 1) s.registrations) (chargeTotal (fun c => c.1.toNat) s.registrations)
    (chargeTotal (fun c => pinnedPart c.1 c.2) s.registrations)

/-- The counter is at least `n`, and below the next id. -/
def Covers (c : Counter) (n : Nat) (next : UInt64) : Prop := n ≤ c.value.toNat ∧ c.value.toNat < next.toNat

theorem Covers.of_eq {c c' : Counter} {n : Nat} {next : UInt64} (h : Covers c n next) (hc : c' = c) :
    Covers c' n next :=
  hc ▸ h

section

variable {K V : Type} [DecidableEq K] {f : V → Nat} {m : Table K V} {c : Counter} {next : UInt64}

/-- What is put under an id that is drawn counts at most once. -/
theorem Covers.draw (h : Covers c (Table.total f m) next) (hnext : next + 1 ≠ 0) (k : K) {v : V} (hv : f v ≤ 1) :
    Covers c.increment (Table.total f (Table.put k v m)) (next + 1) := by
  obtain ⟨hle, hbelow⟩ := h
  have hsucc := UInt64.toNat_succ hnext
  have hlt := (next + 1).toNat_lt
  -- the counter is below the next id, so it does not wrap
  have hinc := increment_one (c := c) rfl (by omega)
  have hput := Table.total_put_le f m k v
  refine ⟨?_, ?_⟩
  · rw [hinc]
    omega
  · rw [hinc]
    omega

/-- What counts once is among what is counted, so the counter is not zero when it is closed. -/
theorem Covers.close (h : Covers c (Table.total f m) next) {k : K} {v : V} (hk : m.lookup k = some v) (hv : f v = 1) :
    c.decrement.1 = true ∧ ∀ v', f v' = 0 → Covers c.decrement.2 (Table.total f (Table.put k v' m)) next := by
  obtain ⟨hle, hbelow⟩ := h
  have hpos := Table.le_total (f := f) hk
  obtain ⟨n, hcount⟩ : ∃ n, c.value.toNat = n + 1 := ⟨c.value.toNat - 1, by omega⟩
  obtain ⟨haccepted, hdec⟩ := decrement_one hcount
  refine ⟨haccepted, fun v' hv' => ?_⟩
  have hput := Table.total_put_old (f := f) v' hk
  unfold Covers
  rw [hdec]
  omega

end

/-- What the counters have to do with the tables. -/
structure Audited (s : Rdmabuffer β) : Prop where
  balanced : Balanced s
  drawn : Drawn s
  intact : ∀ r rec, s.registrations.lookup r = some rec →
    rec.lifecycle.isLive = true ∨ rec.lifecycle = .registering → writtenOff rec = false
  domains : Covers s.acct.protectionDomains (Table.total openDomain s.domains) s.nextDomain
  leases : Covers s.acct.activeLeases (Table.total openLease s.leases) s.nextLease
  bytes : s.acct.liveBufferBytes.value.toNat = Table.total bufferBytes s.buffers

/-- There are fewer registrations on the books than ids drawn. -/
theorem Audited.counted {s : Rdmabuffer β} (h : Audited s) :
    chargeTotal (fun _ => 1) s.registrations ≤ s.nextRegistration.toNat := by
  have hinj : Function.Injective fun r : RegistrationId => r.value.toNat := by
    rintro ⟨a⟩ ⟨b⟩ hab
    exact congrArg (fun v : UInt64 => (⟨v⟩ : RegistrationId)) (UInt64.toNat_inj.1 hab)
  refine (Table.total_le_length (fun rec => ?_) _).trans (Table.length_le hinj h.drawn)
  split
  · exact Nat.zero_le 1
  · exact le_refl 1

theorem inDomain_live {d : ProtectionDomainId} {rec : RegistrationRecord} (h : inDomain d rec = true) :
    rec.lifecycle.isLive = true := by
  simp only [inDomain, Bool.and_eq_true] at h
  exact h.2

theorem onBuffer_live {id : BufferId} {rec : RegistrationRecord} (h : onBuffer id rec = true) :
    rec.lifecycle.isLive = true ∨ rec.lifecycle = .registering := by
  simp only [onBuffer, Bool.and_eq_true, Bool.or_eq_true, beq_iff_eq] at h
  exact h.2

theorem writtenOff_destroyed (rec : RegistrationRecord) :
    writtenOff (withdraw .revoked (lit "protection domain destroyed") rec) = true := by
  simp [writtenOff, withdraw]

theorem writtenOff_reallocated (rec : RegistrationRecord) :
    writtenOff (withdraw .stale (lit "memory reallocated under new generation") rec) = true := by
  simp [writtenOff, withdraw]

theorem writtenOff_hardRevoked (rec : RegistrationRecord) : writtenOff (hardRevoked rec) = false := by
  show (lit "hard revoke" == _ || lit "hard revoke" == _) = false
  decide

theorem writtenOff_softRevoked (rec : RegistrationRecord) : writtenOff (softRevoked rec) = false := by
  show (lit "soft revoke" == _ || lit "soft revoke" == _) = false
  decide

theorem writtenOff_committed (authority : AuthoritySnapshot) (s : Rdmabuffer β) [IBackend β] (b : β)
    (descriptor : BufferDescriptor) (backend : BackendId) (domain : ProtectionDomainId) (env : AuthorityEnvelope)
    (bout : BackendRegistration) :
    writtenOff (commitRecord authority (pending s b descriptor backend domain env) bout) = false := by
  show (([] : StdString) == _ || ([] : StdString) == _) = false
  decide

/-- The balance after a withdrawal loop. -/
theorem Audited.loop {s : Rdmabuffer β} (hi : Audited s) {hit : RegistrationRecord → Bool}
    {lc : RegistrationLifecycle} {reason : StdString} (hr : ∀ rec, writtenOff (withdraw lc reason rec) = true)
    (hl : ∀ rec, hit rec = true → rec.lifecycle.isLive = true ∨ rec.lifecycle = .registering) :
    loopAccepted hit s.registrations.entries s.acct = true ∧
      Balance (invalidated hit s.registrations s.acct)
        (chargeTotal (fun _ => 1) (withdrawn hit lc reason s.registrations))
        (chargeTotal (fun c => c.1.toNat) (withdrawn hit lc reason s.registrations))
        (chargeTotal (fun c => pinnedPart c.1 c.2) (withdrawn hit lc reason s.registrations)) := by
  have hsum : ∀ w, chargeTotal w (withdrawn hit lc reason s.registrations) +
      Table.total (hitting hit fun rec => w rec.extent) s.registrations = chargeTotal w s.registrations :=
    fun w => chargeTotal_withdrawn w hr fun k rec hk hh => hi.intact k rec hk (hl rec hh)
  have hb := hi.balanced
  unfold Balanced at hb
  rw [← hsum fun _ => 1, ← hsum fun c => c.1.toNat, ← hsum fun c => pinnedPart c.1 c.2] at hb
  exact Balance.loop s.registrations.entries hb

/-- What a hard revoke takes off the counter of leases, and what it leaves open. -/
theorem Audited.revokes {s : Rdmabuffer β} (hi : Audited s) (r : RegistrationId) :
    ∃ n, s.acct.activeLeases.value.toNat = n + (s.leases.entries.map fun e => if revokesLease r e.2 then 1 else 0).sum ∧
      n ≤ s.acct.activeLeases.value.toNat ∧
      Table.total openLease (Table.mapVals
        (fun _ ls => if revokesLease r ls then { ls with state := .revoked } else ls) s.leases) ≤ n := by
  have hsub := Table.total_mapVals_sub (f := openLease) (d := fun ls => if revokesLease r ls then 1 else 0)
    (g := fun _ ls => if revokesLease r ls then { ls with state := .revoked } else ls) s.leases fun k ls _ => by
      by_cases h : revokesLease r ls = true
      · have hst : ls.state = .active := by
          simp only [revokesLease, Bool.and_eq_true, beq_iff_eq] at h
          exact h.2
        simp [h, openLease, hst]
      · simp [h]
  have hd := hi.leases.1
  have htotal : Table.total (fun ls => if revokesLease r ls then 1 else 0) s.leases =
      (s.leases.entries.map fun e => if revokesLease r e.2 then 1 else 0).sum := rfl
  refine ⟨s.acct.activeLeases.value.toNat - (s.leases.entries.map fun e => if revokesLease r e.2 then 1 else 0).sum,
    ?_, ?_, ?_⟩ <;> omega

/-! ## Steps that give nothing back twice -/

variable [IBackend β] [Environment β]

/-- The operation gives back a registration that is off the books, a destroyed protection domain or a
revoked lease. -/
def givesBackTwice (s : Rdmabuffer β) : Option (Op β) → Bool
  | some (.deregister r) =>
    (s.registrations.lookup r).any fun rec =>
      writtenOff rec && rec.leaseCount == 0 && deregisterable rec.lifecycle && releases s rec
  | some (.atomic (.destroyProtectionDomain d)) => (s.domains.lookup d).any fun de => de.state == .destroyed
  | some (.atomic (.releaseLease lease)) => (s.leases.lookup lease).any fun ls => ls.state == .revoked
  | _ => false

omit [IBackend β] [Environment β] in
/-- The books and the five counters are as they were. -/
theorem Balanced.congr {s s' : Rdmabuffer β} (hb : Balanced s)
    (hw : ∀ w, chargeTotal w s'.registrations = chargeTotal w s.registrations)
    (ha : ∀ {n b p}, Balance s.acct n b p → Balance s'.acct n b p) : Balanced s' := by
  unfold Balanced
  rw [hw, hw, hw]
  exact ha hb

theorem balanced_effect {s s' : Rdmabuffer β} {op : AtomicOp β} (he : Effect s op s')
    (hr : Op.recovers (some (.atomic op)) = false) (hi : Audited s) : Balanced s' := by
  have hb := hi.balanced
  cases he with
  | refused op acct h ha => exact hb.of_holdings ha
  | authority op acct ha => exact hb.of_holdings ha
  | attached | controlled | bufferRefused => exact hb
  | queried request rec b acct hr h ha => exact hb.of_holdings ha
  | domainCreated node process acct ha =>
    subst ha
    exact ⟨hb.active, hb.locals, hb.remotes, hb.registered, hb.pinned⟩
  -- the loop takes the charges of the records it withdraws off the counters
  | domainDestroyed d de acct h ha =>
    subst ha
    obtain ⟨-, hb⟩ := hi.loop writtenOff_destroyed fun rec hh => .inl (inDomain_live hh)
    exact ⟨hb.active, hb.locals, hb.remotes, hb.registered, hb.pinned⟩
  | bufferCreated descriptor nextBuffer acct h ha =>
    subst ha
    exact ⟨hb.active, hb.locals, hb.remotes, hb.registered, hb.pinned⟩
  | bufferReallocated descriptor be nextBuffer acct h hg ha =>
    subst ha
    obtain ⟨-, hb⟩ := hi.loop writtenOff_reallocated fun rec hh => onBuffer_live hh
    exact ⟨hb.active, hb.locals, hb.remotes, hb.registered, hb.pinned⟩
  | leased k env needed rec ls acct h hl hv hau hls hc =>
    subst hc
    exact hb.congr (fun w => chargeTotal_put w h rfl rfl) fun hb =>
      ⟨hb.active, hb.locals, hb.remotes, hb.registered, hb.pinned⟩
  | released lease ls rec acct hls h hst ha =>
    subst ha
    exact hb.congr (fun w => chargeTotal_put w h rfl rfl) fun hb =>
      ⟨hb.active, hb.locals, hb.remotes, hb.registered, hb.pinned⟩
  | releasedAlone lease ls acct hls hst ha =>
    subst ha
    exact ⟨hb.active, hb.locals, hb.remotes, hb.registered, hb.pinned⟩
  -- a revoked record stays charged until it is deregistered
  | hardRevoked k rec leases acct h hl hls ha =>
    subst ha
    have hw := (writtenOff_hardRevoked rec).trans (hi.intact k rec h (.inl hl)).symm
    exact hb.congr (fun w => chargeTotal_put w h hw rfl) fun hb =>
      ⟨hb.active, hb.locals, hb.remotes, hb.registered, hb.pinned⟩
  | softRevoked k rec acct h hl ha =>
    have hw := (writtenOff_softRevoked rec).trans (hi.intact k rec h (.inl hl)).symm
    exact hb.congr (fun w => chargeTotal_put w h hw rfl) fun hb => hb.of_holdings ha
  | rotated k rec b h hl hb' hh => exact hb.congr (fun w => chargeTotal_put w h rfl rfl) id
  | rotatedAlone k rec h hl hb' => exact hb.congr (fun w => chargeTotal_put w h rfl rfl) id
  | recovered => cases hr

omit [Environment β] in
/-- A registration that commits under a fresh id adds its charge to each sum. -/
theorem balanced_registered {s : Rdmabuffer β} (hi : Audited s) (descriptor : BufferDescriptor) (backend : BackendId)
    (domain : ProtectionDomainId) (env : AuthorityEnvelope) (b b' : β) (bout : BackendRegistration)
    (hn : s.nextRegistration + 1 ≠ 0)
    (hbytes : chargeTotal (fun c => c.1.toNat) ((called s backend b').registerCommit
      (pending s b descriptor backend domain env) bout).1.registrations < 2 ^ 64) :
    Balanced ((called s backend b').registerCommit (pending s b descriptor backend domain env) bout).1 := by
  generalize hrec : commitRecord s.authority (pending s b descriptor backend domain env) bout = rec
  have hw : writtenOff rec = false := hrec ▸ writtenOff_committed _ s b descriptor backend domain env bout
  have hregs : ((called s backend b').registerCommit (pending s b descriptor backend domain env) bout).1.registrations =
      Table.put ⟨s.nextRegistration⟩ rec s.registrations := by rw [← hrec]; rfl
  have hacct : ((called s backend b').registerCommit (pending s b descriptor backend domain env) bout).1.acct =
      accountRegistrationCommit s.acct rec := by rw [← hrec]; rfl
  unfold Balanced
  rw [hregs] at hbytes ⊢
  rw [hacct]
  simp only [chargeTotal_new _ hi.drawn.next_free hw] at hbytes ⊢
  have hlt : (s.nextRegistration + 1).toNat < 2 ^ 64 := UInt64.toNat_lt _
  rw [UInt64.toNat_succ hn] at hlt
  refine Balance.commit hi.balanced rec ?_ hbytes ?_
  · have := hi.counted
    omega
  · refine Table.total_mono (fun rec => ?_) s.registrations
    split
    · exact le_refl _
    · exact pinnedPart_le rec.length rec.domain

/-- While it is deregistered a record is charged as before. -/
theorem chargeTotal_deregistering (w : UInt64 × MemoryDomain → Nat) {m : Table RegistrationId RegistrationRecord}
    {r : RegistrationId} {rec : RegistrationRecord} (hr : m.lookup r = some rec) :
    chargeTotal w (Table.put r { rec with lifecycle := .deregistering } m) = chargeTotal w m ∧
      (Table.put r { rec with lifecycle := .deregistering } m).lookup r =
        some { rec with lifecycle := .deregistering } :=
  ⟨chargeTotal_put w hr rfl rfl, Table.lookup_put_self _ _ _⟩

theorem balanced_opStep {s s' : Rdmabuffer β} {op : Op β} (hs : OpStep s op s') (hi : Audited s)
    (hr : Op.recovers (some op) = false) (hc : givesBackTwice s (some op) = false)
    (hn : s'.nextRegistration ≠ 0) (hbytes : chargeTotal (fun c => c.1.toNat) s'.registrations < 2 ^ 64) :
    Balanced s' := by
  have hb := hi.balanced
  cases hs with
  | atomic op s' he => exact balanced_effect he hr hi
  | registerRefused | registerFailed | deregisterRefused => exact hb
  | registered descriptor backend domain env b b' bo bout hv he ho hok hid =>
    exact balanced_registered hi descriptor backend domain env b b' bout hn hbytes
  | deregistered r rec backends hr' hn' hd hrel =>
    -- `givesBackTwice` rules out a record that is already off the books
    have hw : writtenOff rec = false := by
      simpa [givesBackTwice, hr', hn', hd, hrel.ok_eq] using hc
    have htot : ∀ w, chargeTotal w (removed s r rec backends).registrations + w rec.extent =
        chargeTotal w s.registrations := by
      intro w
      obtain ⟨hput, hk⟩ := chargeTotal_deregistering w hr'
      exact (chargeTotal_erase w hk hw).trans hput
    unfold Balanced at hb ⊢
    rw [← htot, ← htot, ← htot] at hb
    obtain ⟨-, hb⟩ := Balance.invalidate hb
    exact ⟨hb.active, hb.locals, hb.remotes, hb.registered, hb.pinned⟩
  | deregisterFailed r rec backends hr' hn' hd hrel =>
    refine hb.congr (fun w => ?_) id
    obtain ⟨hput, hk⟩ := chargeTotal_deregistering w hr'
    have hput' : chargeTotal w (failed s r rec backends).registrations =
        chargeTotal w (Table.put r { rec with lifecycle := .deregistering } s.registrations) :=
      chargeTotal_put w hk rfl rfl
    exact hput'.trans hput

/-! ## What is off the books stays unusable -/

theorem intact_effect {s s' : Rdmabuffer β} {op : AtomicOp β} (he : Effect s op s') (hi : Audited s)
    {r : RegistrationId} {rec : RegistrationRecord} (h : s'.registrations.lookup r = some rec)
    (hl : rec.lifecycle.isLive = true ∨ rec.lifecycle = .registering) : writtenOff rec = false := by
  -- only what the step does to this one record matters
  have hrec : RecordStep { runtime := s } (some (.atomic op)) r (s.registrations.lookup r)
      (s'.registrations.lookup r) := effect_recordStep _ he r
  have hint := hi.intact r
  rw [h] at hrec
  generalize s.registrations.lookup r = o, ho : some rec = o' at hrec hint
  cases hrec with
  | keep => exact hint rec ho.symm hl
  | leases rec₀ n => cases ho; exact hint rec₀ rfl hl
  | rotated rec₀ hop hlive => cases ho; exact hint rec₀ rfl hl
  | destroyed d rec₀ hop hit => cases ho; rcases hl with hl | hl <;> cases hl
  | reallocated descriptor rec₀ hop hit => cases ho; rcases hl with hl | hl <;> cases hl
  | hardRevoked rec₀ hop hlive => cases ho; exact writtenOff_hardRevoked rec₀
  | softRevoked rec₀ hop hlive => cases ho; exact writtenOff_softRevoked rec₀
  | recovered bytes state rec₀ o hop => cases ho; rcases hl with hl | hl <;> cases hl
  | committed c p bout o hop => cases hop
  | deregistering c rec₀ hop => cases hop
  | failed c d bo rec₀ hop => cases hop
  | removed c d rec₀ hop => cases hop

theorem intact_opStep {s s' : Rdmabuffer β} {op : Op β} (hs : OpStep s op s') (hi : Audited s) {r : RegistrationId}
    {rec : RegistrationRecord} (h : s'.registrations.lookup r = some rec)
    (hl : rec.lifecycle.isLive = true ∨ rec.lifecycle = .registering) : writtenOff rec = false := by
  cases hs with
  | atomic op s' he => exact intact_effect he hi h hl
  | registerRefused | deregisterRefused | registerFailed => exact hi.intact r rec h hl
  | registered descriptor backend domain env b b' bo bout hv he ho hok hid =>
    rw [registerCommit_lookup] at h
    split at h
    · obtain rfl := Option.some.inj h
      exact writtenOff_committed _ s b descriptor backend domain env bout
    · exact hi.intact r rec h hl
  | deregistered k rec₀ backends hk hn' hd hrel =>
    rw [removed_lookup] at h
    split at h
    · cases h
    · exact hi.intact r rec h hl
  | deregisterFailed k rec₀ backends hk hn' hd hrel =>
    rw [failed_lookup] at h
    split at h
    · obtain rfl := Option.some.inj h
      rcases hl with hl | hl <;> cases hl
    · exact hi.intact r rec h hl

end RdmaBuffer
