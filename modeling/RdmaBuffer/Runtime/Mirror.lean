/-
The registry and its backends in step: the records and the live entries of the backends are matched
through backend and handle, and what the access check compares agrees on both sides.
-/
import RdmaBuffer.Lib.Matching
import RdmaBuffer.Runtime.Drawn
import RdmaBuffer.Runtime.Ledgers

namespace RdmaBuffer

open Rdmabuffer Backend

/-! ## The two sides -/

/-- A live entry and the generation of the backend that holds it. -/
structure Holding where
  entry : LiveEntry
  generation : BackendGeneration

/-- What the backends hold under a backend id and a handle. -/
def heldAt (m : Table BackendId Backend) (k : BackendId × StdString) : Option Holding :=
  (m.lookup k.1).bind fun b => (b.live k.2).map fun e => ⟨e, IBackend.generation b⟩

/-- Where a record says that its entry is. -/
def RegistrationRecord.entryKey (rec : RegistrationRecord) : BackendId × StdString := (rec.backend, rec.backendHandle)

/-- The record and the entry say the same. -/
structure Mirrors (rec : RegistrationRecord) (h : Holding) : Prop where
  generation : h.generation = rec.backendGeneration
  base : h.entry.base = rec.start
  length : h.entry.length = rec.length
  granted : h.entry.granted = rec.grantedAccess
  extent : rec.length = rec.descriptor.byteLength
  unrevoked : h.entry.revoked = false
  revalidated : h.entry.revalidateRequired = false
  unfailed : rec.lifecycle ≠ .failed
  live : rec.lifecycle.isLive = true → rec.freshness = .valid ∧ rec.remoteKey.revoked = false ∧
    h.entry.keyGeneration = rec.remoteKey.keyGeneration

/-- A record that is no longer live has nothing more to agree on. -/
theorem Mirrors.retire {rec rec' : RegistrationRecord} {h : Holding} (hm : Mirrors rec h)
    (hg : rec'.backendGeneration = rec.backendGeneration) (hb : rec'.start = rec.start) (hl : rec'.length = rec.length)
    (ha : rec'.grantedAccess = rec.grantedAccess) (hd : rec'.descriptor = rec.descriptor)
    (hf : rec'.lifecycle ≠ .failed) (hn : rec'.lifecycle.isLive = false) : Mirrors rec' h where
  generation := hm.generation.trans hg.symm
  base := hm.base.trans hb.symm
  length := hm.length.trans hl.symm
  granted := hm.granted.trans ha.symm
  extent := by rw [hl, hd]; exact hm.extent
  unrevoked := hm.unrevoked
  revalidated := hm.revalidated
  unfailed := hf
  live h := by rw [hn] at h; cases h

theorem heldAt_eq_some {m : Table BackendId Backend} {k : BackendId × StdString} {h : Holding} :
    heldAt m k = some h ↔
      ∃ b, m.lookup k.1 = some b ∧ b.live k.2 = some h.entry ∧ IBackend.generation b = h.generation := by
  unfold heldAt
  rw [Option.bind_eq_some_iff]
  constructor
  · rintro ⟨b, hb, he⟩
    obtain ⟨e, hl, rfl⟩ := Option.map_eq_some_iff.1 he
    exact ⟨b, hb, hl, rfl⟩
  · rintro ⟨b, hb, hl, hg⟩
    exact ⟨b, hb, by rw [hl, hg]; rfl⟩

/-! ## Changes of the backends -/

/-- A backend that moves one entry moves one holding. -/
theorem heldAt_put {m : Table BackendId Backend} {id : BackendId} {b b' : Backend} (hb : m.lookup id = some b)
    (hg : IBackend.generation b' = IBackend.generation b) {k : StdString} {o : Option LiveEntry}
    (hl : b'.live = Function.update b.live k o) :
    heldAt (Table.put id b' m) =
      Function.update (heldAt m) (id, k) (o.map fun e => ⟨e, IBackend.generation b⟩) := by
  funext ⟨id', k'⟩
  unfold heldAt
  rw [Table.lookup_put, Function.update_apply]
  by_cases hid : id' = id
  · subst hid
    rw [if_pos rfl, hb, Option.bind_some, Option.bind_some, hl, hg, Function.update_apply]
    by_cases hk : k' = k
    · subst hk; rw [if_pos rfl, if_pos rfl]
    · rw [if_neg hk, if_neg (by simp [hk])]
  · rw [if_neg hid, if_neg (by simp [hid])]

/-- A backend that keeps its entries keeps its holdings. -/
theorem heldAt_put_same {m : Table BackendId Backend} {id : BackendId} {b b' : Backend} (hb : m.lookup id = some b)
    (hg : IBackend.generation b' = IBackend.generation b) (hl : b'.live = b.live) :
    heldAt (Table.put id b' m) = heldAt m := by
  funext ⟨id', k'⟩
  unfold heldAt
  rw [Table.lookup_put]
  by_cases hid : id' = id
  · subst hid
    rw [if_pos rfl, hb, Option.bind_some, Option.bind_some, hl, hg]
  · rw [if_neg hid]

/-- A new backend holds nothing. -/
theorem heldAt_attach {m : Table BackendId Backend} {id : BackendId} {b : Backend} (hn : m.lookup id = none)
    (hl : b.live = fun _ => none) : heldAt (Table.put id b m) = heldAt m := by
  funext ⟨id', k'⟩
  unfold heldAt
  rw [Table.lookup_put]
  by_cases hid : id' = id
  · subst hid
    rw [if_pos rfl, hn, Option.bind_some, hl]
    rfl
  · rw [if_neg hid]

/-- Every backend issued what it holds, and at most `n` handles. -/
def Ledgers (n : Nat) (m : Table BackendId Backend) : Prop :=
  ∀ id b, m.lookup id = some b → Ledger.WF b.handleAt b.ledger ∧ b.nextSeq.toNat ≤ n + 1

theorem Ledgers.put {n n' : Nat} {m : Table BackendId Backend} (h : Ledgers n m) (hn : n ≤ n') {id : BackendId}
    {b b' : Backend} (hb : m.lookup id = some b) (ha : Advance b b') (hseq : b'.nextSeq.toNat ≤ n' + 1) :
    Ledgers n' (Table.put id b' m) := by
  intro id₀ b₀ hb₀
  rcases Table.lookup_put_some hb₀ with ⟨-, rfl⟩ | ⟨-, hb₀⟩
  · exact ⟨ha.handleAt ▸ ha.step.wf (h id b hb).1, hseq⟩
  · obtain ⟨hw, hle⟩ := h id₀ b₀ hb₀
    exact ⟨hw, by omega⟩

theorem Ledgers.attach {n : Nat} {m : Table BackendId Backend} (h : Ledgers n m) {id : BackendId} {b : Backend}
    (hl : b.live = fun _ => none) (hs : b.nextSeq = 1) : Ledgers n (Table.put id b m) := by
  intro id₀ b₀ hb₀
  rcases Table.lookup_put_some hb₀ with ⟨-, rfl⟩ | ⟨-, hb₀⟩
  · refine ⟨fun k hk => absurd ?_ hk, by rw [hs, UInt64.toNat_one]; omega⟩
    show b₀.live k = none
    rw [hl]
  · exact h id₀ b₀ hb₀

/-! ## The invariant -/

/-- After `n` registrations: the records and the live entries are matched, and the ids and the handles are
those of `n` registrations. -/
structure InStep (n : Nat) (s : Rdmabuffer Backend) : Prop where
  matching : Matching RegistrationRecord.entryKey Mirrors (fun r => s.registrations.lookup r) (heldAt s.backends)
  ledgers : Ledgers n s.backends
  drawn : Drawn s
  next : s.nextRegistration.toNat = n + 1

/-- The operation drives the backends through the registry: it is no recovery and no control but a
configuration. -/
def Driven : Option (Op Backend) → Prop
  | some (.atomic (.recover _)) => False
  | some (.atomic (.control _ c)) => Control.Configures c
  | _ => True

/-- A deregistration goes through without a call to the backend, because the backend's id is not valid. -/
def skipsBackend (s : Rdmabuffer Backend) : Option (Op Backend) → Bool
  | some (.deregister r) =>
    (s.registrations.lookup r).any fun rec =>
      rec.leaseCount == 0 && deregisterable rec.lifecycle && !rec.backend.isValid
  | _ => false

section Effects

variable {s : Rdmabuffer Backend} {m : Table RegistrationId RegistrationRecord}
  {live : BackendId × StdString → Option Holding}

/-- A withdrawal loop leaves the matching alone. -/
theorem matching_withdrawn (h : Matching RegistrationRecord.entryKey Mirrors (fun r => m.lookup r) live)
    (hit : RegistrationRecord → Bool) {lc : RegistrationLifecycle} (reason : StdString) (hl : lc.isLive = false)
    (hf : lc ≠ .failed) :
    Matching RegistrationRecord.entryKey Mirrors (fun r => (withdrawn hit lc reason m).lookup r) live := by
  refine h.map (fun _ rec => if hit rec then withdraw lc reason rec else rec)
    (fun r => Table.lookup_mapVals _ m r) (fun r rec _ => ?_) fun r rec e _ _ hm => ?_
  · split <;> rfl
  · split
    · exact hm.retire rfl rfl rfl rfl rfl hf hl
    · exact hm

/-- An assignment that keeps what is mirrored leaves the matching alone. -/
theorem matching_put (h : Matching RegistrationRecord.entryKey Mirrors (fun r => m.lookup r) live)
    {r : RegistrationId} {rec rec' : RegistrationRecord} (hr : m.lookup r = some rec)
    (hkey : rec'.entryKey = rec.entryKey) (hm : ∀ e, Mirrors rec e → Mirrors rec' e) :
    Matching RegistrationRecord.entryKey Mirrors (fun j => (Table.put r rec' m).lookup j) live := by
  rw [Table.lookup_put_update]
  exact h.assign hr hkey fun e _ => hm e

end Effects

theorem Mirrors.released {rec : RegistrationRecord} {h : Holding} (hm : Mirrors rec h) (n : UInt64) :
    Mirrors { rec with leaseCount := n } h :=
  ⟨hm.generation, hm.base, hm.length, hm.granted, hm.extent, hm.unrevoked, hm.revalidated, hm.unfailed, hm.live⟩

theorem Mirrors.rotated {rec : RegistrationRecord} {h : Holding} (hm : Mirrors rec h) (hl : rec.lifecycle.isLive) :
    Mirrors (Rdmabuffer.rotated rec)
      { h with
        entry :=
          { h.entry with keyGeneration := (Rdmabuffer.rotated rec).remoteKey.keyGeneration
                         revalidateRequired := false } } :=
  ⟨hm.generation, hm.base, hm.length, hm.granted, hm.extent, hm.unrevoked, rfl, hm.unfailed,
    fun _ => ⟨(hm.live hl).1, rfl, rfl⟩⟩

theorem matching_effect {n : Nat} {s s' : Rdmabuffer Backend} {op : AtomicOp Backend} (he : Effect s op s')
    (hd : Driven (some (.atomic op))) (hi : InStep n s) :
    Matching RegistrationRecord.entryKey Mirrors (fun r => s'.registrations.lookup r) (heldAt s'.backends) := by
  have hm := hi.matching
  cases he with
  | refused | authority | domainCreated | bufferRefused | bufferCreated | releasedAlone => exact hm
  -- a new backend has no live entry
  | attached spec b hb h =>
    obtain ⟨hl, -⟩ := construct_spec spec
    have hl' : b.live = fun _ => none := hb ▸ hl
    exact (heldAt_attach h hl').symm ▸ hm
  -- a configuration touches no entry
  | controlled id c b h =>
    obtain ⟨hk, hl⟩ := control_configures hd b
    exact (heldAt_put_same h hk.generation hl).symm ▸ hm
  | queried request rec b acct hr h =>
    have hb := queryRemoteAccess_fst b ⟨rec.memoryRegionId, rec.backendHandle⟩ (backDummyRemoteKey rec) request.kind
      request.offset request.length
    exact (heldAt_put_same h (congrArg IBackend.generation hb) (congrArg Backend.live hb)).symm ▸ hm
  | domainDestroyed d de acct h => exact matching_withdrawn hm _ _ rfl nofun
  | bufferReallocated descriptor be nextBuffer acct h hg => exact matching_withdrawn hm _ _ rfl nofun
  | leased k env needed rec ls acct h => exact matching_put hm h rfl fun e he => he.released _
  | released lease ls rec acct hls h => exact matching_put hm h rfl fun e he => he.released _
  | hardRevoked k rec leases acct h hl =>
    exact matching_put hm h rfl fun e he => he.retire rfl rfl rfl rfl rfl nofun rfl
  | softRevoked k rec acct h hl =>
    refine matching_put hm h rfl fun e he => he.retire rfl rfl rfl rfl rfl ?_ (softRevoked_not_live rec)
    rcases softRevoked_lifecycle rec with h | h <;> rw [h] <;> nofun
  -- record and entry take the new key generation together
  | rotated k rec b h hl hb hh =>
    obtain ⟨hk, hlive⟩ := rotateKey_spec b ⟨rec.memoryRegionId, rec.backendHandle⟩ (rotated rec).remoteKey.keyGeneration
    obtain ⟨e, he, hmir⟩ := hm.held k rec h
    obtain ⟨b₀, hb₀, hentry, hgen⟩ := heldAt_eq_some.1 he
    obtain rfl : b = b₀ := Option.some.inj (hb.symm.trans hb₀)
    have hlive' : b.live rec.backendHandle = some e.entry := hentry
    have hmatch := hm.rewrite h (rfl : (rotated rec).entryKey = rec.entryKey) he fun hmir => hmir.rotated hl
    show Matching _ _ (fun r => (Table.put k (rotated rec) s.registrations).lookup r) (heldAt (Table.put _ _ _))
    rw [Table.lookup_put_update, heldAt_put hb hk.generation hlive, hlive', hgen]
    exact hmatch
  | rotatedAlone k rec h hl hb =>
    obtain ⟨e, he, -⟩ := hm.held k rec h
    obtain ⟨b, hb₀, hentry, -⟩ := heldAt_eq_some.1 he
    rcases hb with hb | hb
    · cases hb.symm.trans hb₀
    · obtain ⟨i, -, hi⟩ := (hi.ledgers _ b hb₀).1 _ (by show b.live _ ≠ none; rw [hentry]; simp)
      exact absurd (hi.trans hb) (handleAt_ne_nil b i)
  | recovered => cases hd

theorem ledgers_effect {n : Nat} {s s' : Rdmabuffer Backend} {op : AtomicOp Backend} (he : Effect s op s')
    (hd : Driven (some (.atomic op))) (h : Ledgers n s.backends) : Ledgers n s'.backends := by
  cases he with
  | attached spec b hb hn =>
    obtain ⟨hl, hs⟩ := construct_spec spec
    exact h.attach (hb ▸ hl) (hb ▸ hs)
  | controlled id c b hb =>
    obtain ⟨hs, -⟩ := control_spec c b
    exact h.put (le_refl n) hb (control_advance c b) (hs ▸ (h id b hb).2)
  | queried request rec b acct hr hb =>
    rw [queryRemoteAccess_fst]
    exact h.put (le_refl n) hb (.refl b) (h _ b hb).2
  | rotated k rec b hr hl hb hh =>
    obtain ⟨hk, -⟩ := rotateKey_spec b ⟨rec.memoryRegionId, rec.backendHandle⟩ (rotated rec).remoteKey.keyGeneration
    exact h.put (le_refl n) hb (rotateKey_advance b _ _) (hk.nextSeq ▸ (h _ b hb).2)
  | recovered => cases hd
  | _ => exact h

theorem recovers_of_driven {op : Option (Op Backend)} (h : Driven op) : Op.recovers op = false := by
  rcases op with _ | (op | _ | _)
  · rfl
  · cases op with
    | recover => cases h
    | _ => rfl
  · rfl
  · rfl

/-- Whole operations keep registry and backends in step. -/
theorem inStep_effect {n : Nat} {s s' : Rdmabuffer Backend} {op : AtomicOp Backend} (he : Effect s op s')
    (hd : Driven (some (.atomic op))) (hi : InStep n s) : InStep n s' := by
  have hnext := effect_nextRegistration he
  have hne : s'.nextRegistration ≠ 0 := by
    intro h0
    have := hi.next
    rw [← hnext, h0] at this
    cases this
  exact ⟨matching_effect he hd hi, ledgers_effect he hd hi.ledgers,
    drawn_opStep (.atomic op s' he) hi.drawn (recovers_of_driven hd) hne, hnext ▸ hi.next⟩

/-- A registration adds its record and its entry. -/
theorem inStep_registered {n : Nat} {s : Rdmabuffer Backend} (hi : InStep n s) (hn : n + 1 < 2 ^ 57)
    {descriptor : BufferDescriptor} {backend : BackendId} {domain : ProtectionDomainId} {env : AuthorityEnvelope}
    {b b' : Backend} {bo : RegisterOutcome} {bout : BackendRegistration}
    (hv : Validated s descriptor backend domain env b)
    (he : IBackend.registerBuffer b descriptor (registrationContext s b descriptor domain env) = (b', bo, bout))
    (ho : bo.ok = true) :
    InStep (n + 1) ((called s backend b').registerCommit (pending s b descriptor backend domain env) bout).1 := by
  obtain ⟨hwf, hle⟩ := hi.ledgers backend b hv.backend
  have hroom : b.HasRoom := hasRoom_of_lt (by omega)
  have hreg : Registered b descriptor b' bout := by
    rcases registerBuffer_spec he with ⟨ho', -⟩ | ⟨-, hreg⟩
    · rw [ho] at ho'; cases ho'
    · exact hreg
  have hsucc : (s.nextRegistration + 1).toNat = s.nextRegistration.toNat + 1 := by
    have := hi.next
    rw [UInt64.toNat_add, UInt64.toNat_one]
    omega
  generalize hrec : commitRecord s.authority (pending s b descriptor backend domain env) bout = rec
  have hregs : ((called s backend b').registerCommit (pending s b descriptor backend domain env) bout).1.registrations =
      Table.put ⟨s.nextRegistration⟩ rec s.registrations := by rw [← hrec]; rfl
  have hkey : rec.entryKey = (backend, b.handleAt b.nextSeq.toNat) := by
    rw [← hrec, ← hreg.handle]; rfl
  have hmir : Mirrors rec ⟨descriptor.liveEntry, IBackend.generation b⟩ := by
    subst hrec
    exact ⟨rfl, hreg.base.symm, hreg.length.symm, hreg.granted.symm, hreg.length, rfl, rfl, nofun,
      fun _ => ⟨rfl, rfl, hreg.keyGeneration.symm⟩⟩
  -- the handle has not been issued before, so the entry is new
  have hfree : heldAt s.backends rec.entryKey = none := by
    have hnone : b.live (b.handleAt b.nextSeq.toNat) = none := hwf.next_free (handleAt_injOn hroom)
    rw [hkey, heldAt, hv.backend, Option.bind_some, hnone]
    rfl
  refine ⟨?_, hi.ledgers.put (Nat.le_succ n) hv.backend (hreg.advance_of_room hroom) ?_, fun r rec₀ hr => ?_, ?_⟩
  · have hins := hi.matching.insert hi.drawn.next_free hfree hmir
    rw [hkey] at hins
    rw [hregs, Table.lookup_put_update]
    exact (heldAt_put hv.backend hreg.generation hreg.live).symm ▸ hins
  · rw [hreg.nextSeq, hroom.toNat_succ]
    omega
  · rw [hregs, Table.lookup_put] at hr
    show _ < (s.nextRegistration + 1).toNat
    split at hr
    · rename_i hk; rw [hk, hsucc]; exact Nat.lt_succ_self _
    · rw [hsucc]; exact (hi.drawn r rec₀ hr).trans (Nat.lt_succ_self _)
  · show (s.nextRegistration + 1).toNat = _
    rw [hsucc, hi.next]

/-- The backend of a record lets go of its entry. -/
theorem InStep.lets_go {n : Nat} {s : Rdmabuffer Backend} (hi : InStep n s) {r : RegistrationId}
    {rec : RegistrationRecord} (hr : s.registrations.lookup r = some rec) : releases s rec = true := by
  obtain ⟨e, he, -⟩ := hi.matching.held r rec hr
  obtain ⟨b, hb, hlive, -⟩ := heldAt_eq_some.1 he
  have hb : s.backends.lookup rec.backend = some b := hb
  have hlive : b.live rec.backendHandle = some e.entry := hlive
  have hok : (IBackend.deregisterBuffer b ⟨rec.memoryRegionId, rec.backendHandle⟩).2.ok = true := by
    rcases hd : IBackend.deregisterBuffer b ⟨rec.memoryRegionId, rec.backendHandle⟩ with ⟨b', bo⟩
    obtain ⟨-, -, hok⟩ := deregisterBuffer_spec hd
    exact hok.2 (by rw [hlive]; simp)
  unfold releases
  simp [hb, hok]

/-- A deregistration that calls the backend removes the record with its entry. -/
theorem inStep_deregistered {n : Nat} {s : Rdmabuffer Backend} (hi : InStep n s) {r : RegistrationId}
    {rec : RegistrationRecord} {backends : Table BackendId Backend} (hr : s.registrations.lookup r = some rec)
    (hv : rec.backend.isValid = true) (hrel : Release s rec backends true) : InStep n (removed s r rec backends) := by
  obtain ⟨e, he, -⟩ := hi.matching.held r rec hr
  obtain ⟨b₀, hb₀, -, -⟩ := heldAt_eq_some.1 he
  have hb₀ : s.backends.lookup rec.backend = some b₀ := hb₀
  generalize hok : true = ok at hrel
  cases hrel with
  | skipped h =>
    rcases h with h | h
    · rw [hv] at h; cases h
    · rw [hb₀] at h; cases h
  | called b b' bo hv' hb hd =>
    obtain ⟨hk, hl, -⟩ := deregisterBuffer_spec hd
    have hdrawn : Drawn (removed s r rec (Table.put rec.backend b' s.backends)) := by
      intro j rec₀ hj
      rw [removed_lookup] at hj
      split at hj
      · cases hj
      · exact hi.drawn j rec₀ hj
    refine ⟨?_, hi.ledgers.put (le_refl n) hb (deregisterBuffer_advance hd) (hk.nextSeq ▸ (hi.ledgers _ b hb).2),
      hdrawn, hi.next⟩
    have hrem := hi.matching.remove hr
    have hregs : (fun j => (removed s r rec (Table.put rec.backend b' s.backends)).registrations.lookup j) =
        Function.update (fun j => s.registrations.lookup j) r none := by
      funext j
      rw [removed_lookup, Function.update_apply]
    rw [hregs]
    exact (heldAt_put hb hk.generation hl).symm ▸ hrem

/-- The registration that a transition commits counts. -/
def registers (x : Lts.Transition (Rdmabuffer Backend) (Option (Op Backend))) : Bool :=
  match x.label with
  | some (.registerBuffer descriptor backend domain env) => (x.pre.registerBuffer descriptor backend domain env).2.ok
  | _ => false

theorem inStep_opStep {n : Nat} {s s' : Rdmabuffer Backend} {op : Op Backend} (hs : OpStep s op s')
    (hd : Driven (some op)) (hc : skipsBackend s (some op) = false) (hi : InStep n s)
    (hn : n + (if registers ⟨s, some op, s'⟩ then 1 else 0) < 2 ^ 57) :
    InStep (n + if registers ⟨s, some op, s'⟩ then 1 else 0) s' := by
  cases hs with
  | atomic op s' he => exact inStep_effect he hd hi
  | registerRefused descriptor backend domain env hok =>
    have hno : registers ⟨s, some (.registerBuffer descriptor backend domain env), s⟩ = false := hok
    rw [hno]
    exact hi
  | registerFailed descriptor backend domain env b b' bo bout hv he ho =>
    have := registerBuffer_admissible hv.admissible (registrationContext s b descriptor domain env)
    rw [he, ho] at this
    cases this
  | registered descriptor backend domain env b b' bo bout hv he ho hok =>
    have hyes : ∀ s', registers ⟨s, some (.registerBuffer descriptor backend domain env), s'⟩ = true := fun _ => hok
    rw [hyes, if_pos rfl] at hn ⊢
    exact inStep_registered hi hn hv he ho
  | deregisterRefused => exact hi
  | deregistered r rec backends hr hn' hdr hrel =>
    refine inStep_deregistered hi hr ?_ hrel
    simpa [skipsBackend, hr, hn', hdr] using hc
  | deregisterFailed r rec backends hr hn' hdr hrel =>
    have := hi.lets_go hr
    rw [hrel.ok_eq] at this
    cases this

theorem inStep_rehash {n : Nat} {s s' : Rdmabuffer Backend} (h : Rehash s s') (hi : InStep n s) : InStep n s' := by
  have hnext : s'.nextRegistration = s.nextRegistration := by rw [h.others]
  have hregs : (fun r => s'.registrations.lookup r) = fun r => s.registrations.lookup r :=
    funext fun r => (Table.lookup_perm h.registrations r).symm
  have hheld : heldAt s'.backends = heldAt s.backends := by
    funext k
    rw [heldAt, heldAt, Table.lookup_perm h.backends]
  refine ⟨by rw [hregs, hheld]; exact hi.matching, fun id b hb => ?_, fun r rec hr => ?_, hnext ▸ hi.next⟩
  · rw [← Table.lookup_perm h.backends] at hb
    exact hi.ledgers id b hb
  · rw [← Table.lookup_perm h.registrations] at hr
    exact hnext ▸ hi.drawn r rec hr

theorem inStep_init : InStep 0 ({} : Rdmabuffer Backend) where
  matching := .empty
  ledgers id b h := by cases h
  drawn r rec h := by cases h
  next := rfl

end RdmaBuffer
