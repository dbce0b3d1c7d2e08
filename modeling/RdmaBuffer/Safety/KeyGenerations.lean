/-
The key generations of the backends' entries. A rotation hands down the counter of the record, a transport rollover
increments that of the entry, and a `revalidate` puts an entry back into use: the generation of an entry goes back
exactly when a rotation hands down one that the rollovers have passed.
-/
import RdmaBuffer.Registry.Access
import RdmaBuffer.Runtime.Execution
import RdmaBuffer.Runtime.Handles

namespace RdmaBuffer

open Rdmabuffer Backend

/-! ## Revalidation from outside -/

/-- A call of `revalidate` on an attached backend. -/
def Rdmabuffer.revalidateAt (s : Rdmabuffer Backend) (id : BackendId) (handle : RegisterHandle) : Rdmabuffer Backend :=
  match s.backends.lookup id with
  | none => s
  | some b => { s with backends := Table.put id (IBackend.revalidate b handle).1 s.backends }

/-- A step of the interleaved clients and the scenario controls, or a `revalidate`. -/
inductive BackendUse
  | client (l : Option (Action Backend))
  | revalidate (id : BackendId) (handle : RegisterHandle)

/-- The interleaved system in which the entries of the backends are revalidated at any point. -/
def revalidating : Lts (System Backend) BackendUse where
  init σ := σ = {}
  step σ u σ' :=
    match u with
    | .client l => (interleaved Backend).step σ l σ'
    | .revalidate id handle => σ' = { σ with runtime := σ.runtime.revalidateAt id handle }

/-! ## The law -/

/-- No entry that is live in both has a lower key generation in the second. -/
def Forward (σ σ' : System Backend) : Prop :=
  ∀ k e e', entryAt σ.runtime.backends k = some e → entryAt σ'.runtime.backends k = some e' →
    e.keyGeneration.value ≤ e'.keyGeneration.value

/-- The backend accepts a key of the generation for the handle. -/
def AcceptsKey (σ : System Backend) (k : BackendId × StdString) (g : RemoteKeyGeneration) : Prop :=
  ∃ b region key kind offset length, σ.runtime.backends.lookup k.1 = some b ∧ key.remoteKeyGeneration = g ∧
    (IBackend.queryRemoteAccess b ⟨region, k.2⟩ key kind offset length).2.1 = .allow

/-- The entry of the handle has gone on to another generation. -/
def SupersedesKey (σ : System Backend) (k : BackendId × StdString) (g : RemoteKeyGeneration) : Prop :=
  ∃ e, entryAt σ.runtime.backends k = some e ∧ e.keyGeneration ≠ g

/-- Along the states of a run the generation of a live entry never decreases, and one that was accepted and superseded
is not accepted again. -/
structure KeysForward (states : List (System Backend)) : Prop where
  forward : states.Pairwise Forward
  superseded : ∀ u v w, [u, v, w].Sublist states → ∀ k g, AcceptsKey u k g → SupersedesKey v k g → ¬AcceptsKey w k g

/-- The step rotates the key of a live record to a generation below that of its entry. -/
def handsDownLower (s : Rdmabuffer Backend) : BackendUse → Bool
  | .client (some (.atomic (.rotateKey r))) =>
    (s.registrations.lookup r).any fun rec =>
      rec.lifecycle.isLive && (entryAt s.backends rec.material.key).any fun e =>
        rec.remoteKey.keyGeneration.next.value < e.keyGeneration.value
  | _ => false

/-- The step rolls the transport over while an entry has the highest generation there is. -/
def wrapsKey (s : Rdmabuffer Backend) : BackendUse → Bool
  | .client (some (.atomic (.control id (.synthetic .rolloverTransportGeneration)))) =>
    match s.backends.lookup id with
    | some (.synthetic b) => b.entries.entries.any fun e => e.2.keyGeneration.value + 1 == 0
    | _ => false
  | _ => false

/-- No counter of the backends turns round in the step: no backend runs out of handles, no key generation wraps. -/
def Unwrapped (x : Lts.Transition (System Backend) BackendUse) : Prop :=
  Bounded x.pre.runtime ∧ Bounded x.post.runtime ∧ wrapsKey x.pre.runtime x.label = false

instance : DecidablePred Unwrapped := fun x =>
  inferInstanceAs
    (Decidable (Bounded x.pre.runtime ∧ Bounded x.post.runtime ∧ wrapsKey x.pre.runtime x.label = false))

/-! ## One backend -/

/-- The backend moves by one step of its ledger, and the key generation of no entry decreases. -/
structure MovesUp (b b' : Backend) : Prop where
  advance : Advance b b'
  up : ∀ h e e', b.live h = some e → b'.live h = some e' → e.keyGeneration.value ≤ e'.keyGeneration.value

theorem MovesUp.refl (b : Backend) : MovesUp b b :=
  ⟨.refl b, fun h e e' he he' => UInt64.le_of_eq (by rw [Option.some.inj (he.symm.trans he')])⟩

/-- Rewriting one entry. -/
theorem MovesUp.of_update {b b' : Backend} (ha : Advance b b') {h : StdString} {o : Option LiveEntry}
    (hl : b'.live = Function.update b.live h o)
    (ho : ∀ e e', b.live h = some e → o = some e' → e.keyGeneration.value ≤ e'.keyGeneration.value) : MovesUp b b' := by
  refine ⟨ha, fun h' e e' he he' => ?_⟩
  rw [hl, Function.update_apply] at he'
  split at he'
  · rename_i hh
    exact ho e e' (hh ▸ he) he'
  · exact UInt64.le_of_eq (by rw [Option.some.inj (he.symm.trans he')])

theorem revalidate_spec (b : Backend) (handle : RegisterHandle) :
    Kept b (IBackend.revalidate b handle).1 ∧ (IBackend.revalidate b handle).1.live =
      Function.update b.live handle.handle ((IBackend.revalidate b handle).1.live handle.handle) ∧
    ((IBackend.revalidate b handle).1.live handle.handle).map (·.keyGeneration) =
      (b.live handle.handle).map (·.keyGeneration) := by
  cases b with
  | synthetic b =>
    generalize hb' : IBackend.revalidate (Backend.synthetic b) handle = b'
    have hb' : onSynthetic (b.revalidate handle) = b' := hb'
    subst hb'
    unfold SyntheticBackend.revalidate
    split
    · exact ⟨.refl _, (Function.update_eq_self _ _).symm, rfl⟩
    · rename_i e he
      refine ⟨⟨rfl, rfl, rfl⟩, ?_, ?_⟩
      · funext h
        rw [Function.update_apply]
        split
        · rename_i hh
          rw [hh]
        · rename_i hh
          simp [live, onSynthetic, Table.lookup_put, hh]
      · simp only [live, onSynthetic, he, Table.lookup_put_self, Option.map_some]
        rfl
  | reference b =>
    generalize hb' : IBackend.revalidate (Backend.reference b) handle = b'
    have hb' : onReference (b.revalidate handle) = b' := hb'
    subst hb'
    unfold ReferenceBackend.revalidate
    split <;> exact ⟨.refl _, (Function.update_eq_self _ _).symm, rfl⟩

theorem revalidate_movesUp (b : Backend) (handle : RegisterHandle) : MovesUp b (IBackend.revalidate b handle).1 := by
  obtain ⟨hk, hl, hg⟩ := revalidate_spec b handle
  refine .of_update (hk.advance (update_none hl fun hn => ?_)) hl fun e e' he he' => ?_
  · rw [hn, Option.map_none, Option.map_eq_none_iff] at hg
    exact hg
  · rw [he, he', Option.map_some, Option.map_some, Option.some.injEq] at hg
    exact UInt64.le_of_eq (by rw [hg])

theorem rotateKey_movesUp {b : Backend} {handle : RegisterHandle} {g : RemoteKeyGeneration}
    (h : ∀ e, b.live handle.handle = some e → e.keyGeneration.value ≤ g.value) :
    MovesUp b (IBackend.rotateKey b handle g).1 := by
  refine .of_update (rotateKey_advance b handle g) (rotateKey_spec b handle g).2 fun e e' he he' => ?_
  rw [he, Option.map_some, Option.some.injEq] at he'
  rw [← he']
  exact h e he

theorem deregisterBuffer_movesUp {b b' : Backend} {handle : RegisterHandle} {bo : RegisterOutcome}
    (h : IBackend.deregisterBuffer b handle = (b', bo)) : MovesUp b b' :=
  .of_update (deregisterBuffer_advance h) (deregisterBuffer_spec h).2.1 fun _ _ _ he' => nomatch he'

/-- A registration issues a handle that is not live. -/
theorem registerBuffer_movesUp {b b' : Backend} {d : BufferDescriptor} {ctx : RegistrationContext}
    {bo : RegisterOutcome} {bout : BackendRegistration} (h : IBackend.registerBuffer b d ctx = (b', bo, bout))
    (hb : b.InBounds) (hb' : b'.InBounds) (hw : Ledger.WF b.handleAt b.ledger) : MovesUp b b' := by
  rcases registerBuffer_spec h with ⟨-, rfl⟩ | ⟨-, hr⟩
  · exact .refl _
  · refine .of_update (hr.advance hb hb') hr.live fun e e' he _ => ?_
    have hfree : b.live (b.handleAt b.nextSeq.toNat) = none := hw.next_free (handleAt_injOn (hr.room hb hb'))
    rw [hfree] at he
    cases he

/-- The rollover increments every generation, a restart drops the entries, the other controls leave them. -/
theorem control_movesUp {c : Backend.Control} {b : Backend}
    (h : ∀ sb, b = .synthetic sb → c = .synthetic .rolloverTransportGeneration →
      ∀ e ∈ sb.entries.entries, e.2.keyGeneration.value + 1 ≠ 0) : MovesUp b (Backend.control c b) := by
  have hsame : ∀ b', (Backend.control c b) = b' → b'.live = b.live → MovesUp b (Backend.control c b) := by
    rintro b' rfl hl
    exact ⟨control_advance c b, fun h e e' he he' => UInt64.le_of_eq (by rw [hl, he] at he'; rw [Option.some.inj he'])⟩
  cases b with
  | reference b => cases c <;> exact hsame _ rfl rfl
  | synthetic b =>
    cases c with
    | advanceBackendGeneration => exact hsame _ rfl rfl
    | synthetic c =>
      cases c with
      | rolloverTransportGeneration =>
        refine ⟨control_advance _ _, fun k e e' he he' => ?_⟩
        have he' : ((Table.mapVals (fun _ e =>
            { e with revalidateRequired := true, keyGeneration := StrongGeneration.next e.keyGeneration })
            b.entries).lookup k).map SyntheticEntry.view = some e' := he'
        rw [Table.lookup_mapVals, Option.map_map, Option.map_eq_some_iff] at he'
        obtain ⟨e₀, he₀, rfl⟩ := he'
        have he : (b.entries.lookup k).map SyntheticEntry.view = some e := he
        rw [he₀, Option.map_some, Option.some.injEq] at he
        subst he
        have hne := h b rfl rfl ⟨k, e₀⟩ (Table.mem_entries.2 he₀)
        rw [UInt64.le_iff_toNat_le]
        show e₀.keyGeneration.value.toNat ≤ (e₀.keyGeneration.value + 1).toNat
        rw [UInt64.toNat_succ hne]
        exact Nat.le_succ _
      | simulateBackendRestart =>
        refine ⟨control_advance _ _, fun k e e' _ he' => ?_⟩
        cases he'
      | _ => exact hsame _ rfl rfl

/-! ## One step -/

/-- Every backend moves up, and those newly attached are empty. -/
structure TableUp (m m' : Table BackendId Backend) : Prop where
  old : ∀ id b, m.lookup id = some b → ∃ b', m'.lookup id = some b' ∧ MovesUp b b'
  new : ∀ id b', m'.lookup id = some b' → m.lookup id = none → b'.live = fun _ => none

theorem TableUp.of_lookup {m m' : Table BackendId Backend} (h : ∀ id, m'.lookup id = m.lookup id) : TableUp m m' := by
  constructor
  · intro id b hb
    exact ⟨b, (h id).trans hb, .refl b⟩
  · intro id b' hb' hn
    rw [h, hn] at hb'
    cases hb'

theorem TableUp.put {m : Table BackendId Backend} {k : BackendId} {b b' : Backend} (hk : m.lookup k = some b)
    (h : MovesUp b b') : TableUp m (Table.put k b' m) := by
  constructor
  · intro id b₀ hb₀
    rw [Table.lookup_put]
    split
    · rename_i hid
      obtain rfl := Option.some.inj (hk.symm.trans (hid ▸ hb₀))
      exact ⟨b', rfl, h⟩
    · exact ⟨b₀, hb₀, .refl b₀⟩
  · intro id b₁ hb₁ hn
    rw [Table.lookup_put] at hb₁
    split at hb₁
    · rename_i hid
      rw [hid, hk] at hn
      cases hn
    · rw [hn] at hb₁
      cases hb₁

theorem TableUp.attach {m : Table BackendId Backend} {k : BackendId} {b : Backend} (hk : m.lookup k = none)
    (hl : b.live = fun _ => none) : TableUp m (Table.put k b m) := by
  constructor
  · intro id b₀ hb₀
    rw [Table.lookup_put, if_neg (by rintro rfl; rw [hk] at hb₀; cases hb₀)]
    exact ⟨b₀, hb₀, .refl b₀⟩
  · intro id b₁ hb₁ hn
    rw [Table.lookup_put] at hb₁
    split at hb₁
    · rw [← Option.some.inj hb₁, hl]
    · rw [hn] at hb₁
      cases hb₁

/-- The live handles of every backend were issued. -/
def LedgersFiled (m : Table BackendId Backend) : Prop :=
  ∀ id b, m.lookup id = some b → Ledger.WF b.handleAt b.ledger

theorem LedgersFiled.up {m m' : Table BackendId Backend} (h : LedgersFiled m) (hu : TableUp m m') :
    LedgersFiled m' := by
  intro id b' hb'
  rcases hb : m.lookup id with _ | b
  · intro k hk
    exact absurd (congrFun (hu.new id b' hb' hb) k) hk
  · obtain ⟨b₁, hb₁, hup⟩ := hu.old id b hb
    obtain rfl := Option.some.inj (hb'.symm.trans hb₁)
    rw [hup.advance.handleAt]
    exact hup.advance.step.wf (h id b hb)

theorem effect_up {s s' : Rdmabuffer Backend} {op : AtomicOp Backend} (he : Effect s op s')
    (hl : handsDownLower s (.client (some (.atomic op))) = false)
    (hw : wrapsKey s (.client (some (.atomic op))) = false) : TableUp s.backends s'.backends := by
  cases he with
  | attached spec b hb h =>
    obtain ⟨hlive, -⟩ := construct_spec spec
    exact .attach h (hb ▸ hlive)
  | controlled id c b h =>
    refine .put h (control_movesUp ?_)
    rintro sb rfl rfl e hm
    simp only [wrapsKey, h, List.any_eq_false, beq_iff_eq] at hw
    exact hw e hm
  | queried request rec b acct hr h =>
    rw [queryRemoteAccess_fst]
    exact .put h (.refl b)
  | rotated r rec b h hlive hb hh =>
    refine .put hb (rotateKey_movesUp fun e he => ?_)
    have hentry : entryAt s.backends rec.material.key = some e := entryAt_eq_some.2 ⟨b, hb, he⟩
    simp only [handsDownLower, h, Option.any_some, hlive, hentry, Bool.true_and, decide_eq_false_iff_not,
      UInt64.not_lt] at hl
    exact hl
  | recovered bytes state hp => exact .of_lookup fun id => by rw [(restore_spec s state).backends]
  | _ => exact .of_lookup fun _ => rfl

theorem use_up {σ σ' : System Backend} {u : BackendUse} (h : revalidating.step σ u σ')
    (hx : Unwrapped ⟨σ, u, σ'⟩) (hw : LedgersFiled σ.runtime.backends) (hl : handsDownLower σ.runtime u = false) :
    TableUp σ.runtime.backends σ'.runtime.backends := by
  obtain ⟨hb, hb', hwrap⟩ := hx
  cases u with
  | revalidate id handle =>
    obtain rfl : σ' = _ := h
    show TableUp _ (σ.runtime.revalidateAt id handle).backends
    unfold Rdmabuffer.revalidateAt
    split
    · exact .of_lookup fun _ => rfl
    · rename_i b hk
      exact .put hk (revalidate_movesUp b handle)
  | client l =>
    cases l with
    | none => exact .of_lookup fun id => (Table.lookup_perm h.1.backends id).symm
    | some a =>
      obtain rfl : σ' = σ.exec a := h
      generalize σ.exec a = σ', σ.exec_cases a = hs at hb'
      cases hs with
      | atomic op s he => exact effect_up he hl hwrap
      | called c p b b' bo bout hc hk he =>
        have hin' : b'.InBounds := hb'.lookup (Table.lookup_put_self _ _ _)
        exact .put hk (registerBuffer_movesUp he (hb.lookup hk) hin' (hw _ b hk))
      | deregisterCalled c d b b' bo hc hv hk he => exact .put hk (deregisterBuffer_movesUp he)
      | deregisterFinished c d refusal hc =>
        refine .of_lookup fun id => ?_
        show (σ.runtime.deregisterFinish d refusal).1.backends.lookup id = _
        unfold deregisterFinish
        split <;> rfl
      | _ => exact .of_lookup fun _ => rfl

/-- A rotation that hands down a lower generation takes that of a live entry back. -/
theorem use_down {σ σ' : System Backend} {u : BackendUse} (h : revalidating.step σ u σ')
    (hw : LedgersFiled σ.runtime.backends) (hl : handsDownLower σ.runtime u = true) : ¬Forward σ σ' := by
  unfold handsDownLower at hl
  split at hl
  · rename_i r
    obtain ⟨rec, hr, hrec⟩ := (Option.any_eq_true _ _).1 hl
    obtain ⟨hlive, hentry⟩ := Bool.and_eq_true_iff.1 hrec
    obtain ⟨e, he, hlt⟩ := (Option.any_eq_true _ _).1 hentry
    obtain ⟨b, hb, hbl⟩ := entryAt_eq_some.1 he
    -- a live handle was issued, so it is not empty
    have hh : rec.backendHandle ≠ [] := by
      obtain ⟨n, -, hn⟩ := hw _ b hb rec.backendHandle (by
        show b.live rec.backendHandle ≠ none
        rw [show b.live rec.backendHandle = some e from hbl]
        simp)
      rw [← hn]
      exact handleAt_ne_nil b n
    obtain rfl : σ' = σ.exec (.atomic (.rotateKey r)) := h
    intro hf
    have hrot : entryAt (σ.runtime.rotateKey r).1.backends rec.material.key =
        some { e with keyGeneration := rec.remoteKey.keyGeneration.next, revalidateRequired := false } := by
      rw [rotateKey_backends hr hlive hb hh]
      refine entryAt_put_self.trans ((congrFun (rotateKey_spec b _ _).2 _).trans ?_)
      exact (Function.update_self _ _ _).trans (congrArg (Option.map _) hbl)
    have hle := hf _ e _ he hrot
    rw [UInt64.le_iff_toNat_le] at hle
    rw [decide_eq_true_eq, UInt64.lt_iff_toNat_lt] at hlt
    exact absurd hlt (not_lt.2 hle)
  · cases hl

/-! ## The whole run -/

/-- The handle was issued by the backend, and an entry it has is of the generation or a later one. -/
structure AtLeast (m : Table BackendId Backend) (k : BackendId × StdString) (g : UInt64) : Prop where
  issued : ∃ b, m.lookup k.1 = some b ∧ IssuedBy b k.2
  le : ∀ e, entryAt m k = some e → g ≤ e.keyGeneration.value

theorem AtLeast.up {m m' : Table BackendId Backend} {k : BackendId × StdString} {g : UInt64} (h : AtLeast m k g)
    (hu : TableUp m m') : AtLeast m' k g := by
  obtain ⟨b, hb, hi⟩ := h.issued
  obtain ⟨b', hb', hup⟩ := hu.old _ b hb
  refine ⟨⟨b', hb', hi.advance hup.advance⟩, fun e' he' => ?_⟩
  obtain ⟨b₁, hb₁, hlive'⟩ := entryAt_eq_some.1 he'
  obtain rfl := Option.some.inj (hb'.symm.trans hb₁)
  rcases hlive : b.live k.2 with _ | e
  · rw [spent_advance hup.advance hi hlive] at hlive'
    cases hlive'
  · exact UInt64.le_trans (h.le e (entryAt_eq_some.2 ⟨b, hb, hlive⟩)) (hup.up _ e e' hlive hlive')

/-- What links a run to the state it has reached: the ledgers are filed, the state is the last of those seen, and no
entry of an earlier one has a lower generation now. -/
structure Ahead (t : List (Lts.Transition (System Backend) BackendUse)) (σ : System Backend) : Prop where
  filed : LedgersFiled σ.runtime.backends
  last : σ ∈ Lts.visited t ∨ ∀ k, entryAt σ.runtime.backends k = none
  seen : ∀ u ∈ Lts.visited t, ∀ k e, entryAt u.runtime.backends k = some e →
    AtLeast σ.runtime.backends k e.keyGeneration.value

theorem AtLeast.of_entry {m : Table BackendId Backend} (hw : LedgersFiled m) {k : BackendId × StdString} {e : LiveEntry}
    (he : entryAt m k = some e) : AtLeast m k e.keyGeneration.value := by
  obtain ⟨b, hb, hl⟩ := entryAt_eq_some.1 he
  refine ⟨⟨b, hb, hw _ b hb k.2 ?_⟩, fun e' he' => ?_⟩
  · show b.live k.2 ≠ none
    rw [hl]
    simp
  · exact UInt64.le_of_eq (by rw [Option.some.inj (he.symm.trans he')])

theorem ahead_up {σ σ' : System Backend} {u : BackendUse} {t : List (Lts.Transition (System Backend) BackendUse)}
    (hi : Ahead t σ) (hu : TableUp σ.runtime.backends σ'.runtime.backends) :
    (∀ v ∈ Lts.visited t, Forward v σ') ∧ Ahead (t ++ [⟨σ, u, σ'⟩]) σ' := by
  have hfiled := hi.filed.up hu
  refine ⟨fun v hv k e e' he he' => ((hi.seen v hv k e he).up hu).le e' he', hfiled, ?_, ?_⟩
  · rw [Lts.visited_snoc]
    exact .inl (by simp)
  · intro v hv k e he
    rw [Lts.visited_snoc, List.mem_append] at hv
    rcases hv with hv | hv
    · exact (hi.seen v hv k e he).up hu
    · obtain rfl := List.mem_singleton.1 hv
      exact .of_entry hfiled he

theorem ahead_step {σ σ' : System Backend} {u : BackendUse} {t : List (Lts.Transition (System Backend) BackendUse)}
    (h : revalidating.step σ u σ') (hx : Unwrapped ⟨σ, u, σ'⟩) (hP : (Lts.visited t).Pairwise Forward)
    (hi : Ahead t σ) :
    ((Lts.visited (t ++ [⟨σ, u, σ'⟩])).Pairwise Forward ↔ handsDownLower σ.runtime u = false) ∧
      ((Lts.visited (t ++ [⟨σ, u, σ'⟩])).Pairwise Forward → Ahead (t ++ [⟨σ, u, σ'⟩]) σ') := by
  have hsplit : (Lts.visited (t ++ [⟨σ, u, σ'⟩])).Pairwise Forward ↔ ∀ v ∈ Lts.visited t, Forward v σ' := by
    rw [Lts.visited_snoc, List.pairwise_append]
    constructor
    · rintro ⟨-, -, hall⟩ v hv
      exact hall v hv σ' (by simp)
    · intro hall
      refine ⟨hP, List.pairwise_singleton _ _, fun v hv w hw => ?_⟩
      obtain rfl := List.mem_singleton.1 hw
      exact hall v hv
  rw [hsplit]
  cases hl : handsDownLower σ.runtime u with
  | false =>
    obtain ⟨hall, hahead⟩ := ahead_up (u := u) hi (use_up h hx hi.filed hl)
    exact ⟨iff_of_true hall rfl, fun _ => hahead⟩
  | true =>
    have hdown := use_down h hi.filed hl
    have hnot : ¬∀ v ∈ Lts.visited t, Forward v σ' := by
      intro hall
      rcases hi.last with hmem | hnone
      · exact hdown (hall σ hmem)
      · refine hdown fun k e e' he => ?_
        rw [hnone k] at he
        cases he
    exact ⟨iff_of_false hnot (by simp), fun hall => absurd hall hnot⟩

/-- A backend that accepts a key of a generation has an entry of it. -/
theorem AcceptsKey.entry {σ : System Backend} {k : BackendId × StdString} {g : RemoteKeyGeneration}
    (h : AcceptsKey σ k g) : ∃ e, entryAt σ.runtime.backends k = some e ∧ e.keyGeneration = g := by
  obtain ⟨b, region, key, kind, offset, length, hb, rfl, hallow⟩ := h
  obtain ⟨e, he, hp⟩ := (queryRemoteAccess_allow _ _ _ _ _ _).1 hallow
  exact ⟨e, entryAt_eq_some.2 ⟨b, hb, he⟩, hp.key.symm⟩

theorem keysForward_of_pairwise {states : List (System Backend)} (h : states.Pairwise Forward) :
    KeysForward states := by
  refine ⟨h, fun u v w hsub k g hu hv hw => ?_⟩
  obtain ⟨e₁, he₁, hg₁⟩ := hu.entry
  obtain ⟨e₂, he₂, hg₂⟩ := hv
  obtain ⟨e₃, he₃, hg₃⟩ := hw.entry
  have hpairs := h.sublist hsub
  simp only [List.pairwise_cons, List.mem_cons, List.not_mem_nil, or_false, forall_eq_or_imp, forall_eq] at hpairs
  obtain ⟨⟨huv, -⟩, hvw, -⟩ := hpairs
  have h₁ := huv k e₁ e₂ he₁ he₂
  have h₂ := hvw k e₂ e₃ he₂ he₃
  rw [hg₁] at h₁
  rw [hg₃] at h₂
  exact hg₂ (congrArg StrongGeneration.mk (UInt64.le_antisymm h₂ h₁))

/-- In every run in which no counter of the backends turns round, the key generations of the entries never go back
exactly when no rotation hands down one below that of the entry it is for. -/
theorem key_generations_iff {σ : System Backend} {t : List (Lts.Transition (System Backend) BackendUse)}
    (h : revalidating.Run t σ) (hu : ∀ x ∈ t, Unwrapped x) :
    KeysForward (Lts.visited t) ↔ ∀ x ∈ t, handsDownLower x.pre.runtime x.label = false := by
  have hiff : (Lts.visited t).Pairwise Forward ↔
      ∀ t₁ x t₂, t = t₁ ++ x :: t₂ → handsDownLower x.pre.runtime x.label = false := by
    refine (h.restrict hu).trace_iff (M := revalidating.restrict Unwrapped)
      (P := fun t => (Lts.visited t).Pairwise Forward) (J := Ahead)
      (C := fun _ x => handsDownLower x.pre.runtime x.label = false) .nil ?_ ?_
      fun t σ l σ' hs hP hi => ahead_step hs.1 hs.2 hP hi
    · intro t x hP
      rw [Lts.visited_snoc] at hP
      exact (List.pairwise_append.1 hP).1
    · rintro _ rfl
      refine ⟨fun id b hb => ?_, .inr fun k => rfl, fun v hv => ?_⟩
      · cases hb
      · cases hv
  constructor
  · intro hk x hx
    obtain ⟨t₁, t₂, ht⟩ := List.append_of_mem hx
    exact hiff.1 hk.forward t₁ x t₂ ht
  · intro hc
    refine keysForward_of_pairwise (hiff.2 ?_)
    rintro t₁ x t₂ rfl
    exact hc x (by simp)

/-! ## A rotation after two rollovers -/

def BackendUse.exec (σ : System Backend) : BackendUse → System Backend
  | .client none => σ
  | .client (some a) => σ.exec a
  | .revalidate id handle => { σ with runtime := σ.runtime.revalidateAt id handle }

theorem BackendUse.step_exec (σ : System Backend) (u : BackendUse) : revalidating.step σ u (u.exec σ) := by
  rcases u with (_ | a) | ⟨id, handle⟩
  · exact ⟨.refl _, rfl⟩
  · rfl
  · rfl

namespace Session

/-- The transport rolls over, and the registration of the page is revalidated. -/
def rollover : List BackendUse :=
  [.client (some (.atomic (.control synthetic (.synthetic .rolloverTransportGeneration)))),
    .revalidate synthetic firstHandle]

def rotation : List BackendUse := [.client (some (.atomic (.rotateKey ⟨1⟩)))]

def registered : List BackendUse :=
  (setup.map Action.atomic ++ registration 0 page).map fun a => .client (some a)

def afterUses (uses : List BackendUse) : System Backend := uses.foldl BackendUse.exec {}

def useTrace (uses : List BackendUse) : List (Lts.Transition (System Backend) BackendUse) :=
  Lts.trace BackendUse.exec id {} uses

theorem useTrace_run (uses : List BackendUse) : revalidating.Run (useTrace uses) (afterUses uses) :=
  ⟨{}, rfl, .of_trace BackendUse.step_exec _ _⟩

/-- The entry accepts a write of 64 bytes with a key of the generation. -/
def acceptsWrite (σ : System Backend) (g : RemoteKeyGeneration) : Bool :=
  (σ.runtime.backends.lookup synthetic).any fun b =>
    (IBackend.queryRemoteAccess b firstHandle { remoteKeyGeneration := g } .write 0 64).2.1 == .allow

theorem acceptsKey_of_write {σ : System Backend} {g : RemoteKeyGeneration} (h : acceptsWrite σ g = true) :
    AcceptsKey σ (synthetic, firstHandle.handle) g := by
  obtain ⟨b, hb, hallow⟩ := (Option.any_eq_true _ _).1 h
  exact ⟨b, _, _, _, _, _, hb, rfl, eq_of_beq hallow⟩

/-- Two rollovers with their revalidations take the entry to generation 3; the rotation takes it to 2, which it had
after the first. -/
theorem key_generation_returned :
    revalidating.Run (useTrace (registered ++ rollover ++ rollover ++ rotation))
      (afterUses (registered ++ rollover ++ rollover ++ rotation)) ∧
    (∀ x ∈ useTrace (registered ++ rollover ++ rollover ++ rotation), Unwrapped x) ∧
    ¬KeysForward (Lts.visited (useTrace (registered ++ rollover ++ rollover ++ rotation))) := by
  refine ⟨useTrace_run _, by decide +kernel, fun h => ?_⟩
  have hu : acceptsWrite (afterUses (registered ++ rollover)) ⟨2⟩ = true := by decide +kernel
  have hw : acceptsWrite (afterUses (registered ++ rollover ++ rollover ++ rotation)) ⟨2⟩ = true := by decide +kernel
  have hv : ((entryAt (afterUses (registered ++ rollover ++ rollover)).runtime.backends
      (synthetic, firstHandle.handle)).any fun e => e.keyGeneration != ⟨2⟩) = true := by
    decide +kernel
  obtain ⟨e, he, hne⟩ := (Option.any_eq_true _ _).1 hv
  refine h.superseded _ _ _ ?_ _ _ (acceptsKey_of_write hu) ⟨e, he, bne_iff_ne.1 hne⟩ (acceptsKey_of_write hw)
  -- the last four states of the run
  rw [useTrace, show registered ++ rollover ++ rollover ++ rotation =
    (registered ++ rollover.take 1) ++ (rollover.drop 1 ++ rollover ++ rotation) by simp [rollover],
    Lts.trace_append, Lts.visited_append]
  refine .trans ?_ (List.sublist_append_right _ _)
  exact .cons_cons _ (.cons _ (.cons_cons _ (.cons_cons _ .slnil)))

/-- One rotation after one rollover keeps up with it. -/
theorem key_generation_kept :
    KeysForward (Lts.visited (useTrace (registered ++ rollover ++ rotation ++ rotation))) ∧
      acceptsWrite (afterUses (registered ++ rollover ++ rotation ++ rotation)) ⟨3⟩ = true :=
  ⟨(key_generations_iff (useTrace_run _) (by decide +kernel)).2 (by decide +kernel), by decide +kernel⟩

end Session

end RdmaBuffer
