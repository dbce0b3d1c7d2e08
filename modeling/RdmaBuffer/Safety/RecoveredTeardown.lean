/-
The deregistration of a recovered registration. It removes the record and leaves the accounting alone exactly when the
record carries no lease count, its backend is not attached, and the counters hold nothing that could be taken off for
it: the backend refuses the empty handle of a recovered record, and the five decrements run as for a live one.
-/
import RdmaBuffer.Backend.View
import RdmaBuffer.Runtime.Handles
import RdmaBuffer.Safety.Identity

namespace RdmaBuffer

open Rdmabuffer Backend

/-! ## Records without a handle -/

/-- No record that awaits revalidation has a handle, and no backend has an entry under the empty one. -/
structure Unhandled (s : Rdmabuffer Backend) : Prop where
  record : ∀ r rec, s.registrations.lookup r = some rec → rec.lifecycle = .revalidationRequired →
    rec.backendHandle = []
  backend : ∀ id b, s.backends.lookup id = some b → b.live [] = none

/-- A backend whose entry under the empty handle is not there takes its place in the table. -/
theorem nameless_put {m : Table BackendId Backend} (hm : ∀ id b, m.lookup id = some b → b.live [] = none)
    {k : BackendId} {b' : Backend} (h : b'.live [] = none) :
    ∀ id b, (Table.put k b' m).lookup id = some b → b.live [] = none := by
  intro id b hb
  rcases Table.lookup_put_some hb with ⟨-, rfl⟩ | ⟨-, hb⟩
  · exact h
  · exact hm id b hb

theorem nameless_register {b b' : Backend} {d : BufferDescriptor} {ctx : RegistrationContext} {bo : RegisterOutcome}
    {bout : BackendRegistration} (h : IBackend.registerBuffer b d ctx = (b', bo, bout)) (hb : b.live [] = none) :
    b'.live [] = none := by
  rcases registerBuffer_spec h with ⟨-, rfl⟩ | ⟨-, hr⟩
  · exact hb
  · rw [hr.live, Function.update_of_ne (handleAt_ne_nil b _).symm]
    exact hb

theorem nameless_effect {s s' : Rdmabuffer Backend} {op : AtomicOp Backend} (he : Effect s op s')
    (hi : ∀ id b, s.backends.lookup id = some b → b.live [] = none) :
    ∀ id b, s'.backends.lookup id = some b → b.live [] = none := by
  cases he with
  | attached spec b hb h =>
    subst hb
    refine nameless_put hi ?_
    show (construct spec).live [] = none
    rw [(construct_spec spec).1]
  | controlled id c b h => exact nameless_put hi ((control_spec c b).2.2 [] (hi id b h))
  | queried request rec b acct hr h ha =>
    refine nameless_put hi ?_
    rw [queryRemoteAccess_fst]
    exact hi _ b h
  | rotated r rec b h hl hb hh =>
    refine nameless_put hi ?_
    rw [(rotateKey_spec b _ _).2, Function.update_of_ne (Ne.symm hh)]
    exact hi _ b hb
  | recovered bytes state hp =>
    rw [(restore_spec s state).backends]
    exact hi
  | _ => exact hi

theorem nameless_section {σ σ' : System Backend} {a : Action Backend} (hs : SectionStep σ a σ')
    (hi : ∀ id b, σ.runtime.backends.lookup id = some b → b.live [] = none) :
    ∀ id b, σ'.runtime.backends.lookup id = some b → b.live [] = none := by
  cases hs with
  | idle | begun | vanished | committed | deregisterBegun | deregisterSkipped => exact hi
  | atomic op s he => exact nameless_effect he hi
  | called c p b b' bo bout hc hb he => exact nameless_put hi (nameless_register he (hi _ b hb))
  | deregisterCalled c d b b' bo hc hv hb he =>
    refine nameless_put hi ?_
    rw [(deregisterBuffer_spec he).2.1, Function.update_apply, hi _ b hb, ite_self]
  | deregisterFinished c d refusal hc =>
    show ∀ id b, (σ.runtime.deregisterFinish d refusal).1.backends.lookup id = some b → _
    rw [deregisterFinish_backends]
    exact hi

theorem unhandled_step {σ σ' : System Backend} {l : Option (Action Backend)} (h : (interleaved Backend).step σ l σ')
    (hi : Unhandled σ.runtime) : Unhandled σ'.runtime := by
  constructor
  · intro r rec' hr' hl'
    have hs := recordStep h r
    rw [hr'] at hs
    generalize ho : σ.runtime.registrations.lookup r = o at hs
    cases hs with
    | keep => exact hi.record r rec' ho hl'
    | leases rec n => exact hi.record r rec ho hl'
    | softRevoked rec hl hlive =>
      rcases softRevoked_lifecycle rec with hs | hs <;> rw [hs] at hl' <;> cases hl'
    | rotated rec hl hlive => exact hi.record r rec ho hl'
    | recovered => rfl
    | destroyed | reallocated | hardRevoked | committed | deregistering | failed => cases hl'
  · cases l with
    | none =>
      intro id b hb
      rw [← Table.lookup_perm h.1.backends] at hb
      exact hi.backend id b hb
    | some a =>
      obtain rfl : σ' = σ.exec a := h
      exact nameless_section (σ.exec_cases a) hi.backend

theorem unhandled_run {σ : System Backend} {t : List (Lts.Transition (System Backend) (Option (Action Backend)))}
    (h : (interleaved Backend).Run t σ) : Unhandled σ.runtime := by
  refine h.inv (I := fun σ => Unhandled σ.runtime) ?_ fun σ l σ' hs hi => unhandled_step hs hi
  rintro _ rfl
  constructor
  · intro r rec hr
    cases hr
  · intro id b hb
    cases hb

/-! ## What a deregistration takes off -/

/-- The counters a registration is charged to. -/
def Accounting.charges (a : Accounting) : List Counter :=
  [a.activeRegistrations, a.registeredBytes, a.pinnedBytes, a.localKeys, a.remoteKeys]

/-- The counters hold nothing that the decrements for the record take off. -/
structure NothingToTake (a : Accounting) (rec : RegistrationRecord) : Prop where
  registrations : a.activeRegistrations.value = 0
  registered : rec.length = 0 ∨ a.registeredBytes.value < rec.length
  pinned : rec.domain = .hostPinned → rec.length = 0 ∨ a.pinnedBytes.value < rec.length
  localKeys : a.localKeys.value = 0
  remoteKeys : a.remoteKeys.value = 0

/-- A decrement leaves the counter alone when it is by nothing or refused. -/
theorem decrement_eq_self {c : Counter} {n : UInt64} : (c.decrement n).2 = c ↔ n = 0 ∨ c.value < n := by
  unfold Counter.decrement
  split
  · rename_i h
    exact iff_of_true rfl (.inr h)
  · rename_i h
    constructor
    · intro hc
      have hv : c.value - n = c.value := congrArg Counter.value hc
      exact .inl ((UInt64.sub_right_inj c.value).1 (hv.trans (UInt64.sub_zero c.value).symm))
    · rintro (rfl | hn)
      · exact congrArg Counter.mk (UInt64.sub_zero c.value)
      · exact absurd hn h

theorem decrement_one_eq_self {c : Counter} : c.decrement.2 = c ↔ c.value = 0 := by
  rw [decrement_eq_self, UInt64.lt_iff_toNat_lt, ← UInt64.toNat_inj, ← UInt64.toNat_inj, UInt64.toNat_one,
    UInt64.toNat_zero]
  omega

theorem charges_invalidate {a : Accounting} {rec : RegistrationRecord} :
    (accountRegistrationInvalidate a rec).charges = a.charges ↔ NothingToTake a rec := by
  have hpinned : (if rec.domain = .hostPinned then (a.pinnedBytes.decrement rec.length).2 else a.pinnedBytes) =
      a.pinnedBytes ↔ (rec.domain = .hostPinned → rec.length = 0 ∨ a.pinnedBytes.value < rec.length) := by
    split
    · rename_i hd
      simp [hd, decrement_eq_self]
    · rename_i hd
      simp [hd]
  simp only [Accounting.charges, accountRegistrationInvalidate, List.cons.injEq, and_true, hpinned]
  rw [decrement_one_eq_self, decrement_eq_self, decrement_one_eq_self, decrement_one_eq_self]
  constructor
  · rintro ⟨hr, hb, hp, hl, hk⟩
    exact ⟨hr, hb, hp, hl, hk⟩
  · rintro ⟨hr, hb, hp, hl, hk⟩
    exact ⟨hr, hb, hp, hl, hk⟩

/-! ## The deregistration of a recovered record -/

/-- The deregistration succeeds, removes the record and leaves the counters of registrations alone. -/
structure CleansUp (s : Rdmabuffer Backend) (r : RegistrationId) : Prop where
  ok : (s.deregister r).2.1 = true
  removed : (s.deregister r).1.registrations.lookup r = none
  charges : (s.deregister r).1.acct.charges = s.acct.charges

/-- The record carries no lease count, its backend is not there to be asked, and nothing can be taken off. -/
structure Unclaimed (s : Rdmabuffer Backend) (rec : RegistrationRecord) : Prop where
  leaseCount : rec.leaseCount = 0
  backend : rec.backend.isValid = false ∨ s.backends.lookup rec.backend = none
  charges : NothingToTake s.acct rec

/-- A backend that is asked about the empty handle refuses it. -/
theorem Unhandled.release_iff {s : Rdmabuffer Backend} (hi : Unhandled s) {rec : RegistrationRecord}
    (hh : rec.backendHandle = []) {backends : Table BackendId Backend} {ok : Bool} (h : Release s rec backends ok) :
    ok = true ↔ rec.backend.isValid = false ∨ s.backends.lookup rec.backend = none := by
  cases h with
  | skipped h => exact iff_of_true rfl h
  | called b b' bo hv hb he =>
    have hno := (deregisterBuffer_spec he).2.2
    rw [hh, hi.backend _ b hb] at hno
    refine iff_of_false (fun hok => hno.1 hok rfl) ?_
    rintro (h | h)
    · rw [hv] at h
      cases h
    · rw [hb] at h
      cases h

/-- In every state reached, the deregistration of a record that awaits revalidation cleans up exactly when the record
carries no lease count, its backend is not attached, and the counters hold nothing to take off for it. -/
theorem recovered_cleans_up_iff {σ : System Backend}
    {t : List (Lts.Transition (System Backend) (Option (Action Backend)))} (h : (interleaved Backend).Run t σ)
    {r : RegistrationId} {rec : RegistrationRecord} (hr : σ.runtime.registrations.lookup r = some rec)
    (hl : rec.lifecycle = .revalidationRequired) : CleansUp σ.runtime r ↔ Unclaimed σ.runtime rec := by
  have hi := unhandled_run h
  have hh := hi.record r rec hr hl
  have hd : deregisterable rec.lifecycle = true := by rw [hl]; rfl
  constructor
  · rintro ⟨hok, -, hcharges⟩
    rcases deregister_cases σ.runtime r with ⟨e, he⟩ | ⟨rec', backends, ok, e, hr', hn, -, hrel, he⟩
    · rw [he] at hok
      cases hok
    · obtain rfl : rec = rec' := Option.some.inj (hr.symm.trans hr')
      rw [he] at hok hcharges
      obtain rfl : ok = true := hok
      exact ⟨hn, (hi.release_iff hh hrel).1 rfl, charges_invalidate.1 hcharges⟩
  · rintro ⟨hn, hb, hcharges⟩
    obtain ⟨backends, ok, e, hrel, he⟩ := deregister_accepted hr hn hd
    obtain rfl : ok = true := (hi.release_iff hh hrel).2 hb
    rw [if_pos rfl] at he
    constructor
    · rw [he]
    · rw [he, removed_lookup, if_pos rfl]
    · rw [he]
      exact charges_invalidate.2 hcharges

namespace Session

/-- The file of another session is recovered with the backend attached that its registration names. -/
def recoveredAttached : List (Action Backend) :=
  [.atomic (.recover (some file)), .atomic (.addBackend (some (.synthetic 0x52444D41)))]

/-- The same, with no backend attached. -/
def recoveredAlone : List (Action Backend) := [.atomic (.recover (some file))]

/-- The recovered registration has no lease, its deregistration is refused by the backend, and its record stays. -/
theorem recovered_not_cleaned_up :
    ∃ t rec, (interleaved Backend).Run t (System.run {} recoveredAttached) ∧
      (System.run {} recoveredAttached).runtime.registrations.lookup ⟨1⟩ = some rec ∧
      rec.lifecycle = .revalidationRequired ∧ rec.leaseCount = 0 ∧
      (System.run {} recoveredAttached).runtime.leases.entries = [] ∧
      ¬CleansUp (System.run {} recoveredAttached).runtime ⟨1⟩ := by
  have hstate : System.run {} recoveredAttached = _ := run_recover {} parse_file _
  have hrun : (interleaved Backend).Run _ (System.run {} recoveredAttached) := ⟨{}, rfl, System.path_run _ _⟩
  have hok : ((System.run {} recoveredAttached).runtime.deregister ⟨1⟩).2.1 = false := by
    rw [hstate]
    decide +kernel
  refine ⟨_, ((System.run {} recoveredAttached).runtime.registrations.lookup ⟨1⟩).getD {}, hrun, ?_, ?_, ?_, ?_, ?_⟩
  · rw [hstate]
    rfl
  · rw [hstate]
    rfl
  · rw [hstate]
    rfl
  · rw [hstate]
    rfl
  · rintro ⟨h, -, -⟩
    rw [hok] at h
    cases h

theorem recovered_cleans_up_alone :
    CleansUp (System.run {} recoveredAlone).runtime ⟨1⟩ := by
  have hstate : System.run {} recoveredAlone = _ := run_recover {} parse_file _
  have hrun : (interleaved Backend).Run _ (System.run {} recoveredAlone) := ⟨{}, rfl, System.path_run _ _⟩
  have hr : (System.run {} recoveredAlone).runtime.registrations.lookup ⟨1⟩ =
      some (((System.run {} recoveredAlone).runtime.registrations.lookup ⟨1⟩).getD {}) := by
    rw [hstate]
    rfl
  refine (recovered_cleans_up_iff hrun hr ?_).2 ?_
  · rw [hstate]
    rfl
  · rw [hstate]
    refine ⟨by decide +kernel, .inr rfl, ⟨rfl, .inr (by decide +kernel), fun _ => .inr (by decide +kernel), rfl, rfl⟩⟩

end Session

end RdmaBuffer
