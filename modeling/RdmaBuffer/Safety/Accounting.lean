/-
Exact accounting of registrations. The history of a run says which registrations are charged: from the
commit on, until the first operation that withdraws the registration. The counters are compared with
that history, not with the records; the audit ties the two together.
-/
import Mathlib.Data.List.Infix
import RdmaBuffer.Runtime.AuditStep
import RdmaBuffer.Runtime.Execution

namespace RdmaBuffer

open Rdmabuffer

variable {β : Type} [IBackend β] [Environment β]

/-! ## The history of the charges -/

/-- A transition of sequential clients. -/
abbrev OpTransition (β : Type) [Environment β] := Lts.Transition (Rdmabuffer β) (Option (Op β))

/-- The charged registrations, each with its length and its memory domain. -/
abbrev Charges := Table RegistrationId (UInt64 × MemoryDomain)

def Charges.bytes (g : Charges) : Nat := Table.total (fun c => c.1.toNat) g

def Charges.pinned (g : Charges) : Nat := Table.total (fun c => pinnedPart c.1 c.2) g

/-- The step brings the record of `r` into the lifecycle. -/
def turns (x : OpTransition β) (lifecycle : RegistrationLifecycle) (r : RegistrationId) :
    Bool :=
  (x.pre.registrations.lookup r).map (·.lifecycle) != some lifecycle &&
    (x.post.registrations.lookup r).map (·.lifecycle) == some lifecycle

/-- The step withdraws `r`: create_buffer makes it STALE, destroy_protection_domain makes it REVOKED, or
deregister removes it. -/
def withdraws (x : OpTransition β) (r : RegistrationId) : Bool :=
  match x.label with
  | some (.atomic (.createBuffer _)) => turns x .stale r
  | some (.atomic (.destroyProtectionDomain _)) => turns x .revoked r
  | some (.deregister _) => (x.pre.registrations.lookup r).isSome && (x.post.registrations.lookup r).isNone
  | _ => false

/-- The registration the step commits: the id that register_buffer returns, and its record. -/
def commits (x : OpTransition β) : Option (RegistrationId × RegistrationRecord) :=
  match x.label with
  | some (.registerBuffer descriptor backend domain env) =>
    let result := (x.pre.registerBuffer descriptor backend domain env).2
    if result.ok then (x.post.registrations.lookup result.registration).map fun rec => (result.registration, rec)
    else none
  | _ => none

def charge (g : Charges) (x : OpTransition β) : Charges :=
  match commits x with
  | some (r, rec) => Table.put r rec.extent g
  | none => Table.eraseIf (fun r _ => withdraws x r) g

/-- The charges after the transitions of a run. -/
def charged (t : List (OpTransition β)) : Charges := t.foldl charge ∅

/-- How often the run withdrew `r`. -/
def withdrawals (t : List (OpTransition β)) (r : RegistrationId) : Nat :=
  t.countP fun x => withdraws x r

/-- The counters, the withdrawals and the decrements of a run that ended in `s`. -/
structure ExactAccounting (t : List (OpTransition β)) (s : Rdmabuffer β) : Prop where
  counters : Balance s.acct (charged t).entries.length (charged t).bytes (charged t).pinned
  once : ∀ r, withdrawals t r ≤ 1
  accepted : ∀ x ∈ t, ∀ op, x.label = some op → decrementsAccepted x.pre op = true
  closed : s.registrations = ∅ → Balance s.acct 0 0 0

/-! ## The charges on the books -/

/-- What the record of `r` is charged with, if it is on the books. -/
def chargeOf (s : Rdmabuffer β) (r : RegistrationId) : Option (UInt64 × MemoryDomain) :=
  (s.registrations.lookup r).bind fun rec => if writtenOff rec then none else some rec.extent

omit [IBackend β] [Environment β] in
theorem chargeOf_some {s : Rdmabuffer β} {r : RegistrationId} {rec : RegistrationRecord}
    (hr : s.registrations.lookup r = some rec) (hw : writtenOff rec = false) : chargeOf s r = some rec.extent := by
  simp [chargeOf, hr, hw]

omit [IBackend β] [Environment β] in
/-- Charges that agree with the books have their sums. -/
theorem total_charges {g : Charges} {s : Rdmabuffer β} (h : ∀ r, g.lookup r = chargeOf s r)
    (w : UInt64 × MemoryDomain → Nat) : Table.total w g = chargeTotal w s.registrations := by
  have hlookup : ∀ r, g.lookup r = (Table.mapVals (fun _ rec => rec.extent)
      (Table.eraseIf (fun _ rec => writtenOff rec) s.registrations)).lookup r := by
    intro r
    rw [h, Table.lookup_mapVals, Table.lookup_eraseIf, chargeOf]
    rcases s.registrations.lookup r with _ | rec
    · rfl
    · cases hw : writtenOff rec <;> simp [hw]
  rw [Table.total_congr hlookup, Table.total_mapVals]
  exact Table.total_eraseIf (fun rec => w rec.extent) writtenOff s.registrations

/-- What a step that commits nothing does to the charge of `r`: it withdraws it, or leaves it. -/
def WithdrawsOrLeaves (x : OpTransition β) (r : RegistrationId) : Prop :=
  (withdraws x r = true ∧ (∃ rec, x.pre.registrations.lookup r = some rec ∧ writtenOff rec = false) ∧
    chargeOf x.post r = none) ∨ (withdraws x r = false ∧ chargeOf x.post r = chargeOf x.pre r)

omit [IBackend β] in
theorem turns_same {x : OpTransition β} {r : RegistrationId}
    (h : (x.post.registrations.lookup r).map (·.lifecycle) = (x.pre.registrations.lookup r).map (·.lifecycle))
    (lc : RegistrationLifecycle) : turns x lc r = false := by
  unfold turns
  rw [h]
  cases hl : (x.pre.registrations.lookup r).map (·.lifecycle) == some lc <;> simp_all

omit [IBackend β] in
/-- An operation that leaves a record its lifecycle withdraws nothing. -/
theorem withdraws_same {s s' : Rdmabuffer β} {op : AtomicOp β} {r : RegistrationId}
    (h : (s'.registrations.lookup r).map (·.lifecycle) = (s.registrations.lookup r).map (·.lifecycle)) :
    withdraws ⟨s, some (.atomic op), s'⟩ r = false := by
  cases op with
  | createBuffer | destroyProtectionDomain => exact turns_same h _
  | _ => rfl

theorem effect_charge {s s' : Rdmabuffer β} {op : AtomicOp β} (he : Effect s op s')
    (hr : Op.recovers (some (.atomic op)) = false) (hi : Audited s) (r : RegistrationId) :
    WithdrawsOrLeaves ⟨s, some (.atomic op), s'⟩ r := by
  have hrec : RecordStep { runtime := s } (some (.atomic op)) r (s.registrations.lookup r)
      (s'.registrations.lookup r) := effect_recordStep _ he r
  have hint := hi.intact r
  have hsame : _ → withdraws ⟨s, some (.atomic op), s'⟩ r = false := withdraws_same
  unfold WithdrawsOrLeaves withdraws turns chargeOf at *
  dsimp only at *
  generalize s.registrations.lookup r = o, s'.registrations.lookup r = o' at *
  cases hrec with
  | keep => exact .inr ⟨hsame rfl, rfl⟩
  | leases rec n => exact .inr ⟨hsame rfl, rfl⟩
  -- a live record of the domain is charged before the step and off the books after it
  | destroyed d rec hop hit =>
    cases hop
    have hl := inDomain_live hit
    refine .inl ⟨?_, ⟨rec, rfl, hint rec rfl (.inl hl)⟩, by simp [writtenOff_destroyed]⟩
    have hne : rec.lifecycle ≠ .revoked := fun h => by rw [h] at hl; cases hl
    simp [withdraw, hne]
  | reallocated descriptor rec hop hit =>
    cases hop
    have hl := onBuffer_live hit
    refine .inl ⟨?_, ⟨rec, rfl, hint rec rfl hl⟩, by simp [writtenOff_reallocated]⟩
    have hne : rec.lifecycle ≠ .stale := fun h => by rcases hl with hl | hl <;> (rw [h] at hl; cases hl)
    simp [withdraw, hne]
  -- a revoked record stays charged
  | hardRevoked rec hop hlive =>
    cases hop
    refine .inr ⟨rfl, ?_⟩
    simp only [Option.bind_some, writtenOff_hardRevoked, hint rec rfl (.inl hlive)]
    rfl
  | softRevoked rec hop hlive =>
    cases hop
    refine .inr ⟨rfl, ?_⟩
    simp only [Option.bind_some, writtenOff_softRevoked, hint rec rfl (.inl hlive)]
    rfl
  | rotated rec hop hlive => exact .inr ⟨hsame rfl, rfl⟩
  | recovered bytes state rec o hop => cases hop; cases hr
  | committed c p bout o hop => cases hop
  | deregistering c rec hop => cases hop
  | failed c d bo rec hop => cases hop
  | removed c d rec hop => cases hop

/-- A step that commits nothing withdraws what is charged, or leaves it. -/
theorem opStep_charge {s s' : Rdmabuffer β} {op : Op β} (hs : OpStep s op s') (hr : Op.recovers (some op) = false)
    (hc : givesBackTwice s (some op) = false) (hi : Audited s) (hn : commits ⟨s, some op, s'⟩ = none)
    (r : RegistrationId) : WithdrawsOrLeaves ⟨s, some op, s'⟩ r := by
  -- a withdrawal and a deregistration give back what was charged; the rest keeps the lifecycle
  cases hs with
  | atomic op s' he => exact effect_charge he hr hi r
  | registerRefused | registerFailed => exact .inr ⟨rfl, rfl⟩
  | deregisterRefused k =>
    refine .inr ⟨?_, rfl⟩
    cases h : s.registrations.lookup r <;> simp [withdraws, h]
  | registered descriptor backend domain env b b' bo bout hv he ho hok hid =>
    simp [commits, hok, hid, registerCommit_lookup, pending, pendingRecord] at hn
  | deregistered k rec backends hk hn' hd hrel =>
    have hw : writtenOff rec = false := by
      simpa [givesBackTwice, hk, hn', hd, hrel.ok_eq] using hc
    by_cases hrk : r = k
    · subst hrk
      refine .inl ⟨?_, ⟨rec, hk, hw⟩, ?_⟩
      · simp [withdraws, removed_lookup, hk]
      · simp [chargeOf, removed_lookup]
    · refine .inr ⟨?_, ?_⟩
      · cases h : s.registrations.lookup r <;> simp [withdraws, removed_lookup, hrk, h]
      · simp [chargeOf, removed_lookup, hrk]
  | deregisterFailed k rec backends hk hn' hd hrel =>
    refine .inr ⟨?_, ?_⟩
    · by_cases hrk : r = k
      · simp [withdraws, failed_lookup, hrk]
      · cases h : s.registrations.lookup r <;> simp [withdraws, failed_lookup, hrk, h]
    · by_cases hrk : r = k
      · subst hrk
        simp only [chargeOf, failed_lookup, if_true, hk, Option.bind_some]
        rfl
      · simp [chargeOf, failed_lookup, hrk]

/-- A step that commits draws the id, charges it, and withdraws nothing. -/
theorem opStep_commits {s s' : Rdmabuffer β} {op : Op β} (hs : OpStep s op s') {k : RegistrationId}
    {rec : RegistrationRecord} (hc : commits ⟨s, some op, s'⟩ = some (k, rec)) :
    k = ⟨s.nextRegistration⟩ ∧ s'.nextRegistration = s.nextRegistration + 1 ∧
      (∀ r, chargeOf s' r = if r = k then some rec.extent else chargeOf s r) ∧
      ∀ r, withdraws ⟨s, some op, s'⟩ r = false := by
  cases hs with
  | atomic | deregisterRefused | deregistered | deregisterFailed => cases hc
  | registerRefused descriptor backend domain env hok => simp [commits, hok] at hc
  | registerFailed descriptor backend domain env b b' bo bout hv he ho hok => simp [commits, hok] at hc
  | registered descriptor backend domain env b b' bo bout hv he ho hok hid =>
    simp only [commits, hok, hid, registerCommit_lookup, if_true, Option.map_eq_some_iff, Prod.mk.injEq] at hc
    obtain ⟨rec₀, hrec₀, rfl, rfl⟩ := hc
    obtain rfl := Option.some.inj ((if_pos rfl).symm.trans hrec₀)
    refine ⟨rfl, rfl, fun r => ?_, fun r => rfl⟩
    simp only [chargeOf, registerCommit_lookup]
    by_cases hr : r = ⟨s.nextRegistration⟩
    · have hr' : r = (pending s b descriptor backend domain env).record.id := hr
      rw [if_pos hr, if_pos hr', Option.bind_some, writtenOff_committed]
      rfl
    · have hr' : ¬r = (pending s b descriptor backend domain env).record.id := hr
      rw [if_neg hr, if_neg hr']
      rfl

/-! ## The run -/

/-- The history and the books agree: the charges are those on the books, and what was withdrawn was
withdrawn once, is off the books and has an id that is not drawn again. -/
structure Accounted (t : List (OpTransition β)) (s : Rdmabuffer β) : Prop where
  audited : Audited s
  charges : ∀ r, (charged t).lookup r = chargeOf s r
  once : ∀ r, withdrawals t r ≤ 1
  spent : ∀ r, withdrawals t r = 1 → chargeOf s r = none ∧ r.value.toNat < s.nextRegistration.toNat

theorem charged_snoc (t : List (OpTransition β)) (x : OpTransition β) : charged (t ++ [x]) = charge (charged t) x := by
  simp [charged]

omit [IBackend β] in
theorem withdrawals_snoc (t : List (OpTransition β)) (x : OpTransition β) (r : RegistrationId) :
    withdrawals (t ++ [x]) r = withdrawals t r + if withdraws x r = true then 1 else 0 := by
  simp [withdrawals]

/-- What a run may not do for its accounting to be exact, and the sums that have to stay in range. -/
structure Regular (t : List (OpTransition β)) (x : OpTransition β) : Prop where
  recovers : Op.recovers x.label = false
  givesBack : givesBackTwice x.pre x.label = false
  counting : counting x.post = true
  registered : (charged (t ++ [x])).bytes < 2 ^ 64
  live : Table.total bufferBytes x.post.buffers < 2 ^ 64

/-- A step that commits nothing keeps the history and the books in agreement. -/
theorem charges_kept {t : List (OpTransition β)} {x : OpTransition β} (hi : Accounted t x.pre)
    (hn : commits x = none) (h : ∀ r, WithdrawsOrLeaves x r) (r : RegistrationId) :
    (charged (t ++ [x])).lookup r = chargeOf x.post r := by
  rw [charged_snoc, charge, hn, Table.lookup_eraseIf, hi.charges]
  rcases h r with ⟨hw, -, hpost⟩ | ⟨hw, hpost⟩
  · rw [hpost, hw]
    cases chargeOf x.pre r <;> rfl
  · rw [hpost, hw]
    cases chargeOf x.pre r <;> rfl

theorem once_kept {t : List (OpTransition β)} {x : OpTransition β} (hi : Accounted t x.pre)
    (h : ∀ r, WithdrawsOrLeaves x r) (r : RegistrationId) :
    withdrawals (t ++ [x]) r ≤ 1 ∧ (withdrawals (t ++ [x]) r = 1 → chargeOf x.post r = none ∧
      r.value.toNat < x.pre.nextRegistration.toNat) := by
  rw [withdrawals_snoc]
  have hle := hi.once r
  rcases h r with ⟨hw, ⟨rec, hr, hoff⟩, hpost⟩ | ⟨hw, hpost⟩
  · have hne : withdrawals t r ≠ 1 := by
      intro h1
      have := (hi.spent r h1).1
      rw [chargeOf_some hr hoff] at this
      cases this
    rw [if_pos hw]
    exact ⟨by omega, fun _ => ⟨hpost, hi.audited.drawn r rec hr⟩⟩
  · rw [if_neg (by simp [hw]), hpost]
    exact ⟨hle, hi.spent r⟩

/-- A step that commits keeps the history and the books in agreement. -/
theorem accounted_commit {t : List (OpTransition β)} {s s' : Rdmabuffer β} {op : Op β} (hs : OpStep s op s')
    (hi : Accounted t s) {k : RegistrationId} {rec : RegistrationRecord}
    (hc : commits ⟨s, some op, s'⟩ = some (k, rec)) (hn : s'.nextRegistration ≠ 0) :
    (∀ r, (charged (t ++ [⟨s, some op, s'⟩])).lookup r = chargeOf s' r) ∧
      ∀ r, withdrawals (t ++ [⟨s, some op, s'⟩]) r ≤ 1 ∧ (withdrawals (t ++ [⟨s, some op, s'⟩]) r = 1 →
        chargeOf s' r = none ∧ r.value.toNat < s'.nextRegistration.toNat) := by
  obtain ⟨rfl, hnext, hcharge, hw⟩ := opStep_commits hs hc
  refine ⟨fun r => ?_, fun r => ?_⟩
  · rw [charged_snoc, charge, hc, hcharge]
    dsimp only
    rw [Table.lookup_put, hi.charges]
  · rw [withdrawals_snoc, if_neg (by simp [hw])]
    refine ⟨hi.once r, fun h1 => ?_⟩
    obtain ⟨hoff, hlt⟩ := hi.spent r h1
    have hne : r ≠ ⟨s.nextRegistration⟩ := by
      rintro rfl
      exact absurd hlt (lt_irrefl _)
    rw [hcharge, if_neg hne, hnext, UInt64.toNat_succ (hnext ▸ hn)]
    exact ⟨hoff, hlt.trans (Nat.lt_succ_self _)⟩

theorem accounted_step {t : List (OpTransition β)} {s s' : Rdmabuffer β} {l : Option (Op β)}
    (h : (sequential β).step s l s') (hreg : Regular t ⟨s, l, s'⟩) (hi : Accounted t s) :
    Accounted (t ++ [⟨s, l, s'⟩]) s' := by
  cases l with
  | none =>
    have h : Rehash s s' := h
    have hoff : ∀ r, WithdrawsOrLeaves ⟨s, none, s'⟩ r := fun r => .inr ⟨rfl, by
      simp only [chargeOf, Table.lookup_perm h.registrations]⟩
    refine ⟨audited_rehash h hi.audited, charges_kept hi rfl hoff, fun r => (once_kept hi hoff r).1, fun r h1 => ?_⟩
    rw [h.others]
    exact (once_kept hi hoff r).2 h1
  | some op =>
    obtain rfl : s' = op.run s := h
    have hs := op.run_cases s
    have hn : (op.run s).nextRegistration ≠ 0 := by
      have := hreg.counting
      simp only [counting, Bool.and_eq_true, bne_iff_ne] at this
      exact this.1.1
    obtain ⟨hcharges, honce⟩ : (∀ r, (charged (t ++ [⟨s, some op, op.run s⟩])).lookup r = chargeOf (op.run s) r) ∧
        ∀ r, withdrawals (t ++ [⟨s, some op, op.run s⟩]) r ≤ 1 ∧ (withdrawals (t ++ [⟨s, some op, op.run s⟩]) r = 1 →
          chargeOf (op.run s) r = none ∧ r.value.toNat < (op.run s).nextRegistration.toNat) := by
      rcases hc : commits ⟨s, some op, op.run s⟩ with _ | ⟨k, rec⟩
      · have hoff := opStep_charge hs hreg.recovers hreg.givesBack hi.audited hc
        refine ⟨charges_kept hi hc hoff, fun r => ⟨(once_kept hi hoff r).1, fun h1 => ?_⟩⟩
        obtain ⟨hnone, hlt⟩ := (once_kept hi hoff r).2 h1
        exact ⟨hnone, hlt.trans_le (opStep_nextRegistration hs hn)⟩
      · exact accounted_commit hs hi hc hn
    refine ⟨?_, hcharges, fun r => (honce r).1, fun r h1 => (honce r).2 h1⟩
    refine audited_opStep hs hreg.recovers hreg.givesBack hreg.counting ?_ hreg.live hi.audited
    rw [← total_charges hcharges]
    exact hreg.registered

theorem accounted_run {t : List (OpTransition β)} {s : Rdmabuffer β} (h : (sequential β).Run t s)
    (hc : ∀ t₁ x t₂, t = t₁ ++ x :: t₂ → Regular t₁ x) : Accounted t s := by
  refine h.trace_inv (I := Accounted) (C := Regular) ?_ (fun t s l s' hs hreg hi => accounted_step hs hreg hi) hc
  rintro _ rfl
  exact ⟨audited_init, fun r => rfl, fun r => Nat.zero_le _, fun r h => by cases h⟩

/-- Exact accounting: in every run without a recovery that gives nothing back twice, the counters of
registrations are those of the charged registrations, each registration is withdrawn at most once, no
decrement is refused, and an empty table leaves all five counters at zero. -/
theorem exact_accounting (t : List (OpTransition β)) (s : Rdmabuffer β) (h : (sequential β).Run t s)
    (hrecovers : ∀ x ∈ t, Op.recovers x.label = false) (htwice : ∀ x ∈ t, givesBackTwice x.pre x.label = false)
    (hcounting : ∀ x ∈ t, counting x.post = true) (hregistered : ∀ u ∈ t.inits, (charged u).bytes < 2 ^ 64)
    (hlive : ∀ x ∈ t, Table.total bufferBytes x.post.buffers < 2 ^ 64) : ExactAccounting t s := by
  have hreg : ∀ t₁ x t₂, t = t₁ ++ x :: t₂ → Regular t₁ x := by
    rintro t₁ x t₂ rfl
    have hx : x ∈ t₁ ++ x :: t₂ := by simp
    exact ⟨hrecovers x hx, htwice x hx, hcounting x hx,
      hregistered _ ((List.mem_inits (t₁ ++ [x]) _).2 ⟨t₂, by simp⟩), hlive x hx⟩
  have hi := accounted_run h hreg
  refine ⟨?_, hi.once, fun x hx op hop => ?_, fun hempty => ?_⟩
  · have hlen : (charged t).entries.length = Table.total (fun _ => 1) (charged t) := by simp [Table.total]
    rw [hlen, Charges.bytes, Charges.pinned, total_charges hi.charges, total_charges hi.charges,
      total_charges hi.charges]
    exact hi.audited.balanced
  · obtain ⟨t₁, t₂, rfl, hrun, -, -⟩ := h.at_mem hx
    have hpre := accounted_run hrun fun u y v hu => hreg u y (v ++ x :: t₂) (by rw [hu]; simp)
    exact decrementsAccepted_of_audited hpre.audited op (hop ▸ htwice x hx)
  · have hb := hi.audited.balanced
    unfold Balanced at hb
    rwa [hempty] at hb

open Session

/-- A second buffer of a page. -/
def otherPage : BufferDescriptor := { page with id := ⟨2⟩ }

/-- The page registered, allocated anew, and registered again. -/
def renewals : List (Op Backend) :=
  [.registerBuffer page synthetic ⟨1⟩ envelope, .atomic (.createBuffer { page with generation := ⟨2⟩ }),
    .atomic (.createBuffer otherPage), .registerBuffer otherPage synthetic ⟨1⟩ envelope]

theorem exact_accounting_renewals : ∃ t s, (sequential Backend).Run t s ∧
    (∀ x ∈ t, Op.recovers x.label = false) ∧ (∀ x ∈ t, givesBackTwice x.pre x.label = false) ∧
      (charged t).entries.length = 1 ∧ ExactAccounting t s := by
  have hr : (sequential Backend).Run (Rdmabuffer.trace {} (setup.map .atomic ++ renewals)) (afterOps renewals) :=
    ⟨{}, rfl, Rdmabuffer.path_run _ _⟩
  have h₁ : ∀ x ∈ Rdmabuffer.trace {} (setup.map .atomic ++ renewals), Op.recovers x.label = false := by decide
  have h₂ : ∀ x ∈ Rdmabuffer.trace {} (setup.map .atomic ++ renewals), givesBackTwice x.pre x.label = false := by
    decide
  exact ⟨_, _, hr, h₁, h₂, by decide, exact_accounting _ _ hr h₁ h₂ (by decide) (by decide) (by decide)⟩

/-- A registration that a new allocation withdrew is withdrawn again by deregister: the registration that
is still charged is no longer counted. -/
theorem withdrawn_twice : ∃ t s, (sequential Backend).Run t s ∧ (∀ x ∈ t, Op.recovers x.label = false) ∧
    (∀ x ∈ t, counting x.post = true) ∧ (∀ u ∈ t.inits, (charged u).bytes < 2 ^ 64) ∧
    (∀ x ∈ t, Table.total bufferBytes x.post.buffers < 2 ^ 64) ∧ ¬ExactAccounting t s ∧
    withdrawals t ⟨1⟩ = 2 ∧ (charged t).entries.length = 1 ∧ s.acct.activeRegistrations.value = 0 := by
  have hr : (sequential Backend).Run (Rdmabuffer.trace {} (setup.map .atomic ++ (renewals ++ [.deregister ⟨1⟩])))
      (afterOps (renewals ++ [.deregister ⟨1⟩])) := ⟨{}, rfl, Rdmabuffer.path_run _ _⟩
  have hw : withdrawals (Rdmabuffer.trace {} (setup.map .atomic ++ (renewals ++ [.deregister ⟨1⟩]))) ⟨1⟩ = 2 := by
    decide
  refine ⟨_, _, hr, by decide, by decide, by decide, by decide, fun h => ?_, hw, by decide, by decide⟩
  have := h.once ⟨1⟩
  omega

end RdmaBuffer
