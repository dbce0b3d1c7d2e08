/-
Lease generations. `acquire_lease` derives the generation of a lease from the lease count of the registration, which
`release_lease` takes down again: the generations it hands out on a registration rise exactly as long as no
acquisition follows one of these, or a record newly committed under the id, without an acquisition in between.
-/
import Mathlib.Data.List.Chain
import RdmaBuffer.Runtime.Execution
import RdmaBuffer.Runtime.Extents
import RdmaBuffer.Runtime.Leases

namespace RdmaBuffer

open Rdmabuffer

/-! ## The generations handed out -/

section

variable {β : Type}

/-- The lease `acquire_lease` returns, if it succeeds. -/
theorem acquireLease_lease (s : Rdmabuffer β) (registration : RegistrationId) (env : AuthorityEnvelope)
    (needed : AccessMask) :
    (if (s.acquireLease registration env needed).2.ok then some (s.acquireLease registration env needed).2.lease
      else none) =
      match s.registrations.lookup registration with
      | some rec => if grantable s rec env needed then some (newLease s registration rec env needed) else none
      | none => none := by
  have hspec := congrArg Prod.snd (acquireLease_spec s registration env needed)
  dsimp only at hspec
  rw [hspec]
  rcases s.registrations.lookup registration with _ | rec
  · rfl
  · dsimp only
    split <;> rfl

variable [IBackend β] [Environment β]

/-- The generation that an `acquire_lease` of the registration hands out in the step, if it succeeds. -/
def grantedTo (r : RegistrationId) (x : Lts.Transition (System β) (Option (Action β))) : Option UInt64 :=
  match x.label with
  | some (.atomic (.acquireLease k env needed)) =>
    let lr := (x.pre.runtime.acquireLease k env needed).2
    if k = r then if lr.ok then some lr.lease.leaseGeneration.value else none else none
  | _ => none

/-- The generations handed out on the registration, in order. -/
def leaseGenerations (r : RegistrationId) (t : List (Lts.Transition (System β) (Option (Action β)))) : List UInt64 :=
  t.filterMap (grantedTo r)

/-- The step commits a new record under the id. -/
def commitsTo (r : RegistrationId) (x : Lts.Transition (System β) (Option (Action β))) : Bool :=
  match x.label with
  | some (.registerCommit c) =>
    match x.pre.clients c with
    | some (.registered p _) => p.record.id == r
    | _ => false
  | _ => false

/-- The step lowers the lease count of the registration: it releases a lease of it while the count is not zero, or
commits a new record under the id. -/
def lowersCount (r : RegistrationId) (x : Lts.Transition (System β) (Option (Action β))) : Bool :=
  (match leaseOp x.pre x.label with
    | .release _ ls =>
      ls.registration == r && (x.pre.runtime.registrations.lookup r).any fun rec => rec.leaseCount > 0
    | _ => false) ||
  commitsTo r x

/-- A step after the last acquisition on the registration lowers its lease count. -/
def loweredSince (r : RegistrationId) (t : List (Lts.Transition (System β) (Option (Action β)))) : Bool :=
  (t.reverse.takeWhile fun x => (grantedTo r x).isNone).any (lowersCount r)

/-- If the step acquires a lease on a registration that had one before, the lease count was not lowered since then,
and one more lease does not wrap it. -/
def RisesAt (r : RegistrationId) (t : List (Lts.Transition (System β) (Option (Action β))))
    (x : Lts.Transition (System β) (Option (Action β))) : Prop :=
  (grantedTo r x).isSome → leaseGenerations r t ≠ [] →
    loweredSince r t = false ∧
      ∀ rec, x.pre.runtime.registrations.lookup r = some rec → rec.leaseCount.toNat + 1 < 2 ^ 64

/-! ## What one step hands out -/

omit [IBackend β] in
theorem grantedTo_acquire (r : RegistrationId) (σ σ' : System β) (k : RegistrationId) (env : AuthorityEnvelope)
    (needed : AccessMask) :
    grantedTo r ⟨σ, some (.atomic (.acquireLease k env needed)), σ'⟩ =
      if k = r then (if (σ.runtime.acquireLease k env needed).2.ok
        then some (σ.runtime.acquireLease k env needed).2.lease else none).map (·.leaseGeneration.value)
      else none := by
  unfold grantedTo
  dsimp only
  split
  · split <;> rfl
  · rfl

omit [IBackend β] in
/-- A step hands out a generation on the registration exactly if it issues a lease of it. -/
theorem grantedTo_cases (r : RegistrationId) (σ : System β) (l : Option (Action β)) (σ' : System β) :
    (∃ ls rec, leaseOp σ l = .issue ls ∧ ls.registration = r ∧ σ.runtime.registrations.lookup r = some rec ∧
        rec.lifecycle.isLive = true ∧ grantedTo r ⟨σ, l, σ'⟩ = some (rec.leaseCount + 1)) ∨
      grantedTo r ⟨σ, l, σ'⟩ = none ∧ ∀ ls, leaseOp σ l = .issue ls → ls.registration ≠ r := by
  by_cases hl : ∃ k env needed, l = some (.atomic (.acquireLease k env needed))
  · obtain ⟨k, env, needed, rfl⟩ := hl
    have hgrant := grantedTo_acquire r σ σ' k env needed
    rw [acquireLease_lease σ.runtime k env needed] at hgrant
    have hop : leaseOp σ (some (.atomic (.acquireLease k env needed))) = acquireOp σ.runtime k env needed := rfl
    unfold acquireOp at hop
    rcases hr : σ.runtime.registrations.lookup k with _ | rec
    · simp only [hr] at hgrant hop
      refine .inr ⟨by simpa using hgrant, ?_⟩
      rw [hop]
      simp
    · simp only [hr] at hgrant hop
      cases hg : grantable σ.runtime rec env needed with
      | false =>
        rw [hg] at hgrant hop
        refine .inr ⟨by simpa using hgrant, ?_⟩
        rw [hop]
        simp
      | true =>
        rw [hg, if_pos rfl] at hgrant hop
        by_cases hk : k = r
        · subst hk
          rw [if_pos rfl] at hgrant
          have hlive : rec.lifecycle.isLive = true := by
            simp only [grantable, Bool.and_eq_true] at hg
            exact hg.1.1.2
          exact .inl ⟨_, rec, hop, rfl, hr, hlive, hgrant⟩
        · rw [if_neg hk] at hgrant
          refine .inr ⟨hgrant, ?_⟩
          rw [hop]
          rintro ls ⟨⟩
          exact hk
  · refine .inr ⟨?_, ?_⟩
    · unfold grantedTo
      split
      · exact absurd ⟨_, _, _, ‹_›⟩ hl
      · rfl
    · intro ls hop
      have hs := leaseOp_step σ l
      rw [hop] at hs
      cases hs with
      | issue k env needed => exact absurd ⟨k, env, needed, rfl⟩ hl

/-- The lease count of a live record: that of a registration in flight if the step commits one under the id, and
otherwise that of a live record before, changed as the step changes it. -/
theorem liveCount_step {σ σ' : System β} {l : Option (Action β)} (h : (interleaved β).step σ l σ') {r : RegistrationId}
    {rec' : RegistrationRecord} (hr' : σ'.runtime.registrations.lookup r = some rec')
    (hlive : rec'.lifecycle.isLive = true) :
    (commitsTo r ⟨σ, l, σ'⟩ = true ∧ ∃ c p, σ.HasPending c p ∧ rec'.leaseCount = p.record.leaseCount) ∨
      commitsTo r ⟨σ, l, σ'⟩ = false ∧ ∃ rec, σ.runtime.registrations.lookup r = some rec ∧
        rec.lifecycle.isLive = true ∧ rec'.leaseCount = (leaseOp σ l).leaseCount r rec.leaseCount := by
  cases hc : commitsTo r ⟨σ, l, σ'⟩ with
  | true =>
    left
    refine ⟨rfl, ?_⟩
    unfold commitsTo at hc
    dsimp only at hc
    split at hc
    · rename_i c
      split at hc
      · rename_i p bout hcl
        obtain rfl := eq_of_beq hc
        obtain rfl : σ' = σ.exec (.registerCommit c) := h
        obtain rfl := Option.some.inj ((committed_lookup hcl).symm.trans hr')
        exact ⟨c, p, .inr ⟨bout, hcl⟩, rfl⟩
      · cases hc
    · cases hc
  | false =>
    right
    refine ⟨rfl, ?_⟩
    have hcommit : ∀ c p bout, l = some (.registerCommit c) → σ.clients c = some (.registered p bout) →
        p.record.id ≠ r := by
      rintro c p bout rfl hcl hid
      unfold commitsTo at hc
      simp only [hcl, hid, BEq.rfl, Bool.true_eq_false] at hc
    rcases leaseCount_step h hr' with (⟨c, p, bout, hl, hcl, hid, -⟩ | ⟨bytes, state, rec, -, -, -, -, rfl⟩) |
      ⟨rec, hr, hn⟩
    · exact absurd hid (hcommit c p bout hl hcl)
    · cases hlive
    · refine ⟨rec, hr, ?_, hn⟩
      cases liveOrigin h hr' hlive with
      | kept rec₀ n hr₀ hlive₀ he =>
        obtain rfl := Option.some.inj (hr.symm.trans hr₀)
        exact hlive₀
      | rotated rec₀ hl hr₀ hlive₀ he =>
        obtain rfl := Option.some.inj (hr.symm.trans hr₀)
        exact hlive₀
      | committed c p bout hl hcl hid he => exact absurd hid (hcommit c p bout hl hcl)

/-! ## The whole run -/

omit [IBackend β] in
theorem leaseGenerations_snoc (r : RegistrationId) (t : List (Lts.Transition (System β) (Option (Action β))))
    (x : Lts.Transition (System β) (Option (Action β))) :
    leaseGenerations r (t ++ [x]) = leaseGenerations r t ++ (grantedTo r x).toList := by
  unfold leaseGenerations
  rw [List.filterMap_append]
  cases hg : grantedTo r x <;> simp [hg]

omit [IBackend β] in
theorem loweredSince_snoc (r : RegistrationId) (t : List (Lts.Transition (System β) (Option (Action β))))
    (x : Lts.Transition (System β) (Option (Action β))) :
    loweredSince r (t ++ [x]) =
      if (grantedTo r x).isSome then false else lowersCount r x || loweredSince r t := by
  unfold loweredSince
  cases hg : grantedTo r x <;> simp [hg]

omit [IBackend β] [Environment β] in
/-- A rising list goes on rising exactly if what follows is above its last element. -/
theorem rises_concat {l : List UInt64} (hl : l.Pairwise (· < ·)) (g : UInt64) :
    (l ++ [g]).Pairwise (· < ·) ↔ ∀ g₀, l.getLast? = some g₀ → g₀ < g := by
  rw [← List.isChain_iff_pairwise] at hl ⊢
  rw [List.isChain_append]
  simp [hl]

/-- The lease count of a live registration is zero before its first lease; after that it is the generation of its last
one, or below that if it was lowered since. -/
structure Rising (r : RegistrationId) (t : List (Lts.Transition (System β) (Option (Action β)))) (σ : System β) :
    Prop where
  pending : ∀ c p, σ.HasPending c p → p.record.leaseCount = 0
  positive : ∀ g, (leaseGenerations r t).getLast? = some g → 0 < g
  first : leaseGenerations r t = [] → ∀ rec, σ.runtime.registrations.lookup r = some rec →
    rec.lifecycle.isLive = true → rec.leaseCount = 0
  kept : ∀ g, (leaseGenerations r t).getLast? = some g → loweredSince r t = false →
    ∀ rec, σ.runtime.registrations.lookup r = some rec → rec.lifecycle.isLive = true → rec.leaseCount = g
  lowered : ∀ g, (leaseGenerations r t).getLast? = some g → loweredSince r t = true →
    ∀ rec, σ.runtime.registrations.lookup r = some rec → rec.lifecycle.isLive = true → rec.leaseCount < g

theorem pending_step {σ σ' : System β} {l : Option (Action β)} (h : (interleaved β).step σ l σ')
    (hi : ∀ c p, σ.HasPending c p → p.record.leaseCount = 0) : ∀ c p, σ'.HasPending c p → p.record.leaseCount = 0 := by
  intro c p hp
  rcases hasPending_step h hp with hold | ⟨descriptor, backend, domain, env, b, -, -, rfl⟩
  · exact hi c p hold
  · rfl

omit [IBackend β] in
/-- A step that neither issues a lease of the registration nor commits a record under its id takes the lease count one
down, from above zero, or leaves it. -/
theorem leaseCount_quiet {σ : System β} {l : Option (Action β)} {σ' : System β} {r : RegistrationId}
    {rec : RegistrationRecord} (hr : σ.runtime.registrations.lookup r = some rec)
    (hissue : ∀ ls, leaseOp σ l = .issue ls → ls.registration ≠ r) (hc : commitsTo r ⟨σ, l, σ'⟩ = false) :
    (lowersCount r ⟨σ, l, σ'⟩ = true ∧ 0 < rec.leaseCount ∧
        (leaseOp σ l).leaseCount r rec.leaseCount = rec.leaseCount - 1) ∨
      lowersCount r ⟨σ, l, σ'⟩ = false ∧ (leaseOp σ l).leaseCount r rec.leaseCount = rec.leaseCount := by
  unfold lowersCount
  rw [hc, Bool.or_false]
  dsimp only
  generalize leaseOp σ l = op at hissue
  cases op with
  | issue ls => exact .inr ⟨rfl, if_neg (hissue ls rfl)⟩
  | release lease ls =>
    unfold LeaseOp.leaseCount
    simp only [hr, Option.any_some]
    by_cases h : ls.registration = r ∧ rec.leaseCount > 0
    · rw [if_pos h]
      exact .inl ⟨by simpa using h, h.2, rfl⟩
    · rw [if_neg h]
      refine .inr ⟨?_, rfl⟩
      rw [Bool.eq_false_iff]
      simpa using h
  | none | revoke | remove => exact .inr ⟨rfl, rfl⟩

omit [IBackend β] in
/-- The lease count of a live registration is at most the generation of its last lease. -/
theorem Rising.le_last {r : RegistrationId} {t : List (Lts.Transition (System β) (Option (Action β)))} {σ : System β}
    (hi : Rising r t σ) {g : UInt64} (hlast : (leaseGenerations r t).getLast? = some g) {rec : RegistrationRecord}
    (hr : σ.runtime.registrations.lookup r = some rec) (hlive : rec.lifecycle.isLive = true) : rec.leaseCount ≤ g := by
  cases hs : loweredSince r t with
  | true => exact UInt64.le_of_lt (hi.lowered g hlast hs rec hr hlive)
  | false => exact UInt64.le_of_eq (hi.kept g hlast hs rec hr hlive)

/-- A step that acquires no lease on the registration. -/
theorem rising_quiet {σ σ' : System β} {l : Option (Action β)} (h : (interleaved β).step σ l σ') {r : RegistrationId}
    {t : List (Lts.Transition (System β) (Option (Action β)))} (hi : Rising r t σ)
    (hg : grantedTo r ⟨σ, l, σ'⟩ = none) (hissue : ∀ ls, leaseOp σ l = .issue ls → ls.registration ≠ r) :
    Rising r (t ++ [⟨σ, l, σ'⟩]) σ' := by
  have hgen : leaseGenerations r (t ++ [⟨σ, l, σ'⟩]) = leaseGenerations r t := by
    rw [leaseGenerations_snoc, hg, Option.toList_none, List.append_nil]
  have hlow : loweredSince r (t ++ [⟨σ, l, σ'⟩]) = (lowersCount r ⟨σ, l, σ'⟩ || loweredSince r t) := by
    rw [loweredSince_snoc, hg, Option.isSome_none, if_neg Bool.false_ne_true]
  have hcommit : commitsTo r ⟨σ, l, σ'⟩ = true → lowersCount r ⟨σ, l, σ'⟩ = true := by
    intro hc
    rw [lowersCount, hc, Bool.or_true]
  refine ⟨pending_step h hi.pending, by rw [hgen]; exact hi.positive, ?_, ?_, ?_⟩
  · rw [hgen]
    intro hnil rec' hr' hlive
    rcases liveCount_step h hr' hlive with ⟨-, c, p, hp, hn⟩ | ⟨hc, rec, hr, hl, hn⟩
    · rw [hn, hi.pending c p hp]
    · have hzero := hi.first hnil rec hr hl
      rcases leaseCount_quiet hr hissue hc with ⟨-, hpos, -⟩ | ⟨-, hsame⟩
      · rw [hzero] at hpos
        exact absurd hpos (by decide)
      · rw [hn, hsame, hzero]
  · rw [hgen, hlow]
    intro g hlast hkept rec' hr' hlive
    rw [Bool.or_eq_false_iff] at hkept
    rcases liveCount_step h hr' hlive with ⟨hc, -⟩ | ⟨hc, rec, hr, hl, hn⟩
    · rw [hcommit hc] at hkept
      cases hkept.1
    · rcases leaseCount_quiet hr hissue hc with ⟨hlow, -⟩ | ⟨-, hsame⟩
      · rw [hlow] at hkept
        cases hkept.1
      · rw [hn, hsame, hi.kept g hlast hkept.2 rec hr hl]
  · rw [hgen, hlow]
    intro g hlast hlowered rec' hr' hlive
    rcases liveCount_step h hr' hlive with ⟨hc, c, p, hp, hn⟩ | ⟨hc, rec, hr, hl, hn⟩
    · rw [hn, hi.pending c p hp]
      exact hi.positive g hlast
    · rcases leaseCount_quiet hr hissue hc with ⟨-, hpos, hdown⟩ | ⟨hno, hsame⟩
      · -- the count was at most the last generation, and went down
        rw [hn, hdown]
        exact UInt64.sub_one_lt_of_le hpos (hi.le_last hlast hr hl)
      · rw [hno, Bool.false_or] at hlowered
        rw [hn, hsame]
        exact hi.lowered g hlast hlowered rec hr hl

omit [IBackend β] in
/-- The generations go on rising over an acquisition exactly if the step rises. -/
theorem rises_granted_iff {σ σ' : System β} {l : Option (Action β)} {r : RegistrationId}
    {t : List (Lts.Transition (System β) (Option (Action β)))} (hP : (leaseGenerations r t).Pairwise (· < ·))
    (hi : Rising r t σ) {rec : RegistrationRecord} (hr : σ.runtime.registrations.lookup r = some rec)
    (hlive : rec.lifecycle.isLive = true) (hg : grantedTo r ⟨σ, l, σ'⟩ = some (rec.leaseCount + 1)) :
    (leaseGenerations r (t ++ [⟨σ, l, σ'⟩])).Pairwise (· < ·) ↔ RisesAt r t ⟨σ, l, σ'⟩ := by
  have hrise : RisesAt r t ⟨σ, l, σ'⟩ ↔ (leaseGenerations r t ≠ [] →
      loweredSince r t = false ∧ rec.leaseCount.toNat + 1 < 2 ^ 64) := by
    unfold RisesAt
    simp [hg, hr]
  rw [leaseGenerations_snoc, hg, Option.toList_some, rises_concat hP, hrise]
  have hlt := rec.leaseCount.toNat_lt
  constructor
  · intro hall hne
    obtain ⟨g, hlast⟩ := Option.isSome_iff_exists.1 (List.getLast?_isSome.2 hne)
    have hlt' := hall g hlast
    rw [UInt64.lt_iff_toNat_lt, UInt64.toNat_add, UInt64.toNat_one] at hlt'
    cases hs : loweredSince r t with
    | true =>
      have := hi.lowered g hlast hs rec hr hlive
      rw [UInt64.lt_iff_toNat_lt] at this
      omega
    | false =>
      have := hi.kept g hlast hs rec hr hlive
      rw [this] at hlt' hlt ⊢
      exact ⟨rfl, by omega⟩
  · intro hc g hlast
    have hne : leaseGenerations r t ≠ [] := by
      rintro hnil
      rw [hnil] at hlast
      cases hlast
    obtain ⟨hs, hbound⟩ := hc hne
    rw [← hi.kept g hlast hs rec hr hlive, UInt64.lt_iff_toNat_lt, UInt64.toNat_add, UInt64.toNat_one]
    omega

/-- If they do, the lease count is the new generation. -/
theorem rising_granted {σ σ' : System β} {l : Option (Action β)} (h : (interleaved β).step σ l σ') {r : RegistrationId}
    {t : List (Lts.Transition (System β) (Option (Action β)))} (hi : Rising r t σ) {ls : Lease}
    {rec : RegistrationRecord} (hop : leaseOp σ l = .issue ls) (hls : ls.registration = r)
    (hr : σ.runtime.registrations.lookup r = some rec) (hlive : rec.lifecycle.isLive = true)
    (hg : grantedTo r ⟨σ, l, σ'⟩ = some (rec.leaseCount + 1))
    (hP' : (leaseGenerations r (t ++ [⟨σ, l, σ'⟩])).Pairwise (· < ·)) : Rising r (t ++ [⟨σ, l, σ'⟩]) σ' := by
  have hgen : leaseGenerations r (t ++ [⟨σ, l, σ'⟩]) = leaseGenerations r t ++ [rec.leaseCount + 1] := by
    rw [leaseGenerations_snoc, hg, Option.toList_some]
  have hlow : loweredSince r (t ++ [⟨σ, l, σ'⟩]) = false := by
    rw [loweredSince_snoc, hg, Option.isSome_some, if_pos rfl]
  have hlast : (leaseGenerations r (t ++ [⟨σ, l, σ'⟩])).getLast? = some (rec.leaseCount + 1) := by
    rw [hgen, List.getLast?_append, List.getLast?_singleton, Option.some_or]
  rw [hgen] at hP'
  have hall := (rises_concat (List.pairwise_append.1 hP').1 _).1 hP'
  refine ⟨pending_step h hi.pending, ?_, ?_, ?_, ?_⟩
  · rw [hlast]
    rintro _ ⟨⟩
    rcases hnil : (leaseGenerations r t).getLast? with _ | g
    · rw [hi.first (List.getLast?_eq_none_iff.1 hnil) rec hr hlive]
      decide
    · have := hall g hnil
      rw [UInt64.lt_iff_toNat_lt] at this ⊢
      rw [UInt64.toNat_zero]
      omega
  · intro hnil
    rw [hnil] at hlast
    cases hlast
  · rw [hlast]
    rintro _ ⟨⟩ - rec' hr' hlive'
    rcases liveCount_step h hr' hlive' with ⟨hc, -⟩ | ⟨-, rec₀, hr₀, -, hn⟩
    · -- the step acquires a lease, so it commits nothing
      have hs := leaseOp_step σ l
      rw [hop] at hs
      cases hs with
      | issue => cases hc
    · obtain rfl := Option.some.inj (hr.symm.trans hr₀)
      rw [hn, hop]
      exact if_pos hls
  · rw [hlow]
    rintro _ _ ⟨⟩

theorem rising_step {σ σ' : System β} {l : Option (Action β)} (h : (interleaved β).step σ l σ') {r : RegistrationId}
    {t : List (Lts.Transition (System β) (Option (Action β)))} (hP : (leaseGenerations r t).Pairwise (· < ·))
    (hi : Rising r t σ) :
    ((leaseGenerations r (t ++ [⟨σ, l, σ'⟩])).Pairwise (· < ·) ↔ RisesAt r t ⟨σ, l, σ'⟩) ∧
      ((leaseGenerations r (t ++ [⟨σ, l, σ'⟩])).Pairwise (· < ·) → Rising r (t ++ [⟨σ, l, σ'⟩]) σ') := by
  rcases grantedTo_cases r σ l σ' with ⟨ls, rec, hop, hls, hr, hlive, hg⟩ | ⟨hg, hissue⟩
  · exact ⟨rises_granted_iff hP hi hr hlive hg, rising_granted h hi hop hls hr hlive hg⟩
  · refine ⟨iff_of_true ?_ ?_, fun _ => rising_quiet h hi hg hissue⟩
    · rw [leaseGenerations_snoc, hg, Option.toList_none, List.append_nil]
      exact hP
    · intro hsome
      rw [hg] at hsome
      cases hsome

/-- In every run, the generations handed out on a registration are strictly increasing exactly when every acquisition
on it that is not the first finds its lease count not lowered since the one before, and below its highest value. -/
theorem lease_generations_iff (r : RegistrationId) {σ : System β}
    {t : List (Lts.Transition (System β) (Option (Action β)))} (h : (interleaved β).Run t σ) :
    (leaseGenerations r t).Pairwise (· < ·) ↔ ∀ t₁ x t₂, t = t₁ ++ x :: t₂ → RisesAt r t₁ x := by
  refine h.trace_iff (P := fun t => (leaseGenerations r t).Pairwise (· < ·)) (J := Rising r) .nil ?_ ?_
    fun t σ l σ' hs hP hi => rising_step hs hP hi
  · intro t x hP
    rw [leaseGenerations_snoc] at hP
    exact (List.pairwise_append.1 hP).1
  · rintro _ rfl
    refine ⟨?_, ?_, ?_, ?_, ?_⟩
    · rintro c p (hp | ⟨bout, hp⟩) <;> cases hp
    · intro g hg
      cases hg
    · rintro - rec hr
      cases hr
    · intro g hg
      cases hg
    · intro g hg
      cases hg

end

/-! ## A lease released between two others -/

namespace Session

/-- Two leases on the registered page. -/
def leasesTwice : List (Action Backend) :=
  registration 0 page ++ [.atomic (.acquireLease ⟨1⟩ envelope 0x08), .atomic (.acquireLease ⟨1⟩ envelope 0x08)]

/-- Two leases on the registered page, the release of the first, and a third. -/
def leasesReleased : List (Action Backend) :=
  leasesTwice ++ [.atomic (.releaseLease ⟨1⟩), .atomic (.acquireLease ⟨1⟩ envelope 0x08)]

/-- The third lease has the generation of the second, which is held. -/
theorem lease_generation_repeated : ∃ t, (interleaved Backend).Run t (after leasesReleased) ∧
    leaseGenerations ⟨1⟩ t = [1, 2, 2] ∧ ¬(leaseGenerations ⟨1⟩ t).Pairwise (· < ·) ∧
    ∃ l₂ l₃, (after leasesReleased).runtime.leases.lookup ⟨2⟩ = some l₂ ∧
      (after leasesReleased).runtime.leases.lookup ⟨3⟩ = some l₃ ∧ l₂.registration = l₃.registration ∧
      l₂.state = .active ∧ l₃.state = .active ∧ l₂.leaseGeneration = l₃.leaseGeneration := by
  have hr : (interleaved Backend).Run _ (after leasesReleased) := ⟨{}, rfl, System.path_run _ _⟩
  exact ⟨_, hr, by decide +kernel, by decide +kernel, _, _, rfl, rfl, by decide +kernel⟩

theorem lease_generations_rise : ∃ t, (interleaved Backend).Run t (after leasesTwice) ∧
    leaseGenerations ⟨1⟩ t = [1, 2] ∧ ∀ t₁ x t₂, t = t₁ ++ x :: t₂ → RisesAt ⟨1⟩ t₁ x := by
  have hr : (interleaved Backend).Run _ (after leasesTwice) := ⟨{}, rfl, System.path_run _ _⟩
  exact ⟨_, hr, by decide +kernel, (lease_generations_iff ⟨1⟩ hr).1 (by decide +kernel)⟩

end Session

end RdmaBuffer
