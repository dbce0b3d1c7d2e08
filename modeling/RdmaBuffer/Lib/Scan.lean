/-
A scan for the least key among the elements of a list that qualify, with a key that stands for none: what it ends at
depends on which elements there are, not on their order.
-/
import Mathlib.Order.Bounds.Defs
import Mathlib.Data.Set.Insert

namespace Scan

variable {K E : Type}

/-- `r` is the least key of `S`, or the one that stands for none where `S` is empty. -/
def Picks [LE K] (none : K) (S : Set K) (r : K) : Prop :=
  IsLeast S r ∨ (S = ∅ ∧ r = none)

/-- One step of the scan: the smaller key, if the element qualifies. -/
def better [LT K] [DecidableLT K] [DecidableEq K] (none : K) (key : E → K) (qualifies : E → Bool) (best : K) (e : E) :
    K :=
  if qualifies e && (best == none || key e < best) then key e else best

/-- The keys of the elements that qualify. -/
def keys (key : E → K) (qualifies : E → Bool) (l : List E) : Set K :=
  {k | ∃ e ∈ l, qualifies e = true ∧ key e = k}

/-- The key, unless it stands for none. -/
def known (none best : K) : Set K :=
  {k | k = best ∧ k ≠ none}

variable {none : K} {key : E → K} {qualifies : E → Bool}

theorem keys_nil : keys key qualifies [] = ∅ :=
  Set.eq_empty_of_forall_notMem fun _ ⟨_, he, _⟩ => by cases he

theorem keys_cons (e : E) (l : List E) : keys key qualifies (e :: l) = keys key qualifies [e] ∪ keys key qualifies l := by
  ext k
  simp [keys]

theorem keys_singleton {e : E} (he : qualifies e = true) : keys key qualifies [e] = {key e} := by
  ext k
  simp only [keys, List.mem_singleton, Set.mem_ofPred_eq, Set.mem_singleton_iff, exists_eq_left, he, true_and]
  exact eq_comm

theorem known_none : known none none = ∅ :=
  Set.eq_empty_of_forall_notMem fun _ ⟨h, hne⟩ => hne h

/-- The scan ends where it began or at a key that qualifies. -/
theorem foldl_mem [LT K] [DecidableLT K] [DecidableEq K] (l : List E) : ∀ best : K,
    l.foldl (better none key qualifies) best = best ∨
      l.foldl (better none key qualifies) best ∈ keys key qualifies l := by
  induction l with
  | nil => exact fun best => .inl rfl
  | cons e l ih =>
    intro best
    rw [List.foldl_cons, keys_cons]
    rcases ih (better none key qualifies best e) with hstay | hlater
    · rw [hstay]
      unfold better
      split
      · rename_i h
        rw [keys_singleton (Bool.and_eq_true _ _ ▸ h).1]
        exact .inr (.inl rfl)
      · exact .inl rfl
    · exact .inr (.inr hlater)

section

variable [LE K] [LT K] [Std.IsLinearOrder K] [Std.LawfulOrderLT K]

omit [LT K] [Std.LawfulOrderLT K] in
theorem picks_known (best : K) : Picks none (known none best) best := by
  by_cases hb : best = none
  · rw [hb]
    exact .inr ⟨known_none, rfl⟩
  · exact .inl ⟨⟨rfl, hb⟩, fun k hk => hk.1 ▸ Std.le_refl k⟩

omit [LT K] [Std.LawfulOrderLT K] in
/-- A part of the keys may be replaced by what is picked of it. -/
theorem Picks.union {A B : Set K} {a r : K} (hA : none ∉ A) (ha : Picks none A a)
    (h : Picks none (known none a ∪ B) r) : Picks none (A ∪ B) r := by
  rcases ha with ⟨hmem, hlow⟩ | ⟨rfl, rfl⟩
  · have hne : a ≠ none := fun he => hA (he ▸ hmem)
    rcases h with ⟨hr, hrlow⟩ | ⟨hempty, -⟩
    · refine .inl ⟨?_, ?_⟩
      · rcases hr with ⟨rfl, -⟩ | hr
        · exact .inl hmem
        · exact .inr hr
      · rintro k (hk | hk)
        · exact Std.le_trans (hrlow (.inl ⟨rfl, hne⟩)) (hlow hk)
        · exact hrlow (.inr hk)
    · have hin : a ∈ known none a ∪ B := .inl ⟨rfl, hne⟩
      rw [hempty] at hin
      exact hin.elim
  · rwa [known_none] at h

variable [DecidableLT K] [DecidableEq K]

/-- A step picks the smaller of the key it has and the one it meets. -/
theorem picks_better (best : K) (e : E) :
    Picks none (known none best ∪ keys key qualifies [e]) (better none key qualifies best e) := by
  by_cases hq : qualifies e = true
  · rw [keys_singleton hq]
    unfold better
    split
    · rename_i h
      simp only [hq, Bool.true_and, Bool.or_eq_true, beq_iff_eq, decide_eq_true_iff] at h
      refine .inl ⟨.inr rfl, ?_⟩
      rintro k (⟨rfl, hne⟩ | rfl)
      · exact Std.le_of_lt (h.resolve_left hne)
      · exact Std.le_refl _
    · rename_i h
      simp only [hq, Bool.true_and, Bool.or_eq_true, beq_iff_eq, decide_eq_true_iff, not_or] at h
      refine .inl ⟨.inl ⟨rfl, h.1⟩, ?_⟩
      rintro k (⟨rfl, -⟩ | rfl)
      · exact Std.le_refl _
      · exact Std.not_lt.1 h.2
  · have hkeys : keys key qualifies [e] = ∅ := by
      ext k
      simp [keys, hq]
    have hstay : better none key qualifies best e = best := by
      unfold better
      rw [Bool.not_eq_true] at hq
      rw [hq, Bool.false_and, if_neg Bool.false_ne_true]
    rw [hkeys, Set.union_empty, hstay]
    exact picks_known best

/-- The scan ends at the least key of those it was given and the one it started from. -/
theorem picks_foldl (l : List E) (hl : ∀ e ∈ l, key e ≠ none) : ∀ best : K,
    Picks none (known none best ∪ keys key qualifies l) (l.foldl (better none key qualifies) best) := by
  induction l with
  | nil =>
    intro best
    rw [keys_nil, Set.union_empty]
    exact picks_known best
  | cons e l ih =>
    intro best
    rw [keys_cons, ← Set.union_assoc, List.foldl_cons]
    refine (picks_better best e).union ?_ (ih (fun e' he' => hl e' (List.mem_cons_of_mem _ he')) _)
    rintro (⟨-, hne⟩ | ⟨e', he', -, hk⟩)
    · exact hne rfl
    · rw [List.mem_singleton] at he'
      exact hl e List.mem_cons_self (he' ▸ hk)

/-- A scan from nothing picks the least of the keys that qualify. -/
theorem picks_scan {l : List E} (hl : ∀ e ∈ l, key e ≠ none) :
    Picks none (keys key qualifies l) (l.foldl (better none key qualifies) none) := by
  rw [← Set.empty_union (keys key qualifies l), ← known_none]
  exact picks_foldl l hl none

end

section

variable [LE K] [Std.IsLinearOrder K]

theorem Picks.unique {S : Set K} {r r' : K} (h : Picks none S r) (h' : Picks none S r') : r = r' := by
  rcases h with ⟨hr, hlow⟩ | ⟨hS, rfl⟩ <;> rcases h' with ⟨hr', hlow'⟩ | ⟨hS', rfl⟩
  · exact Std.le_antisymm (hlow hr') (hlow' hr)
  · rw [hS'] at hr
    exact hr.elim
  · rw [hS] at hr'
    exact hr'.elim
  · rfl

end

end Scan
