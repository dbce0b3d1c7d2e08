/-
Two tables in step. Every value of one table names, through its key, an entry of the other, no two
values name the same entry, and every entry is named: what insertions, removals and rewrites on one or
both sides do to such a matching.
-/
import Mathlib.Logic.Function.Basic

/-- The values of `m` are matched with the entries of `live` through `key`, and `R` relates the two. -/
structure Matching {I K V E : Type} (key : V → K) (R : V → E → Prop) (m : I → Option V) (live : K → Option E) :
    Prop where
  held : ∀ i v, m i = some v → ∃ e, live (key v) = some e ∧ R v e
  owned : ∀ k e, live k = some e → ∃ i v, m i = some v ∧ key v = k
  distinct : ∀ i j v w, m i = some v → m j = some w → key v = key w → i = j

namespace Matching

variable {I K V E : Type} {key : V → K} {R : V → E → Prop} {m : I → Option V} {live : K → Option E}

theorem empty : Matching key R (fun _ : I => none) (fun _ => none) :=
  ⟨nofun, nofun, nofun⟩

/-- The value that names an entry is related to it. -/
theorem related (h : Matching key R m live) {i : I} {v : V} {e : E} (hi : m i = some v) (hk : live (key v) = some e) :
    R v e := by
  obtain ⟨e', he', hr⟩ := h.held i v hi
  obtain rfl : e' = e := Option.some.inj (he'.symm.trans hk)
  exact hr

/-- Values rewritten without a change of key. -/
theorem map (h : Matching key R m live) {m' : I → Option V} (f : I → V → V) (hm : ∀ i, m' i = (m i).map (f i))
    (hkey : ∀ i v, m i = some v → key (f i v) = key v)
    (hr : ∀ i v e, m i = some v → live (key v) = some e → R v e → R (f i v) e) : Matching key R m' live := by
  have hpre : ∀ i v', m' i = some v' → ∃ v, m i = some v ∧ v' = f i v := by
    intro i v' hi
    rw [hm, Option.map_eq_some_iff] at hi
    obtain ⟨v, hv, rfl⟩ := hi
    exact ⟨v, hv, rfl⟩
  refine ⟨fun i v' hi => ?_, fun k e hk => ?_, fun i j v' w' hi hj hkk => ?_⟩
  · obtain ⟨v, hv, rfl⟩ := hpre i v' hi
    obtain ⟨e, he, hre⟩ := h.held i v hv
    exact ⟨e, (hkey i v hv).symm ▸ he, hr i v e hv he hre⟩
  · obtain ⟨i, v, hv, rfl⟩ := h.owned k e hk
    exact ⟨i, f i v, by rw [hm, hv]; rfl, hkey i v hv⟩
  · obtain ⟨v, hv, rfl⟩ := hpre i v' hi
    obtain ⟨w, hw, rfl⟩ := hpre j w' hj
    rw [hkey i v hv, hkey j w hw] at hkk
    exact h.distinct i j v w hv hw hkk

variable [DecidableEq I] [DecidableEq K]

omit [DecidableEq K] in
/-- One value rewritten without a change of key. -/
theorem assign (h : Matching key R m live) {i : I} {v v' : V} (hi : m i = some v) (hkey : key v' = key v)
    (hr : ∀ e, live (key v) = some e → R v e → R v' e) : Matching key R (Function.update m i (some v')) live := by
  refine h.map (fun j w => if j = i then v' else w) (fun j => ?_) (fun j w hj => ?_) fun j w e hj he hre => ?_
  · rw [Function.update_apply]
    split
    · rename_i hji; rw [hji, hi]; rfl
    · cases m j <;> rfl
  · split
    · rename_i hji
      obtain rfl : v = w := Option.some.inj (hi.symm.trans (hji ▸ hj))
      exact hkey
    · rfl
  · split
    · rename_i hji
      obtain rfl : v = w := Option.some.inj (hi.symm.trans (hji ▸ hj))
      exact hr e he hre
    · exact hre

/-- A new value with a new entry. -/
theorem insert (h : Matching key R m live) {i : I} {v : V} {e : E} (hi : m i = none) (hk : live (key v) = none)
    (hr : R v e) : Matching key R (Function.update m i (some v)) (Function.update live (key v) (some e)) := by
  -- no value that was there has the new key
  have hne : ∀ j w, m j = some w → key w ≠ key v := by
    intro j w hj hkey
    obtain ⟨e', he', -⟩ := h.held j w hj
    rw [hkey, hk] at he'
    cases he'
  have hpre : ∀ j w, Function.update m i (some v) j = some w → (j = i ∧ w = v) ∨ (j ≠ i ∧ m j = some w) := by
    intro j w hj
    by_cases hji : j = i
    · subst hji
      rw [Function.update_self] at hj
      exact .inl ⟨rfl, (Option.some.inj hj).symm⟩
    · rw [Function.update_of_ne hji] at hj
      exact .inr ⟨hji, hj⟩
  refine ⟨fun j w hj => ?_, fun k e' hk' => ?_, fun j j' w w' hj hj' hkk => ?_⟩
  · rcases hpre j w hj with ⟨rfl, rfl⟩ | ⟨-, hj⟩
    · exact ⟨e, Function.update_self _ _ _, hr⟩
    · rw [Function.update_of_ne (hne j w hj)]
      exact h.held j w hj
  · by_cases hkv : k = key v
    · exact ⟨i, v, Function.update_self _ _ _, hkv.symm⟩
    · rw [Function.update_of_ne hkv] at hk'
      obtain ⟨j, w, hj, rfl⟩ := h.owned k e' hk'
      have hji : j ≠ i := by
        rintro rfl
        rw [hi] at hj
        cases hj
      exact ⟨j, w, (Function.update_of_ne hji _ _).trans hj, rfl⟩
  · rcases hpre j w hj with ⟨hji, hw⟩ | ⟨-, hold⟩
    · rcases hpre j' w' hj' with ⟨hji', -⟩ | ⟨-, hold'⟩
      · exact hji.trans hji'.symm
      · exact absurd (hkk.symm.trans (congrArg key hw)) (hne j' w' hold')
    · rcases hpre j' w' hj' with ⟨-, hw'⟩ | ⟨-, hold'⟩
      · exact absurd (hkk.trans (congrArg key hw')) (hne j w hold)
      · exact h.distinct j j' w w' hold hold' hkk

/-- A value removed with its entry. -/
theorem remove (h : Matching key R m live) {i : I} {v : V} (hi : m i = some v) :
    Matching key R (Function.update m i none) (Function.update live (key v) none) := by
  have hpre : ∀ j w, Function.update m i none j = some w → j ≠ i ∧ m j = some w := by
    intro j w hj
    by_cases hji : j = i
    · subst hji
      rw [Function.update_self] at hj
      cases hj
    · exact ⟨hji, by rwa [Function.update_of_ne hji] at hj⟩
  refine ⟨fun j w hj => ?_, fun k e hk => ?_, fun j j' w w' hj hj' hkk => ?_⟩
  · obtain ⟨hji, hj⟩ := hpre j w hj
    -- another value with the same key would be the removed one
    rw [Function.update_of_ne fun hkey => hji (h.distinct j i w v hj hi hkey)]
    exact h.held j w hj
  · by_cases hkv : k = key v
    · rw [hkv, Function.update_self] at hk
      cases hk
    · rw [Function.update_of_ne hkv] at hk
      obtain ⟨j, w, hj, rfl⟩ := h.owned k e hk
      have hji : j ≠ i := by
        rintro rfl
        obtain rfl : v = w := Option.some.inj (hi.symm.trans hj)
        exact hkv rfl
      exact ⟨j, w, (Function.update_of_ne hji _ _).trans hj, rfl⟩
  · exact h.distinct j j' w w' (hpre j w hj).2 (hpre j' w' hj').2 hkk

/-- A value and its entry rewritten together. -/
theorem rewrite (h : Matching key R m live) {i : I} {v v' : V} {e e' : E} (hi : m i = some v) (hkey : key v' = key v)
    (he : live (key v) = some e) (hr : R v e → R v' e') :
    Matching key R (Function.update m i (some v')) (Function.update live (key v) (some e')) := by
  have hrem := h.remove hi
  have hins := hrem.insert (i := i) (v := v') (e := e') (Function.update_self _ _ _)
    (by rw [hkey]; exact Function.update_self _ _ _) (hr (h.related hi he))
  rwa [Function.update_idem, hkey, Function.update_idem] at hins

end Matching
