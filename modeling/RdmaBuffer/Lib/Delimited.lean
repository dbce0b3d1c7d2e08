/-
Words written one after the other between an opening and a closing delimiter that they are free to contain: which lists
of words are written alike.
-/
import Mathlib.Data.List.Infix
import Mathlib.Logic.Relation

namespace Delimited

variable {σ : Type}

/-- The words, each between the delimiters. -/
def written (opening closing : List σ) (words : List (List σ)) : List σ :=
  words.flatMap fun w => opening ++ w ++ closing

/-- One word that contains the delimiter is cut there into two. -/
inductive Cut (d : List σ) : List (List σ) → List (List σ) → Prop
  | intro (before after : List (List σ)) (a b : List σ) :
      Cut d (before ++ (a ++ d ++ b) :: after) (before ++ a :: b :: after)

/-- The lists come from one another by cutting words at the delimiter and joining neighbours with it. -/
def Rejoined (d : List σ) : List (List σ) → List (List σ) → Prop :=
  Relation.EqvGen (Cut d)

/-- The word does not contain the delimiter. -/
def Plain (d w : List σ) : Prop :=
  ¬d <:+: w

variable {opening closing d : List σ}

theorem written_cons (w : List σ) (words : List (List σ)) :
    written opening closing (w :: words) = opening ++ (w ++ (closing ++ written opening closing words)) := by
  unfold written
  rw [List.flatMap_cons, List.append_assoc, List.append_assoc]

theorem written_append (l l' : List (List σ)) :
    written opening closing (l ++ l') = written opening closing l ++ written opening closing l' :=
  List.flatMap_append

/-! ## Cutting -/

/-- Where the delimiter is the closing one and the next opening one, a cut word reads as before. -/
theorem written_cut {l l' : List (List σ)} (h : Cut (closing ++ opening) l l') :
    written opening closing l = written opening closing l' := by
  obtain ⟨before, after, a, b⟩ := h
  simp only [written_append, written_cons, List.append_assoc]

theorem written_rejoined {l l' : List (List σ)} (h : Rejoined (closing ++ opening) l l') :
    written opening closing l = written opening closing l' := by
  induction h with
  | rel l l' h => exact written_cut h
  | refl l => rfl
  | symm l l' h ih => exact ih.symm
  | trans l l' l'' h h' ih ih' => exact ih.trans ih'

theorem Rejoined.trans {l l' l'' : List (List σ)} (h : Rejoined d l l') (h' : Rejoined d l' l'') : Rejoined d l l'' :=
  Relation.EqvGen.trans _ _ _ h h'

theorem Rejoined.symm {l l' : List (List σ)} (h : Rejoined d l l') : Rejoined d l' l :=
  Relation.EqvGen.symm _ _ h

theorem Rejoined.refl (l : List (List σ)) : Rejoined d l l :=
  Relation.EqvGen.refl l

/-- Every word can be cut until no piece contains the delimiter. -/
theorem exists_pieces (hd : d ≠ []) (w : List σ) : ∃ pieces : List (List σ), (∀ p ∈ pieces, Plain d p) ∧
    ∀ before after, Rejoined d (before ++ w :: after) (before ++ (pieces ++ after)) := by
  induction hn : w.length using Nat.strongRecOn generalizing w with
  | ind n ih =>
    by_cases hw : d <:+: w
    · obtain ⟨a, b, rfl⟩ := hw
      have hpos := List.length_pos_iff.2 hd
      simp only [List.length_append] at hn
      obtain ⟨ps, hps, hcut⟩ := ih a.length (by omega) a rfl
      obtain ⟨qs, hqs, hcut'⟩ := ih b.length (by omega) b rfl
      refine ⟨ps ++ qs, ?_, fun before after => ?_⟩
      · intro p hp
        rcases List.mem_append.1 hp with hp | hp
        · exact hps p hp
        · exact hqs p hp
      · have hfirst : Rejoined d (before ++ (a ++ d ++ b) :: after) (before ++ a :: b :: after) :=
          .rel _ _ (.intro before after a b)
        have hsecond := hcut before (b :: after)
        have hthird := hcut' (before ++ ps) after
        rw [List.append_assoc, List.append_assoc] at hthird
        rw [List.append_assoc ps]
        exact hfirst.trans (hsecond.trans hthird)
    · refine ⟨[w], ?_, fun before after => .refl _⟩
      intro p hp
      rw [List.mem_singleton.1 hp]
      exact hw

theorem exists_plain (hd : d ≠ []) (l : List (List σ)) : ∃ l' : List (List σ), (∀ w ∈ l', Plain d w) ∧
    ∀ before, Rejoined d (before ++ l) (before ++ l') := by
  induction l with
  | nil => exact ⟨[], by simp, fun before => .refl _⟩
  | cons w l ih =>
    obtain ⟨l', hl', hrest⟩ := ih
    obtain ⟨pieces, hp, hcut⟩ := exists_pieces hd w
    refine ⟨pieces ++ l', ?_, fun before => ?_⟩
    · intro v hv
      rcases List.mem_append.1 hv with hv | hv
      · exact hp v hv
      · exact hl' v hv
    · have hlater := hrest (before ++ pieces)
      rw [List.append_assoc, List.append_assoc] at hlater
      exact (hcut before l).trans hlater

/-! ## Plain words -/

/-- The closing delimiter is not empty, and its first symbol comes nowhere else in the two delimiters. -/
def Marked (opening closing : List σ) : Prop :=
  ∃ x tail, closing = x :: tail ∧ x ∉ tail ++ opening

/-- A plain word ends where the closing delimiter first stands before an opening one or the end. -/
theorem nil_of_shift (hm : Marked opening closing) {w u x y : List σ} (hw : Plain (closing ++ opening) (w ++ u))
    (hx : x = [] ∨ opening <+: x) (h : closing ++ x = u ++ (closing ++ y)) : u = [] := by
  obtain ⟨c, tail, rfl, hc⟩ := hm
  by_contra hu
  obtain ⟨c', u, rfl⟩ := List.exists_cons_of_ne_nil hu
  rcases hx with rfl | ⟨z, rfl⟩
  · have hlen := congrArg List.length h
    simp only [List.length_append, List.length_cons, List.length_nil] at hlen
    omega
  · simp only [List.cons_append, List.cons.injEq] at h
    obtain ⟨rfl, h⟩ := h
    have hin : ∀ v, u = tail ++ opening ++ v → False := by
      rintro v rfl
      exact hw ⟨w, v, by simp⟩
    rw [← List.append_assoc] at h
    rcases List.append_eq_append_iff.1 h with ⟨v, hv, -⟩ | ⟨v, hv, hv'⟩
    · exact hin v hv
    · cases v with
      | nil => exact hin [] (by rw [hv, List.append_nil, List.append_nil])
      | cons e v =>
        simp only [List.cons_append, List.cons.injEq] at hv'
        exact hc (by rw [hv, ← hv'.1]; simp)

theorem written_head (words : List (List σ)) :
    written opening closing words = [] ∨ opening <+: written opening closing words := by
  cases words with
  | nil => exact .inl rfl
  | cons w words =>
    rw [written_cons]
    exact .inr (List.prefix_append _ _)

/-- Plain words are told apart. -/
theorem written_inj (hm : Marked opening closing) : ∀ {l l' : List (List σ)},
    (∀ w ∈ l, Plain (closing ++ opening) w) → (∀ w ∈ l', Plain (closing ++ opening) w) →
    written opening closing l = written opening closing l' → l = l' := by
  have hne : ∀ {w : List σ} {words}, written opening closing (w :: words) ≠ [] := by
    obtain ⟨x, tail, rfl, -⟩ := hm
    intro w words
    simp [written_cons]
  intro l
  induction l with
  | nil =>
    rintro (_ | ⟨w', l'⟩) - - h
    · rfl
    · exact absurd h.symm hne
  | cons w l ih =>
    rintro (_ | ⟨w', l'⟩) hl hl' h
    · exact absurd h hne
    rw [written_cons, written_cons] at h
    have hrest := List.append_cancel_left h
    have hplain := hl w List.mem_cons_self
    have hplain' := hl' w' List.mem_cons_self
    -- the shorter word is the beginning of the longer one, and what is between them is empty
    have hword : w = w' := by
      rcases List.append_eq_append_iff.1 hrest with ⟨u, rfl, hu⟩ | ⟨u, rfl, hu⟩
      · rw [nil_of_shift hm hplain' (written_head l) hu, List.append_nil]
      · rw [nil_of_shift hm hplain (written_head l') hu, List.append_nil]
    subst hword
    have hlater := List.append_cancel_left (List.append_cancel_left hrest)
    rw [ih (fun v hv => hl v (List.mem_cons_of_mem _ hv)) (fun v hv => hl' v (List.mem_cons_of_mem _ hv)) hlater]

/-- Two lists of words are written alike iff they come from one another by cutting and joining. -/
theorem written_eq_iff (hm : Marked opening closing) {l l' : List (List σ)} :
    written opening closing l = written opening closing l' ↔ Rejoined (closing ++ opening) l l' := by
  refine ⟨fun h => ?_, written_rejoined⟩
  have hd : closing ++ opening ≠ [] := by
    obtain ⟨x, tail, rfl, -⟩ := hm
    simp
  obtain ⟨p, hp, hcut⟩ := exists_plain hd l
  obtain ⟨p', hp', hcut'⟩ := exists_plain hd l'
  have hl : Rejoined (closing ++ opening) l p := hcut []
  have hl' : Rejoined (closing ++ opening) l' p' := hcut' []
  have hsame : p = p' := by
    refine written_inj hm hp hp' ?_
    calc written opening closing p = written opening closing l := (written_rejoined hl).symm
      _ = written opening closing l' := h
      _ = written opening closing p' := written_rejoined hl'
  subst hsame
  exact hl.trans hl'.symm

end Delimited
