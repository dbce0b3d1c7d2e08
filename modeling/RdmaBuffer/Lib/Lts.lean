/-
Labelled transition systems: paths with the transitions they take, the invariant rule, and the
invariant rule for paths whose transitions all meet a side condition.
-/
import Mathlib.Order.WellFounded
import Mathlib.Tactic.TypeStar

/-- A system that takes labelled steps between states. -/
structure Lts (S L : Type) where
  init : S → Prop
  step : S → L → S → Prop

namespace Lts

/-- One step as it was taken: the state before, the label, the state after. -/
structure Transition (S L : Type) where
  pre : S
  label : L
  post : S

/-- `M.Path s t s'`: the transitions `t`, in order, lead from `s` to `s'`. -/
inductive Path {S L : Type} (M : Lts S L) (s : S) : List (Transition S L) → S → Prop
  | nil : Path M s [] s
  | snoc {u v : S} {t : List (Transition S L)} {l : L} :
      Path M s t u → M.step u l v → Path M s (t ++ [⟨u, l, v⟩]) v

/-- `M.Run t s`: the transitions `t` lead from an initial state to `s`. -/
def Run {S L : Type} (M : Lts S L) (t : List (Transition S L)) (s : S) : Prop :=
  ∃ s₀, M.init s₀ ∧ M.Path s₀ t s

variable {S L : Type} {M : Lts S L}

/-- The states the transitions lead to, in order. -/
def visited (t : List (Transition S L)) : List S := t.map (·.post)

theorem visited_append (t₁ t₂ : List (Transition S L)) : visited (t₁ ++ t₂) = visited t₁ ++ visited t₂ :=
  List.map_append

theorem visited_snoc (t : List (Transition S L)) (x : Transition S L) : visited (t ++ [x]) = visited t ++ [x.post] :=
  List.map_append

/-! ## Composing and splitting paths -/

theorem Path.append {s u v : S} {t₁ t₂ : List (Transition S L)} (h₁ : M.Path s t₁ u) (h₂ : M.Path u t₂ v) :
    M.Path s (t₁ ++ t₂) v := by
  induction h₂ with
  | nil => rwa [List.append_nil]
  | snoc _ hstep ih => rw [← List.append_assoc]; exact ih.snoc hstep

theorem Path.single {s s' : S} {l : L} (h : M.step s l s') : M.Path s [⟨s, l, s'⟩] s' :=
  Path.nil.snoc h

theorem Path.split {s v : S} {t : List (Transition S L)} (h : M.Path s t v) :
    ∀ t₁ t₂, t = t₁ ++ t₂ → ∃ u, M.Path s t₁ u ∧ M.Path u t₂ v := by
  induction h with
  | nil =>
    intro t₁ t₂ ht
    obtain ⟨rfl, rfl⟩ := List.append_eq_nil_iff.1 ht.symm
    exact ⟨s, .nil, .nil⟩
  | @snoc u v t l hp hstep ih =>
    intro t₁ t₂ ht
    rcases List.eq_nil_or_concat t₂ with rfl | ⟨t₂', x, rfl⟩
    · rw [List.append_nil] at ht
      exact ⟨v, ht ▸ hp.snoc hstep, .nil⟩
    · rw [List.concat_eq_append, ← List.append_assoc] at ht
      obtain ⟨ht', hx⟩ := List.append_inj' ht rfl
      obtain ⟨w, h₁, h₂⟩ := ih t₁ t₂' ht'
      rw [List.concat_eq_append, ← hx]
      exact ⟨w, h₁, h₂.snoc hstep⟩

theorem Path.eq_of_nil {s v : S} (h : M.Path s [] v) : s = v := by
  generalize ht : ([] : List (Transition S L)) = t at h
  cases h with
  | nil => rfl
  | snoc => simp at ht

/-- A path whose first transition is `x` takes that step and goes on from its end. -/
theorem Path.head {s v : S} {x : Transition S L} {t : List (Transition S L)} (h : M.Path s (x :: t) v) :
    s = x.pre ∧ M.step x.pre x.label x.post ∧ M.Path x.post t v := by
  obtain ⟨u, h₁, h₂⟩ := h.split [x] t rfl
  generalize hx : [x] = t₁ at h₁
  cases h₁ with
  | nil => simp at hx
  | snoc hp hstep =>
    obtain ⟨rfl, hx'⟩ := List.append_inj' ((List.nil_append [x]).trans hx) rfl
    obtain rfl := List.singleton_inj.1 hx'
    exact ⟨hp.eq_of_nil, hstep, h₂⟩

/-- Every transition of a path is a step, with a path up to it and a path after it. -/
theorem Path.at_mem {s v : S} {t : List (Transition S L)} (h : M.Path s t v) {x : Transition S L} (hx : x ∈ t) :
    ∃ t₁ t₂, t = t₁ ++ x :: t₂ ∧ M.Path s t₁ x.pre ∧ M.step x.pre x.label x.post ∧ M.Path x.post t₂ v := by
  obtain ⟨t₁, t₂, rfl⟩ := List.append_of_mem hx
  obtain ⟨u, h₁, h₂⟩ := h.split t₁ (x :: t₂) rfl
  obtain ⟨rfl, hstep, h₃⟩ := h₂.head
  exact ⟨t₁, t₂, rfl, h₁, hstep, h₃⟩

theorem Path.step_mem {s v : S} {t : List (Transition S L)} (h : M.Path s t v) {x : Transition S L} (hx : x ∈ t) :
    M.step x.pre x.label x.post := by
  obtain ⟨t₁, t₂, -, -, hs, -⟩ := h.at_mem hx
  exact hs

/-- The path up to a transition and with it is a beginning of the path. -/
theorem Path.upto {s v : S} {t : List (Transition S L)} (h : M.Path s t v) {x : Transition S L} (hx : x ∈ t) :
    ∃ t₁, t₁ ++ [x] <+: t ∧ M.Path s (t₁ ++ [x]) x.post := by
  obtain ⟨t₁, t₂, rfl, h₁, hs, -⟩ := h.at_mem hx
  refine ⟨t₁, ⟨t₂, ?_⟩, h₁.snoc hs⟩
  rw [List.append_assoc, List.singleton_append]

/-! ## Invariants -/

/-- What every step meeting the side condition preserves holds at the end of the path. -/
theorem Path.inv_of {I : S → Prop} {C : Transition S L → Prop}
    (hstep : ∀ s l s', M.step s l s' → C ⟨s, l, s'⟩ → I s → I s')
    {s v : S} {t : List (Transition S L)} (h : M.Path s t v) (hc : ∀ x ∈ t, C x) (hi : I s) : I v := by
  induction h with
  | nil => exact hi
  | snoc hp hs ih =>
    exact hstep _ _ _ hs (hc _ (by simp)) (ih fun x hx => hc x (by simp [hx]))

/-- What every step preserves holds at the end of the path. -/
theorem Path.inv {I : S → Prop} (hstep : ∀ s l s', M.step s l s' → I s → I s')
    {s v : S} {t : List (Transition S L)} (h : M.Path s t v) (hi : I s) : I v :=
  h.inv_of (C := fun _ => True) (fun s l s' hs _ => hstep s l s' hs) (fun _ _ => trivial) hi

theorem Run.inv_of {I : S → Prop} {C : Transition S L → Prop} (hinit : ∀ s, M.init s → I s)
    (hstep : ∀ s l s', M.step s l s' → C ⟨s, l, s'⟩ → I s → I s')
    {t : List (Transition S L)} {s : S} (h : M.Run t s) (hc : ∀ x ∈ t, C x) : I s := by
  obtain ⟨s₀, h₀, hp⟩ := h
  exact hp.inv_of hstep hc (hinit s₀ h₀)

theorem Run.inv {I : S → Prop} (hinit : ∀ s, M.init s → I s) (hstep : ∀ s l s', M.step s l s' → I s → I s')
    {t : List (Transition S L)} {s : S} (h : M.Run t s) : I s := by
  obtain ⟨s₀, h₀, hp⟩ := h
  exact hp.inv hstep (hinit s₀ h₀)

/-- A step from where `I` holds keeps it exactly if it meets the side condition: then it holds all along a run exactly
if every step meets the condition. -/
theorem Run.inv_iff {I : S → Prop} {C : Transition S L → Prop} (hinit : ∀ s, M.init s → I s)
    (hstep : ∀ s l s', M.step s l s' → I s → (I s' ↔ C ⟨s, l, s'⟩))
    {t : List (Transition S L)} {s : S} (h : M.Run t s) : (∀ x ∈ t, I x.post) ↔ ∀ x ∈ t, C x := by
  obtain ⟨s₀, h₀, hp⟩ := h
  suffices hs : ((∀ x ∈ t, I x.post) ↔ ∀ x ∈ t, C x) ∧ ((∀ x ∈ t, I x.post) → I s) from hs.1
  induction hp with
  | nil => exact ⟨by simp, fun _ => hinit s₀ h₀⟩
  | @snoc u v t l hp hs ih =>
    obtain ⟨hiff, hlast⟩ := ih
    simp only [List.forall_mem_append, List.forall_mem_singleton]
    refine ⟨?_, fun h => h.2⟩
    constructor
    · rintro ⟨ht, hv⟩
      exact ⟨hiff.1 ht, (hstep u l v hs (hlast ht)).1 hv⟩
    · rintro ⟨ht, hv⟩
      exact ⟨hiff.2 ht, (hstep u l v hs (hlast (hiff.2 ht))).2 hv⟩

/-- The run up to and the path after a transition of a run. -/
theorem Run.at_mem {t : List (Transition S L)} {s : S} (h : M.Run t s) {x : Transition S L} (hx : x ∈ t) :
    ∃ t₁ t₂, t = t₁ ++ x :: t₂ ∧ M.Run t₁ x.pre ∧ M.step x.pre x.label x.post ∧ M.Path x.post t₂ s := by
  obtain ⟨s₀, h₀, hp⟩ := h
  obtain ⟨t₁, t₂, ht, h₁, hs, h₂⟩ := hp.at_mem hx
  exact ⟨t₁, t₂, ht, ⟨s₀, h₀, h₁⟩, hs, h₂⟩

theorem Run.step_mem {t : List (Transition S L)} {s : S} (h : M.Run t s) {x : Transition S L} (hx : x ∈ t) :
    M.step x.pre x.label x.post := by
  obtain ⟨s₀, h₀, hp⟩ := h
  exact hp.step_mem hx

/-- The run up to a transition and with it is a beginning of the run. -/
theorem Run.upto {t : List (Transition S L)} {s : S} (h : M.Run t s) {x : Transition S L} (hx : x ∈ t) :
    ∃ t₁, t₁ ++ [x] <+: t ∧ M.Run (t₁ ++ [x]) x.post := by
  obtain ⟨s₀, h₀, hp⟩ := h
  obtain ⟨t₁, hpre, hp⟩ := hp.upto hx
  exact ⟨t₁, hpre, s₀, h₀, hp⟩

theorem Run.append {t₁ t₂ : List (Transition S L)} {u v : S} (h₁ : M.Run t₁ u) (h₂ : M.Path u t₂ v) :
    M.Run (t₁ ++ t₂) v := by
  obtain ⟨s₀, h₀, hp⟩ := h₁
  exact ⟨s₀, h₀, hp.append h₂⟩

/-- A run ends in an initial state or after its last transition. -/
theorem Run.last {t : List (Transition S L)} {s : S} (h : M.Run t s) : M.init s ∨ ∃ x ∈ t, x.post = s := by
  obtain ⟨s₀, h₀, hp⟩ := h
  cases hp with
  | nil => exact .inl h₀
  | @snoc u v t l hp hs => exact .inr ⟨⟨u, l, s⟩, by simp, rfl⟩

theorem Run.nil {s : S} (h : M.init s) : M.Run [] s :=
  ⟨s, h, .nil⟩

/-- The invariant rule for invariants over the transitions taken so far. -/
theorem Run.trace_inv {I : List (Transition S L) → S → Prop} {C : List (Transition S L) → Transition S L → Prop}
    (hinit : ∀ s, M.init s → I [] s)
    (hstep : ∀ t s l s', M.step s l s' → C t ⟨s, l, s'⟩ → I t s → I (t ++ [⟨s, l, s'⟩]) s')
    {t : List (Transition S L)} {s : S} (h : M.Run t s) (hc : ∀ t₁ x t₂, t = t₁ ++ x :: t₂ → C t₁ x) : I t s := by
  obtain ⟨s₀, h₀, hp⟩ := h
  induction hp with
  | nil => exact hinit s₀ h₀
  | @snoc u v t l hp hs ih =>
    refine hstep t u l v hs (hc t _ [] rfl) (ih fun t₁ x t₂ ht => hc t₁ x (t₂ ++ [⟨u, l, v⟩]) ?_)
    rw [ht, List.append_assoc, List.cons_append]

/-- The same for a property of the transitions taken: `J` links it to the state, and it goes on over a step exactly if
the step meets the side condition. Then a run has the property exactly if all its steps meet the condition. -/
theorem Run.trace_iff {P : List (Transition S L) → Prop} {J : List (Transition S L) → S → Prop}
    {C : List (Transition S L) → Transition S L → Prop} (hnil : P []) (hpre : ∀ t x, P (t ++ [x]) → P t)
    (hinit : ∀ s, M.init s → J [] s)
    (hstep : ∀ t s l s', M.step s l s' → P t → J t s →
      (P (t ++ [⟨s, l, s'⟩]) ↔ C t ⟨s, l, s'⟩) ∧ (P (t ++ [⟨s, l, s'⟩]) → J (t ++ [⟨s, l, s'⟩]) s'))
    {t : List (Transition S L)} {s : S} (h : M.Run t s) :
    P t ↔ ∀ t₁ x t₂, t = t₁ ++ x :: t₂ → C t₁ x := by
  obtain ⟨s₀, h₀, hp⟩ := h
  suffices hs : (P t ↔ ∀ t₁ x t₂, t = t₁ ++ x :: t₂ → C t₁ x) ∧ (P t → J t s) from hs.1
  induction hp with
  | nil => exact ⟨iff_of_true hnil (by simp), fun _ => hinit s₀ h₀⟩
  | @snoc u v t l hp hs ih =>
    obtain ⟨hiff, hlast⟩ := ih
    constructor
    · constructor
      · intro hP t₁ x t₂ ht
        have hPt := hpre t _ hP
        rcases List.eq_nil_or_concat t₂ with rfl | ⟨t₂', y, rfl⟩
        · obtain ⟨rfl, hx⟩ := List.append_inj' ht rfl
          obtain rfl := List.singleton_inj.1 hx
          exact (hstep t u l v hs hPt (hlast hPt)).1.1 hP
        · rw [List.concat_eq_append, ← List.cons_append, ← List.append_assoc] at ht
          exact hiff.1 hPt t₁ x t₂' (List.append_inj' ht rfl).1
      · intro hc
        have hPt : P t := hiff.2 fun t₁ x t₂ ht =>
          hc t₁ x (t₂ ++ [⟨u, l, v⟩]) (by rw [ht, List.append_assoc, List.cons_append])
        exact (hstep t u l v hs hPt (hlast hPt)).1.2 (hc t _ [] rfl)
    · intro hP
      have hPt := hpre t _ hP
      exact (hstep t u l v hs hPt (hlast hPt)).2 hP

/-! ## Since when -/

/-- What holds at the end of a run and initially does not was last established by a transition of the run, and has held
ever since then. -/
theorem Run.since {P : S → Prop} {E : Transition S L → Prop} (hinit : ∀ s, M.init s → ¬P s)
    (hstep : ∀ s l s', M.step s l s' → P s' → E ⟨s, l, s'⟩ ∨ P s) {t : List (Transition S L)} {s : S} (h : M.Run t s)
    (hs : P s) :
    ∃ t₁ x t₂, t = t₁ ++ x :: t₂ ∧ M.Run t₁ x.pre ∧ M.step x.pre x.label x.post ∧ M.Path x.post t₂ s ∧ E x ∧
      ∀ z ∈ t₂, ¬E z ∧ P z.post := by
  obtain ⟨s₀, h₀, hp⟩ := h
  induction hp with
  | nil => exact absurd hs (hinit s₀ h₀)
  | @snoc u v t l hp hstep' ih =>
    by_cases hE : E ⟨u, l, v⟩
    · exact ⟨t, ⟨u, l, v⟩, [], rfl, ⟨s₀, h₀, hp⟩, hstep', .nil, hE, nofun⟩
    · obtain ⟨t₁, x, t₂, rfl, h₁, hx, h₂, hEx, hheld⟩ := ih ((hstep u l v hstep' hs).resolve_left hE)
      refine ⟨t₁, x, t₂ ++ [⟨u, l, v⟩], by rw [List.append_assoc, List.cons_append], h₁, hx, h₂.snoc hstep', hEx, ?_⟩
      simp only [List.forall_mem_append, List.forall_mem_singleton]
      exact ⟨hheld, hE, hs⟩

/-! ## Runs end -/

/-- Where steps descend in a well-founded order, every run goes on to a state that takes no step. -/
theorem Run.to_end {A : Type} {r : A → A → Prop} (hr : WellFounded r) {f : S → A}
    (h : ∀ s l s', M.step s l s' → r (f s') (f s)) {t : List (Transition S L)} {s : S} (ht : M.Run t s) :
    ∃ t' v, M.Run (t ++ t') v ∧ ∀ l v', ¬M.step v l v' := by
  generalize ha : f s = a
  induction a using hr.induction generalizing t s with
  | _ a ih =>
    by_cases hs : ∃ l v, M.step s l v
    · obtain ⟨l, v, hs⟩ := hs
      obtain ⟨t', v', ht', hend⟩ := ih (f v) (ha ▸ h s l v hs) (ht.append (.single hs)) rfl
      exact ⟨_, v', by rwa [List.append_assoc] at ht', hend⟩
    · exact ⟨[], s, by rwa [List.append_nil], fun l v hv => hs ⟨l, v, hv⟩⟩

/-! ## Loops -/

/-- From every state of `P` a path of transitions that meet the condition leads to a state of `Q`. -/
def Reaches (M : Lts S L) (C : Transition S L → Prop) (P Q : S → Prop) : Prop :=
  ∀ s, P s → ∃ t s', M.Path s t s' ∧ (∀ x ∈ t, C x) ∧ Q s'

section

variable {C : Transition S L → Prop} {P Q R : S → Prop}

theorem Reaches.refl (P : S → Prop) : M.Reaches C P P := fun s hs => ⟨[], s, .nil, nofun, hs⟩

theorem Reaches.trans (h₁ : M.Reaches C P Q) (h₂ : M.Reaches C Q R) : M.Reaches C P R := by
  intro s hs
  obtain ⟨t₁, u, hp₁, hc₁, hu⟩ := h₁ s hs
  obtain ⟨t₂, v, hp₂, hc₂, hv⟩ := h₂ u hu
  exact ⟨t₁ ++ t₂, v, hp₁.append hp₂, List.forall_mem_append.2 ⟨hc₁, hc₂⟩, hv⟩

theorem Reaches.single (h : ∀ s, P s → ∃ l s', M.step s l s' ∧ C ⟨s, l, s'⟩ ∧ Q s') : M.Reaches C P Q := by
  intro s hs
  obtain ⟨l, s', hstep, hc, hq⟩ := h s hs
  exact ⟨_, s', .single hstep, List.forall_mem_singleton.2 hc, hq⟩

/-- A loop whose invariant counts the rounds done. -/
theorem Reaches.iterate {I : ℕ → S → Prop} {n : ℕ} (h : ∀ i < n, M.Reaches C (I i) (I (i + 1))) :
    M.Reaches C (I 0) (I n) := by
  induction n with
  | zero => exact .refl _
  | succ n ih => exact (ih fun i hi => h i (Nat.lt_succ_of_lt hi)).trans (h n (Nat.lt_succ_self n))

end

/-! ## Fewer steps -/

/-- The system with those of its steps that meet the condition. -/
def restrict (M : Lts S L) (D : Transition S L → Prop) : Lts S L where
  init := M.init
  step s l s' := M.step s l s' ∧ D ⟨s, l, s'⟩

/-- A run whose steps all meet the condition is one of the restricted system. -/
theorem Run.restrict {D : Transition S L → Prop} {t : List (Transition S L)} {s : S} (h : M.Run t s)
    (hd : ∀ x ∈ t, D x) : (M.restrict D).Run t s := by
  obtain ⟨s₀, h₀, hp⟩ := h
  refine ⟨s₀, h₀, ?_⟩
  clear h₀
  induction hp with
  | nil => exact .nil
  | snoc hp hs ih => exact (ih fun x hx => hd x (by simp [hx])).snoc ⟨hs, hd _ (by simp)⟩

/-! ## Running a list of commands -/

/-- The transitions of commands run one after the other. -/
def trace {A : Type} (exec : S → A → S) (label : A → L) : S → List A → List (Transition S L)
  | _, [] => []
  | s, a :: as => ⟨s, label a, exec s a⟩ :: trace exec label (exec s a) as

theorem trace_append {A : Type} (exec : S → A → S) (label : A → L) (s : S) (as bs : List A) :
    trace exec label s (as ++ bs) = trace exec label s as ++ trace exec label (as.foldl exec s) bs := by
  induction as generalizing s with
  | nil => rfl
  | cons a as ih => simp only [List.cons_append, trace, List.foldl_cons, ih]

theorem Path.of_trace {A : Type} {exec : S → A → S} {label : A → L} (h : ∀ s a, M.step s (label a) (exec s a)) :
    ∀ s as, M.Path s (trace exec label s as) (as.foldl exec s)
  | _, [] => .nil
  | s, a :: as => (Path.single (h s a)).append (Path.of_trace h (exec s a) as)

end Lts
