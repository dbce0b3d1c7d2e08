/-
Readers over a list of symbols. An exact reader accepts the words of an encoder and no others; what
other readers accept is told by postconditions, which go through a sequence of reads step by step; and a
local reader does not see what it does not consume.
-/
import Mathlib.Init

namespace Codec

/-- A read from the front of the input: the value and what is left, or a failure. -/
abbrev Read (σ α : Type) := StateT (List σ) Option α

variable {σ α β : Type} {r : Read σ α} {f : α → Read σ β}

/-! ## Sequences of reads -/

theorem bind_of_some {bs mid : List σ} {a : α} (h : r bs = some (a, mid)) : (r >>= f) bs = f a mid := by
  show (r bs).bind (fun x => f x.1 x.2) = f a mid
  rw [h]
  rfl

theorem bind_of_none {bs : List σ} (h : r bs = none) : (r >>= f) bs = none := by
  show (r bs).bind (fun x => f x.1 x.2) = none
  rw [h]
  rfl

theorem bind_eq_some {bs rest : List σ} {b : β} :
    (r >>= f) bs = some (b, rest) ↔ ∃ a mid, r bs = some (a, mid) ∧ f a mid = some (b, rest) := by
  rcases h : r bs with _ | ⟨a, mid⟩
  · rw [bind_of_none h]
    simp
  · rw [bind_of_some h]
    constructor
    · intro hb
      exact ⟨a, mid, rfl, hb⟩
    · rintro ⟨a', mid', ha, hb⟩
      cases ha
      exact hb

theorem fail_bind : (failure >>= f) = failure :=
  rfl

/-! ## Postconditions -/

/-- Every successful read from `bs` of `a` that leaves `rest` satisfies `Q bs a rest`. -/
def Ensures (r : Read σ α) (Q : List σ → α → List σ → Prop) : Prop :=
  ∀ bs a rest, r bs = some (a, rest) → Q bs a rest

theorem ensures_pure {a : α} {Q : List σ → α → List σ → Prop} : Ensures (pure a) Q ↔ ∀ bs, Q bs a bs := by
  constructor
  · intro h bs
    exact h bs a bs rfl
  · intro h bs b rest hb
    cases hb
    exact h bs

/-- What the first reader ensures is a fact about where the second one starts. -/
theorem Ensures.bind {P : List σ → α → List σ → Prop} {Q : List σ → β → List σ → Prop} (hr : Ensures r P)
    (hf : ∀ bs a mid, P bs a mid → ∀ b rest, f a mid = some (b, rest) → Q bs b rest) : Ensures (r >>= f) Q := by
  intro bs b rest h
  obtain ⟨a, mid, ha, hb⟩ := bind_eq_some.1 h
  exact hf bs a mid (hr bs a mid ha) b rest hb

theorem ensures_true : Ensures r fun _ _ _ => True :=
  fun _ _ _ _ => trivial

/-- The values of a sequence of reads, where only the values matter. -/
theorem Ensures.value_bind {P : α → Prop} {Q : β → Prop} (hr : Ensures r fun _ a _ => P a)
    (hf : ∀ a, P a → Ensures (f a) fun _ b _ => Q b) : Ensures (r >>= f) fun _ b _ => Q b :=
  hr.bind fun _ a mid ha b rest hb => hf a ha mid b rest hb

/-! ## Exact readers -/

/-- A reader of the words of `enc` tells them apart. -/
theorem word_inj {enc : α → List σ} (h : ∀ a rest, r (enc a ++ rest) = some (a, rest)) {a b : α} {x y : List σ}
    (he : enc a ++ x = enc b ++ y) : a = b ∧ x = y := by
  have ha := h a x
  rw [he, h b y] at ha
  simpa [eq_comm] using ha

/-- `r` reads the words of `enc`, and no others. -/
class Exact (r : Read σ α) (enc : outParam (α → List σ)) : Prop where
  read_iff : ∀ bs a rest, r bs = some (a, rest) ↔ bs = enc a ++ rest

namespace Exact

variable {enc : α → List σ}

theorem of_ensures (he : Ensures r fun bs a rest => bs = enc a ++ rest)
    (hr : ∀ a rest, r (enc a ++ rest) = some (a, rest)) : Exact r enc := by
  constructor
  intro bs a rest
  constructor
  · exact he bs a rest
  · rintro rfl
    exact hr a rest

variable (r) [h : Exact r enc]

theorem read (a : α) (rest : List σ) : r (enc a ++ rest) = some (a, rest) :=
  (h.read_iff _ _ _).2 rfl

theorem read_bind (a : α) (rest : List σ) : (r >>= f) (enc a ++ rest) = f a rest :=
  bind_of_some (read r a rest)

/-- After an exact reader, the input is its word and what the next reader starts from. -/
theorem ensures_bind {Q : List σ → β → List σ → Prop} :
    Ensures (r >>= f) Q ↔ ∀ a, Ensures (f a) fun bs b rest => Q (enc a ++ bs) b rest := by
  constructor
  · intro hq a bs b rest hb
    exact hq _ b rest (by rw [read_bind r, hb])
  · intro hq bs b rest hb
    obtain ⟨a, mid, ha, hb⟩ := bind_eq_some.1 hb
    rw [(h.read_iff bs a mid).1 ha]
    exact hq a mid b rest hb

include h in
/-- No word is the beginning of another. -/
theorem append_inj {a b : α} {rest rest' : List σ} (he : enc a ++ rest = enc b ++ rest') : a = b ∧ rest = rest' :=
  word_inj (read r) he

include h in
theorem append_inj_iff {a b : α} {rest rest' : List σ} :
    enc a ++ rest = enc b ++ rest' ↔ a = b ∧ rest = rest' := by
  constructor
  · exact append_inj r
  · rintro ⟨rfl, rfl⟩
    rfl

include h in
/-- The words determine their exact reader. -/
theorem unique {r' : Read σ α} (h' : Exact r' enc) : r = r' := by
  funext bs
  refine Option.ext fun x => ?_
  rw [h.read_iff, h'.read_iff]

/-- A value read through a bijection. -/
theorem map {g : α → β} {g' : β → α} (hl : ∀ a, g' (g a) = a) (hr : ∀ b, g (g' b) = b) :
    Exact (do let a ← r; pure (g a)) fun b => enc (g' b) := by
  apply of_ensures
  · rw [ensures_bind]
    intro a
    refine ensures_pure.2 fun bs => ?_
    rw [hl]
  · intro b rest
    rw [read_bind r, hr]
    rfl

end Exact

/-- `r` reads the words of `enc` at the values that satisfy `P`, and no others. -/
def ExactOn (r : Read σ α) (enc : α → List σ) (P : α → Prop) : Prop :=
  ∀ bs a rest, r bs = some (a, rest) ↔ P a ∧ bs = enc a ++ rest

theorem ExactOn.ensures_bind {enc : α → List σ} {P : α → Prop} (h : ExactOn r enc P)
    {Q : List σ → β → List σ → Prop} :
    Ensures (r >>= f) Q ↔ ∀ a, P a → Ensures (f a) fun bs b rest => Q (enc a ++ bs) b rest := by
  constructor
  · intro hq a ha bs b rest hb
    exact hq _ b rest (by rw [bind_of_some ((h _ _ _).2 ⟨ha, rfl⟩), hb])
  · intro hq bs b rest hr
    obtain ⟨a, mid, ha, hb⟩ := bind_eq_some.1 hr
    obtain ⟨hp, rfl⟩ := (h bs a mid).1 ha
    exact hq a hp mid b rest hb

/-! ## Sequences of words -/

/-- Sequences of as many words, of which none is the beginning of another, are the same up to `view`. -/
theorem flatMap_append_inj {enc : α → List σ} {view : α → β} {as bs : List α} (hl : as.length = bs.length)
    (h : ∀ a ∈ as, ∀ b ∈ bs, ∀ x y, enc a ++ x = enc b ++ y → view a = view b ∧ x = y) {x y : List σ}
    (he : as.flatMap enc ++ x = bs.flatMap enc ++ y) : as.map view = bs.map view ∧ x = y := by
  induction as generalizing bs with
  | nil =>
    obtain rfl := List.eq_nil_of_length_eq_zero hl.symm
    exact ⟨rfl, he⟩
  | cons a as ih =>
    obtain _ | ⟨b, bs⟩ := bs
    · cases hl
    rw [List.flatMap_cons, List.flatMap_cons, List.append_assoc, List.append_assoc] at he
    obtain ⟨hab, he⟩ := h a (List.mem_cons_self ..) b (List.mem_cons_self ..) _ _ he
    obtain ⟨hmap, hxy⟩ := ih (Nat.succ.inj hl)
      (fun a' ha b' hb => h a' (List.mem_cons_of_mem a ha) b' (List.mem_cons_of_mem b hb)) he
    rw [List.map_cons, List.map_cons, hab, hmap]
    exact ⟨rfl, hxy⟩

/-- Sequences of words that begin with a tag, in front of something that does not, are told apart. -/
theorem flatMap_append_inj_of_tag {tag : List σ} {enc : α → List σ} (htag : ∀ a, tag <+: enc a)
    (h : ∀ a b x y, enc a ++ x = enc b ++ y → a = b ∧ x = y) {x y : List σ} (hx : ¬tag <+: x) (hy : ¬tag <+: y) :
    ∀ {as bs : List α}, as.flatMap enc ++ x = bs.flatMap enc ++ y → as = bs ∧ x = y := by
  have hbegins : ∀ a rest, tag <+: (enc a ++ rest) := fun a rest => (htag a).trans (List.prefix_append _ _)
  intro as
  induction as with
  | nil =>
    rintro (_ | ⟨b, bs⟩) he
    · exact ⟨rfl, he⟩
    · rw [List.flatMap_nil, List.nil_append, List.flatMap_cons, List.append_assoc] at he
      exact absurd (he ▸ hbegins b _) hx
  | cons a as ih =>
    rintro (_ | ⟨b, bs⟩) he
    · rw [List.flatMap_nil, List.nil_append, List.flatMap_cons, List.append_assoc] at he
      exact absurd (he ▸ hbegins a _) hy
    · rw [List.flatMap_cons, List.flatMap_cons, List.append_assoc, List.append_assoc] at he
      obtain ⟨rfl, hrest⟩ := h a b _ _ he
      obtain ⟨rfl, hxy⟩ := ih hrest
      exact ⟨rfl, hxy⟩

/-- A sequence of words with another tag does not begin with the tag, unless what follows it does. -/
theorem not_prefix_flatMap {tag tag' : List σ} {enc : α → List σ} (htag : ∀ a, tag' <+: enc a) (hne : ¬tag <+: tag')
    (hlen : tag.length ≤ tag'.length) {x : List σ} (hx : ¬tag <+: x) (as : List α) :
    ¬tag <+: (as.flatMap enc ++ x) := by
  cases as with
  | nil => exact hx
  | cons a as =>
    intro hp
    rw [List.flatMap_cons, List.append_assoc] at hp
    exact hne (List.prefix_of_prefix_length_le hp ((htag a).trans (List.prefix_append _ _)) hlen)

/-! ## Local readers -/

/-- `r` reads the same when more input follows. -/
class Local (r : Read σ α) : Prop where
  read_append : ∀ bs a rest, r bs = some (a, rest) → ∀ ext, r (bs ++ ext) = some (a, rest ++ ext)

instance (priority := low) {enc : α → List σ} [h : Exact r enc] : Local r where
  read_append bs a rest ha ext := by
    rw [(h.read_iff bs a rest).1 ha, List.append_assoc]
    exact Exact.read r a (rest ++ ext)

instance (a : α) : Local (pure a : Read σ α) where
  read_append bs b rest h ext := by
    cases h
    rfl

instance : Local (failure : Read σ α) where
  read_append _ _ _ h := nomatch h

theorem Local.bind (hr : Local r) (hf : ∀ a, Local (f a)) : Local (r >>= f) where
  read_append bs b rest h ext := by
    obtain ⟨a, mid, ha, hb⟩ := bind_eq_some.1 h
    rw [bind_of_some (hr.read_append bs a mid ha ext)]
    exact (hf a).read_append mid b rest hb ext

theorem Local.ite {c : Prop} [Decidable c] {s : Read σ α} (hr : Local r) (hs : Local s) :
    Local (if c then r else s) := by
  by_cases h : c
  · rwa [if_pos h]
  · rwa [if_neg h]

/-! ## Conveying values -/

/-- What is written by `enc` and read by `dec`, whatever follows: a value that fits arrives as its `view`,
any other is refused. -/
def Conveys (dec : Read σ β) (enc : α → List σ) (fits : α → Prop) [DecidablePred fits] (view : α → β) (a : α) :
    Prop :=
  ∀ rest, dec (enc a ++ rest) = if fits a then some (view a, rest) else none

/-- The reads after a conveyed value go on from its view. -/
theorem Conveys.bind {γ : Type} {dec : Read σ β} {enc : α → List σ} {fits : α → Prop} [DecidablePred fits]
    {view : α → β}
    {a : α} (h : Conveys dec enc fits view a) {f : β → Read σ γ} {rest : List σ} {p : Prop} [Decidable p]
    {o : Option (γ × List σ)} (hf : f (view a) rest = if p then o else none) :
    (dec >>= f) (enc a ++ rest) = if fits a ∧ p then o else none := by
  by_cases ha : fits a
  · rw [bind_of_some ((h rest).trans (if_pos ha)), hf]
    simp [ha]
  · rw [bind_of_none ((h rest).trans (if_neg ha))]
    simp [ha]

/-! ## Errors -/

section Errors

variable {ε : Type}

theorem bind_eq_ok {x : Except ε α} {f : α → Except ε β} {b : β} :
    (x >>= f) = .ok b ↔ ∃ a, x = .ok a ∧ f a = .ok b := by
  cases x with
  | error e =>
    constructor
    · intro h
      cases h
    · rintro ⟨a, h, -⟩
      cases h
  | ok a =>
    constructor
    · intro h
      exact ⟨a, rfl, h⟩
    · rintro ⟨a', h, h'⟩
      cases h
      exact h'

theorem throw_bind {err : ε} {f : α → Except ε β} : (throw err >>= f) = throw err :=
  rfl

theorem ite_throw_eq_ok {c : Prop} [Decidable c] {err : ε} {x : Except ε α} {a : α} :
    (if c then throw err else x) = .ok a ↔ ¬c ∧ x = .ok a := by
  by_cases h : c
  · rw [if_pos h]
    constructor
    · intro ha
      cases ha
    · rintro ⟨hn, -⟩
      exact absurd h hn
  · rw [if_neg h]
    simp [h]

end Errors

end Codec
