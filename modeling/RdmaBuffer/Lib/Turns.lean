/-
Dialogues in turns: one side asks and waits for the answer, the other answers and waits for the next question. What went
in each direction keeps to the turns although some of it is still under way, and the sides never wait for each other.
-/
import Mathlib.Data.List.Infix
import Mathlib.Order.Basic
import Mathlib.Tactic.ByContra

variable {α : Type}

/-! ## What was said -/

/-- The first `k` of the messages, one behind the other. -/
def told (l : List (List α)) (k : Nat) : List α := (l.take k).flatten

@[simp] theorem told_zero (l : List (List α)) : told l 0 = [] := rfl

theorem told_succ {l : List (List α)} {k : Nat} (h : k < l.length) : told l (k + 1) = told l k ++ l[k] := by
  rw [told, List.take_add_one, List.getElem?_eq_getElem h, List.flatten_append]
  simp [told]

theorem told_mono (l : List (List α)) {j k : Nat} (h : j ≤ k) : told l j <+: told l k := by
  obtain ⟨n, rfl⟩ := Nat.exists_eq_add_of_le h
  rw [told, told, List.take_add, List.flatten_append]
  exact List.prefix_append _ _

/-- Of messages that say something, fewer have said less. -/
theorem le_of_told {l : List (List α)} (hne : ∀ m ∈ l, m ≠ []) {j k : Nat} (hj : j ≤ l.length)
    (h : told l j <+: told l k) : j ≤ k := by
  by_contra hjk
  have hkj : k < j := Nat.not_le.1 hjk
  have hk : k < l.length := by omega
  have hlong := (told_mono l (Nat.succ_le_of_lt hkj)).length_le
  have hshort := h.length_le
  have hpos := List.length_pos_iff.2 (hne l[k] (List.getElem_mem hk))
  rw [told_succ hk, List.length_append] at hlong
  omega

theorem told_inj {l : List (List α)} (hne : ∀ m ∈ l, m ≠ []) {j k : Nat} (hj : j ≤ l.length) (hk : k ≤ l.length)
    (h : told l j = told l k) : j = k :=
  Nat.le_antisymm (le_of_told hne hj (h ▸ List.prefix_rfl)) (le_of_told hne hk (h ▸ List.prefix_rfl))

/-- Where all was said nothing follows. -/
theorem nothing_behind {l m bs : List α} (h : l <+: m) (hbs : m ++ bs <+: l) : bs = [] := by
  have hlen := h.length_le
  have hlen' := hbs.length_le
  rw [List.length_append] at hlen'
  exact List.length_eq_zero_iff.1 (by omega)

/-- Of two beginnings the one that is not over is the earlier one. -/
theorem lt_of_told {l : List (List α)} {j k : Nat} (h : told l j <+: told l k) (hne : told l j ≠ told l k) : j < k := by
  by_contra hjk
  exact hne (h.eq_of_length_le (told_mono l (Nat.not_lt.1 hjk)).length_le)

/-! ## Dialogues -/

/-- Every question has its answer, and none of them is empty. -/
structure Dialogue (α : Type) where
  asks : List (List α)
  answers : List (List α)
  asks_length : asks.length = answers.length
  asks_ne : ∀ m ∈ asks, m ≠ []
  answers_ne : ∀ m ∈ answers, m ≠ []

namespace Dialogue

variable (D : Dialogue α)

def turns : Nat := D.answers.length

/-- Everything that is asked, and that is answered. -/
def allAsked : List α := told D.asks D.turns

def allAnswered : List α := told D.answers D.turns

/-! A side has sent `sent` and received `got`. -/

/-- The asking side may send `bs`, of the next question. -/
def Asking (sent got bs : List α) : Prop :=
  bs ≠ [] ∧ ∃ k < D.turns, got = told D.answers k ∧ sent ++ bs = told D.asks (k + 1)

/-- It asked, and received no more than the answer. -/
def Hears (sent got : List α) : Prop := ∃ k < D.turns, sent = told D.asks (k + 1) ∧ got <+: told D.answers (k + 1)

/-- It waits for the rest of the answer. -/
def Awaiting (sent got : List α) : Prop :=
  ∃ k < D.turns, sent = told D.asks (k + 1) ∧ got <+: told D.answers (k + 1) ∧ got ≠ told D.answers (k + 1)

def Asked (sent got : List α) : Prop := sent = D.allAsked ∧ got = D.allAnswered

/-- The answering side may send `bs`, of the next answer. -/
def Answering (sent got bs : List α) : Prop :=
  bs ≠ [] ∧ ∃ k < D.turns, got = told D.asks (k + 1) ∧ sent ++ bs = told D.answers (k + 1)

/-- It answered, and received no more than the next question. -/
def Heeds (sent got : List α) : Prop := ∃ k < D.turns, sent = told D.answers k ∧ got <+: told D.asks (k + 1)

/-- It waits for the rest of the question. -/
def Listening (sent got : List α) : Prop :=
  ∃ k < D.turns, sent = told D.answers k ∧ got <+: told D.asks (k + 1) ∧ got ≠ told D.asks (k + 1)

def Answered (sent got : List α) : Prop := sent = D.allAnswered ∧ got = D.allAsked

variable {D} {k : Nat} {sent got : List α}

theorem Hears.of_sent (h : D.Hears sent got) (hk : k < D.turns) (hsent : sent = told D.asks (k + 1)) :
    got <+: told D.answers (k + 1) := by
  obtain ⟨j, hj, hsent', hgot⟩ := h
  rw [turns, ← D.asks_length] at hk hj
  have hjk : j + 1 = k + 1 := told_inj D.asks_ne hj hk (hsent'.symm.trans hsent)
  rwa [← hjk]

theorem Heeds.of_sent (h : D.Heeds sent got) (hk : k < D.turns) (hsent : sent = told D.answers k) :
    got <+: told D.asks (k + 1) := by
  obtain ⟨j, hj, hsent', hgot⟩ := h
  have hjk : j = k := told_inj D.answers_ne (Nat.le_of_lt hj) (Nat.le_of_lt hk) (hsent'.symm.trans hsent)
  rwa [← hjk]

variable (D)

/-! ## The two sides -/

/-- What the asking side sent and received, and the answering side: what is received was sent, and neither side is ahead of
its turn. -/
structure Kept (sent got sent' got' : List α) : Prop where
  up : got' <+: sent
  down : got <+: sent'
  asked : ∃ k < D.turns, told D.answers k <+: got ∧ sent <+: told D.asks (k + 1)
  answered : ∃ k ≤ D.turns, told D.asks k <+: got' ∧ sent' <+: told D.answers k

variable {D} {sent' got' x bs : List α}

theorem Kept.start (h : 0 < D.turns) : D.Kept [] [] [] [] :=
  ⟨List.prefix_rfl, List.prefix_rfl, ⟨0, h, List.nil_prefix, List.nil_prefix⟩,
    ⟨0, Nat.zero_le _, List.nil_prefix, List.nil_prefix⟩⟩

theorem Kept.ask (h : D.Kept sent got sent' got') (ha : D.Asking sent got bs) (hx : x <+: bs) :
    D.Kept (sent ++ x) got sent' got' := by
  obtain ⟨-, k, hk, hgot, hsent⟩ := ha
  refine { h with up := h.up.trans (List.prefix_append _ _), asked := ⟨k, hk, hgot ▸ List.prefix_rfl, ?_⟩ }
  rw [← hsent]
  exact (List.prefix_append_right_inj _).2 hx

theorem Kept.answer (h : D.Kept sent got sent' got') (ha : D.Answering sent' got' bs) (hx : x <+: bs) :
    D.Kept sent got (sent' ++ x) got' := by
  obtain ⟨-, k, hk, hgot, hsent⟩ := ha
  refine { h with down := h.down.trans (List.prefix_append _ _), answered := ⟨k + 1, hk, hgot ▸ List.prefix_rfl, ?_⟩ }
  rw [← hsent]
  exact (List.prefix_append_right_inj _).2 hx

theorem Kept.hear (h : D.Kept sent got sent' got') (hx : got ++ x <+: sent') : D.Kept sent (got ++ x) sent' got' := by
  obtain ⟨k, hk, hgot, hsent⟩ := h.asked
  exact { h with down := hx, asked := ⟨k, hk, hgot.trans (List.prefix_append _ _), hsent⟩ }

theorem Kept.heed (h : D.Kept sent got sent' got') (hx : got' ++ x <+: sent) : D.Kept sent got sent' (got' ++ x) := by
  obtain ⟨k, hk, hgot, hsent⟩ := h.answered
  exact { h with up := hx, answered := ⟨k, hk, hgot.trans (List.prefix_append _ _), hsent⟩ }

/-- What was answered so far is not ahead of what was asked. -/
theorem Kept.answered_le (h : D.Kept sent got sent' got') {k : Nat} (hsent : sent <+: told D.asks k) :
    sent' <+: told D.answers k := by
  obtain ⟨j, hj, hgot', hsent'⟩ := h.answered
  rw [turns, ← D.asks_length] at hj
  exact hsent'.trans (told_mono _ (le_of_told D.asks_ne hj ((hgot'.trans h.up).trans hsent)))

/-- What was asked so far is at most one question ahead of what was answered. -/
theorem Kept.asked_le (h : D.Kept sent got sent' got') {k : Nat} (hsent' : sent' <+: told D.answers k) :
    sent <+: told D.asks (k + 1) := by
  obtain ⟨j, hj, hgot, hsent⟩ := h.asked
  have hjk : j ≤ k := le_of_told D.answers_ne (Nat.le_of_lt hj) ((hgot.trans h.down).trans hsent')
  exact hsent.trans (told_mono _ (Nat.succ_le_succ hjk))

/-- The asking side hears what it waits for. -/
theorem Kept.hears (h : D.Kept sent got sent' got') (ha : D.Awaiting sent got) (hx : got ++ x <+: sent') :
    D.Hears sent (got ++ x) := by
  obtain ⟨k, hk, hsent, -⟩ := ha
  exact ⟨k, hk, hsent, hx.trans (h.answered_le (hsent ▸ List.prefix_rfl))⟩

theorem Kept.heeds (h : D.Kept sent got sent' got') (ha : D.Listening sent' got') (hx : got' ++ x <+: sent) :
    D.Heeds sent' (got' ++ x) := by
  obtain ⟨k, hk, hsent', -⟩ := ha
  exact ⟨k, hk, hsent', hx.trans (h.asked_le (hsent' ▸ List.prefix_rfl))⟩

/-! ## Nobody waits in vain -/

/-- A side that is done does not go on. -/
theorem Answered.not_listening (h : D.Answered sent' got') (hl : D.Listening sent' got') : False := by
  obtain ⟨k, hk, hsent', -⟩ := hl
  exact Nat.ne_of_lt hk (told_inj D.answers_ne (Nat.le_of_lt hk) (Nat.le_refl _) (hsent'.symm.trans h.1))

theorem Answered.not_answering (h : D.Answered sent' got') (ha : D.Answering sent' got' bs) : False := by
  obtain ⟨hbs, k, hk, -, hsent'⟩ := ha
  have hall : D.allAnswered <+: sent' := by rw [h.1]
  exact hbs (nothing_behind hall (hsent' ▸ told_mono _ hk))

/-- The sides do not wait for each other with nothing under way. -/
theorem not_both_waiting (ha : D.Awaiting sent got) (hl : D.Listening sent' got') (hdown : got = sent') (hup : got' = sent) :
    False := by
  obtain ⟨k, -, hsent, hgot, hne⟩ := ha
  obtain ⟨j, -, hsent', hgot', hne'⟩ := hl
  -- the question the answering side waits for is behind the last that was asked, so its last answer is received
  have hkj : k + 1 < j + 1 := by
    rw [hup, hsent] at hgot' hne'
    exact lt_of_told hgot' hne'
  rw [hdown, hsent'] at hgot hne
  exact hne (hgot.eq_of_length_le (told_mono _ (Nat.le_of_lt_succ hkj)).length_le)

/-- An asking side that is done has asked everything and is not waited for. -/
theorem Asked.not_listening (h : D.Asked sent got) (hl : D.Listening sent' got') (hup : got' = sent) : False := by
  obtain ⟨k, hk, -, hgot', hne'⟩ := hl
  rw [hup, h.1] at hgot' hne'
  exact hne' (hgot'.eq_of_length_le (told_mono _ hk).length_le)

theorem Asked.not_answering (h : D.Asked sent got) (ha : D.Answering sent' got' bs) (hdown : got <+: sent') : False := by
  obtain ⟨hbs, k, hk, -, hsent'⟩ := ha
  rw [h.2] at hdown
  exact hbs (nothing_behind hdown (hsent' ▸ told_mono _ hk))

/-- An answering side that is done has answered everything. -/
theorem Answered.not_awaiting (h : D.Answered sent' got') (ha : D.Awaiting sent got) (hdown : got = sent') : False := by
  obtain ⟨k, hk, -, hgot, hne⟩ := ha
  rw [hdown, h.1] at hgot hne
  exact hne (hgot.eq_of_length_le (told_mono _ hk).length_le)

theorem Answered.not_asking (h : D.Answered sent' got') (ha : D.Asking sent got bs) (hup : got' <+: sent) : False := by
  obtain ⟨hbs, k, hk, -, hsent⟩ := ha
  rw [h.2] at hup
  exact hbs (nothing_behind hup (hsent ▸ told_mono _ hk))

end Dialogue
