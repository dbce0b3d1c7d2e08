/-
Simulated remote operations: the entry they run against is that of the least eligible handle, whatever the iteration
order of the entries, and the pseudo-random value is reduced modulo a length that nothing has checked.
-/
import RdmaBuffer.Safety.KeyCopies

namespace RdmaBuffer

open Backend

namespace SyntheticBackend

/-! ## What a simulated operation answers -/

/-- The answer of a simulated operation that runs against the entry, for a length other than 0. -/
def answerOf (b : SyntheticBackend) (e : SyntheticEntry) (kind : OperationKind) (offset length : UInt64) :
    AccessOutcome × StdString × UInt64 :=
  let (o, explanation) := b.queryEntry e e.reg.keys kind offset length
  if o = .allow then
    (o, lit "Synthetic remote " ++ accessOutcomeName .allow ++ lit " simulated (provenance=SYNTHETIC).",
      xorshift64 (b.seed ^^^ e.reg.memoryRegionId.value ^^^ (offset <<< 3)) % length)
  else (o, explanation, 0)

/-- The answer where no registration is eligible. -/
def notLocated : AccessOutcome × StdString × UInt64 :=
  (.rejectStaleKey, lit "Synthetic backend could not locate a live registration with the supplied key generation.", 0)

/-- The call comes to the reduction modulo `length`. -/
def ReachesReduction (b : SyntheticBackend) (kind : OperationKind) (offset length g : UInt64) : Prop :=
  ∃ e, b.bestHandle g ≠ [] ∧ b.entries.lookup (b.bestHandle g) = some e ∧
    (b.queryRemoteAccess ⟨e.reg.memoryRegionId, e.reg.handle⟩ e.reg.keys kind offset length).2.1 = .allow

/-- A call that comes to the reduction does not divide by zero, and its delta is below the length. -/
def ReducesSafely (b : SyntheticBackend) (kind : OperationKind) (offset length g : UInt64) : Prop :=
  b.ReachesReduction kind offset length g →
    length ≠ 0 ∧ ∃ o explanation delta,
      b.simulateRemote kind offset length g = some (o, explanation, delta) ∧ delta < length

/-- The entry under the least eligible handle permits the operation at the offset with length 0. -/
def PermitsEmpty (b : SyntheticBackend) (kind : OperationKind) (offset g : UInt64) : Prop :=
  ∃ h e, IsLeast (eligibleHandles b g) h ∧ b.entries.lookup h = some e ∧
    Permits (.synthetic b) e.view e.reg.keys.remoteKeyGeneration kind offset 0

/-- Simulated operations with these arguments answer the same for any two iteration orders of the entries, and that is
the answer of the entry under the least eligible handle. -/
structure OrderFree (b : SyntheticBackend) (kind : OperationKind) (offset length g : UInt64) : Prop where
  alike : ∀ m₁ m₂ : Table StdString SyntheticEntry, m₁.entries.Perm b.entries.entries →
    m₂.entries.Perm b.entries.entries →
    { b with entries := m₁ }.simulateRemote kind offset length g =
      { b with entries := m₂ }.simulateRemote kind offset length g
  least : (eligibleHandles b g).Nonempty → ∃ h e, IsLeast (eligibleHandles b g) h ∧ b.entries.lookup h = some e ∧
    b.simulateRemote kind offset length g = some (b.answerOf e kind offset length)
  none : eligibleHandles b g = ∅ → b.simulateRemote kind offset length g = some notLocated

variable {b : SyntheticBackend} {kind : OperationKind} {offset length g : UInt64}

theorem answerOf_delta (e : SyntheticEntry) (h : length ≠ 0)
    (hallow : (b.queryEntry e e.reg.keys kind offset length).1 = .allow) :
    (b.answerOf e kind offset length).2.2 < length := by
  unfold answerOf
  dsimp only
  rw [if_pos hallow]
  exact UInt64.mod_lt _ (UInt64.pos_iff_ne_zero.2 h)

/-- In a backend whose entries are filed under their handles, the entry of the least eligible handle decides. -/
theorem simulateRemote_least (hf : EntriesFiled b) {h : StdString} {e : SyntheticEntry}
    (hleast : IsLeast (eligibleHandles b g) h) (he : b.entries.lookup h = some e) (kind : OperationKind)
    (offset length : UInt64) :
    b.bestHandle g = h ∧
      b.queryRemoteAccess ⟨e.reg.memoryRegionId, e.reg.handle⟩ e.reg.keys kind offset length =
        (b, b.queryEntry e e.reg.keys kind offset length) ∧
      b.simulateRemote kind offset length g =
        if (b.queryEntry e e.reg.keys kind offset length).1 = .allow ∧ length = 0 then .none
        else some (b.answerOf e kind offset length) := by
  have hbest : b.bestHandle g = h := (bestHandle_picks hf.named g).unique (.inl hleast)
  have hne : b.bestHandle g ≠ [] := hbest ▸ hf.named h e he
  have hquery : b.queryRemoteAccess ⟨e.reg.memoryRegionId, e.reg.handle⟩ e.reg.keys kind offset length =
      (b, b.queryEntry e e.reg.keys kind offset length) := by
    unfold queryRemoteAccess
    rw [hf.handle h e he, he]
  refine ⟨hbest, hquery, ?_⟩
  unfold simulateRemote answerOf
  dsimp only
  rw [if_neg (by rwa [List.isEmpty_iff]), hbest, he]
  dsimp only
  rw [hquery]
  dsimp only
  by_cases hallow : (b.queryEntry e e.reg.keys kind offset length).1 = .allow
  · rw [if_neg (not_not_intro hallow), if_pos hallow, hallow]
    by_cases hlen : length = 0
    · rw [if_pos hlen, if_pos ⟨rfl, hlen⟩]
    · rw [if_neg hlen, if_neg fun h => hlen h.2]
  · rw [if_pos hallow, if_neg hallow, if_neg fun h => hallow h.1]

theorem simulateRemote_none (hf : EntriesFiled b) (hempty : eligibleHandles b g = ∅) :
    b.simulateRemote kind offset length g = some notLocated := by
  have hbest : b.bestHandle g = [] := (bestHandle_picks hf.named g).unique (.inr ⟨hempty, rfl⟩)
  unfold simulateRemote
  rw [hbest]
  rfl

/-- Where there is an eligible entry there is a least one. -/
theorem exists_least (hf : EntriesFiled b) (hne : (eligibleHandles b g).Nonempty) :
    ∃ h e, IsLeast (eligibleHandles b g) h ∧ b.entries.lookup h = some e := by
  rcases bestHandle_picks hf.named g with hleast | ⟨hempty, -⟩
  · obtain ⟨e, he, -⟩ := hleast.1
    exact ⟨_, e, hleast, he⟩
  · rw [hempty] at hne
    exact absurd hne Set.not_nonempty_empty

/-- A call comes to the reduction iff the entry under the least eligible handle permits the operation. -/
theorem reachesReduction_iff (hf : EntriesFiled b) :
    b.ReachesReduction kind offset length g ↔ ∃ h e, IsLeast (eligibleHandles b g) h ∧ b.entries.lookup h = some e ∧
      Permits (.synthetic b) e.view e.reg.keys.remoteKeyGeneration kind offset length := by
  constructor
  · rintro ⟨e, hne, he, hallow⟩
    have hleast := (bestHandle_picks hf.named g).resolve_right fun hempty => hne hempty.2
    obtain ⟨-, hquery, -⟩ := simulateRemote_least hf hleast he kind offset length
    rw [hquery] at hallow
    exact ⟨_, e, hleast, he, (synthetic_queryEntry_allow b e _ kind offset length).1 hallow⟩
  · rintro ⟨h, e, hleast, he, hpermits⟩
    obtain ⟨hbest, hquery, -⟩ := simulateRemote_least hf hleast he kind offset length
    refine ⟨e, hbest ▸ hf.named h e he, hbest ▸ he, ?_⟩
    rw [hquery]
    exact (synthetic_queryEntry_allow b e _ kind offset length).2 hpermits

/-! ## The reduction -/

/-- Of a length other than 0 the reduction is safe. -/
theorem reducesSafely_of_ne_zero (hf : EntriesFiled b) (hlen : length ≠ 0) :
    b.ReducesSafely kind offset length g := by
  intro hreach
  obtain ⟨h, e, hleast, he, hpermits⟩ := (reachesReduction_iff hf).1 hreach
  have hallow := (synthetic_queryEntry_allow b e _ kind offset length).2 hpermits
  obtain ⟨-, -, hanswer⟩ := simulateRemote_least hf hleast he kind offset length
  rw [if_neg fun h => hlen h.2] at hanswer
  exact ⟨hlen, _, _, _, hanswer, answerOf_delta e hlen hallow⟩

/-- In every reachable state the simulator divides by zero only for a length of 0, and then iff the entry under the
least eligible handle permits the operation with it. -/
theorem reducesSafely_iff {t : List (Lts.Transition SyntheticBackend SyntheticAction)} (h : syntheticBackend.Run t b)
    (kind : OperationKind) (offset length g : UInt64) :
    b.ReducesSafely kind offset length g ↔ length ≠ 0 ∨ ¬b.PermitsEmpty kind offset g := by
  have hf := entriesFiled_run h
  constructor
  · intro hsafe
    by_cases hlen : length = 0
    · subst hlen
      exact .inr fun hempty => (hsafe ((reachesReduction_iff hf).2 hempty)).1 rfl
    · exact .inl hlen
  · rintro (hlen | hdenied)
    · exact reducesSafely_of_ne_zero hf hlen
    · by_cases hlen : length = 0
      · subst hlen
        exact fun hreach => absurd ((reachesReduction_iff hf).1 hreach) hdenied
      · exact reducesSafely_of_ne_zero hf hlen

/-! ## The iteration order -/

theorem eligibleHandles_reorder {m : Table StdString SyntheticEntry} (hm : m.entries.Perm b.entries.entries)
    (g : UInt64) : eligibleHandles { b with entries := m } g = eligibleHandles b g := by
  unfold eligibleHandles
  dsimp only
  simp only [Table.lookup_perm hm]

theorem entriesFiled_reorder {m : Table StdString SyntheticEntry} (hm : m.entries.Perm b.entries.entries)
    (hf : EntriesFiled b) : EntriesFiled { b with entries := m } where
  handle h e he := hf.handle h e (Table.lookup_perm hm h ▸ he)
  named h e he := hf.named h e (Table.lookup_perm hm h ▸ he)
  unrevoked h e he := hf.unrevoked h e (Table.lookup_perm hm h ▸ he)

/-- Another iteration order makes no difference to a simulated operation. -/
theorem simulateRemote_reorder {m : Table StdString SyntheticEntry} (hm : m.entries.Perm b.entries.entries)
    (hf : EntriesFiled b) :
    { b with entries := m }.simulateRemote kind offset length g = b.simulateRemote kind offset length g := by
  have hf' := entriesFiled_reorder hm hf
  by_cases hne : (eligibleHandles b g).Nonempty
  · obtain ⟨h, e, hleast, he⟩ := exists_least hf hne
    have hleast' := (eligibleHandles_reorder hm g).symm ▸ hleast
    rw [(simulateRemote_least hf hleast he _ _ _).2.2,
      (simulateRemote_least hf' hleast' ((Table.lookup_perm hm h).trans he) _ _ _).2.2]
    rfl
  · have hempty := Set.not_nonempty_iff_eq_empty.1 hne
    rw [simulateRemote_none hf hempty, simulateRemote_none hf' ((eligibleHandles_reorder hm g).trans hempty)]

/-- Simulation does not depend on hash-map order. -/
theorem simulation_order_free {t : List (Lts.Transition SyntheticBackend SyntheticAction)}
    (h : syntheticBackend.Run t b) (kind : OperationKind) (offset : UInt64) (hlen : length ≠ 0) (g : UInt64) :
    b.OrderFree kind offset length g := by
  have hf := entriesFiled_run h
  constructor
  · intro m₁ m₂ h₁ h₂
    rw [simulateRemote_reorder h₁ hf, simulateRemote_reorder h₂ hf]
  · intro hne
    obtain ⟨h, e, hleast, he⟩ := exists_least hf hne
    refine ⟨h, e, hleast, he, ?_⟩
    rw [(simulateRemote_least hf hleast he _ _ _).2.2, if_neg fun h => hlen h.2]
  · exact simulateRemote_none hf

end SyntheticBackend

/-! ## A page, simulated -/

namespace Session

/-- A write of no bytes to a registered page divides by zero. -/
theorem empty_write_divides :
    ∃ t, syntheticBackend.Run t (afterCalls [.call (.registerBuffer page {})]) ∧
      ¬(afterCalls [.call (.registerBuffer page {})]).ReducesSafely .write 0 0 1 :=
  ⟨_, calls_run _, fun h => (h ⟨_, by decide +kernel, rfl, by decide +kernel⟩).1 rfl⟩

theorem write_reduces : (afterCalls [.call (.registerBuffer page {})]).ReducesSafely .write 0 64 1 :=
  (SyntheticBackend.reducesSafely_iff (calls_run _) .write 0 64 1).2 (.inl (by decide))

/-- The page, registered twice. -/
def twoEntries : List SyntheticAction := [.call (.registerBuffer page {}), .call (.registerBuffer page {})]

theorem write_order_free : (afterCalls twoEntries).entries.entries.length = 2 ∧
    (afterCalls twoEntries).OrderFree .write 0 64 1 :=
  ⟨by decide +kernel, SyntheticBackend.simulation_order_free (calls_run _) .write 0 (by decide) 1⟩

end Session

end RdmaBuffer
