/-
The ids of sequential clients: every record has an id that was drawn from the counter, so the next id
is free.
-/
import RdmaBuffer.Runtime.InFlight
import RdmaBuffer.Runtime.Sequential

namespace RdmaBuffer

open Rdmabuffer

variable {β : Type}

/-- Every record has an id that was drawn. -/
def Drawn (s : Rdmabuffer β) : Prop :=
  ∀ r rec, s.registrations.lookup r = some rec → r.value.toNat < s.nextRegistration.toNat

theorem Drawn.next_free {s : Rdmabuffer β} (h : Drawn s) : s.registrations.lookup ⟨s.nextRegistration⟩ = none := by
  by_contra hne
  obtain ⟨rec, hk⟩ := Option.ne_none_iff_exists'.1 hne
  exact absurd (h _ rec hk) (lt_irrefl _)

variable [IBackend β] [Environment β]

def Op.recovers : Option (Op β) → Bool
  | some (.atomic (.recover _)) => true
  | _ => false

theorem opStep_nextRegistration {s s' : Rdmabuffer β} {op : Op β} (hs : OpStep s op s') (hn : s'.nextRegistration ≠ 0) :
    s.nextRegistration.toNat ≤ s'.nextRegistration.toNat := by
  have hsucc : s.nextRegistration + 1 ≠ 0 → s.nextRegistration.toNat ≤ (s.nextRegistration + 1).toNat := fun h => by
    rw [UInt64.toNat_succ h]
    exact Nat.le_succ _
  cases hs with
  | atomic op s' he => rw [effect_nextRegistration he]
  | registerFailed => exact hsucc hn
  | registered => exact hsucc hn
  | registerRefused | deregisterRefused | deregistered | deregisterFailed => exact le_refl _

/-- No operation but a recovery adds a record. -/
theorem effect_lookup_none {s s' : Rdmabuffer β} {op : AtomicOp β} (he : Effect s op s')
    (hr : Op.recovers (some (.atomic op)) = false) {r : RegistrationId} (hn : s.registrations.lookup r = none) :
    s'.registrations.lookup r = none := by
  have hrec : RecordStep { runtime := s } (some (.atomic op)) r (s.registrations.lookup r)
      (s'.registrations.lookup r) := effect_recordStep _ he r
  rw [hn] at hrec
  generalize s'.registrations.lookup r = o' at hrec ⊢
  cases hrec with
  | keep => rfl
  | recovered bytes state rec o hl => cases hl; cases hr
  | committed c p bout o hl => cases hl

theorem drawn_opStep {s s' : Rdmabuffer β} {op : Op β} (hs : OpStep s op s') (hi : Drawn s)
    (hr : Op.recovers (some op) = false) (hn : s'.nextRegistration ≠ 0) : Drawn s' := by
  intro r rec h
  cases hs with
  | atomic op s' he =>
    rw [effect_nextRegistration he]
    rcases ho : s.registrations.lookup r with _ | rec₀
    · rw [effect_lookup_none he hr ho] at h; cases h
    · exact hi r rec₀ ho
  | registerRefused | deregisterRefused => exact hi r rec h
  | registerFailed descriptor backend domain env b b' bo bout hv he ho hok =>
    have hn' : s.nextRegistration + 1 ≠ 0 := hn
    show _ < (s.nextRegistration + 1).toNat
    rw [UInt64.toNat_succ hn']
    exact (hi r rec h).trans (Nat.lt_succ_self _)
  | registered descriptor backend domain env b b' bo bout hv he ho hok hid =>
    have hn' : s.nextRegistration + 1 ≠ 0 := hn
    show _ < (s.nextRegistration + 1).toNat
    rw [UInt64.toNat_succ hn']
    -- the new record has the id that was drawn, the others had theirs before
    rw [registerCommit_lookup] at h
    split at h
    · rename_i hk; rw [hk]; exact Nat.lt_succ_self _
    · exact (hi r rec h).trans (Nat.lt_succ_self _)
  | deregistered k rec₀ backends hk hn' hd hrel =>
    rw [removed_lookup] at h
    split at h
    · cases h
    · exact hi r rec h
  | deregisterFailed k rec₀ backends hk hn' hd hrel =>
    rw [failed_lookup] at h
    split at h
    · rename_i hrk; rw [hrk]; exact hi k rec₀ hk
    · exact hi r rec h

end RdmaBuffer
