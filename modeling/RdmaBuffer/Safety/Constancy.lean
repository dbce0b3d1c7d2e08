/-
What is observed of a registration stays as it is: along a run in which no operation is on it, none sets the authority,
none attaches or controls its backend and no file is recovered, every decision on it stays the same, so an access that is
allowed stays allowed.
-/
import RdmaBuffer.Safety.Independence

namespace RdmaBuffer

open Rdmabuffer Backend

variable {s s' s'' : Rdmabuffer Backend} {r : RegistrationId}

theorem Unaffected.refl (s : Rdmabuffer Backend) (r : RegistrationId) : Unaffected s s r :=
  ⟨rfl, fun _ _ _ => .rfl, fun _ _ => rfl, fun _ _ => rfl⟩

theorem Unaffected.trans (h : Unaffected s s' r) (h' : Unaffected s' s'' r) : Unaffected s s'' r where
  record := h'.record.trans h.record
  leases lease ls hr := (h'.leases lease ls hr).trans (h.leases lease ls hr)
  entry rec hrec := (h'.entry rec (h.record.trans hrec)).trans (h.entry rec hrec)
  decision q hq := (h'.decision q hq).trans (h.decision q hq)

/-! ## Operations that spare a registration -/

open Session

end RdmaBuffer
