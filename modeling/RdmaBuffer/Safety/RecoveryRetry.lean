/-
A recovery that is tried again: each of its three loops finds the table as it would leave it.
-/
import RdmaBuffer.Safety.RecoveryMerge
import RdmaBuffer.Safety.SaveCycle

namespace RdmaBuffer

open Rdmabuffer

section

variable {β : Type}

/-! ## The loops over tables that have it all -/

theorem recoverBuffers_present {s : Rdmabuffer β} (report : RecoveryReport) {bs : List BufferDescriptor}
    (h : ∀ b ∈ bs, (s.buffers.lookup b.id).isSome) : bs.foldl recoverBuffer (s, report) = (s, report) := by
  induction bs with
  | nil => rfl
  | cons b bs ih =>
    have hb : recoverBuffer (s, report) b = (s, report) := if_pos (h b List.mem_cons_self)
    rw [List.foldl_cons, hb, ih fun b' hb' => h b' (List.mem_cons_of_mem _ hb')]

theorem recoverDomains_present {s : Rdmabuffer β} (report : RecoveryReport) {ds : List ProtectionDomainId}
    (h : ∀ d ∈ ds, (s.domains.lookup d).isSome) : ds.foldl recoverDomain (s, report) = (s, report) := by
  induction ds with
  | nil => rfl
  | cons d ds ih =>
    have hd : recoverDomain (s, report) d = (s, report) := if_pos (h d List.mem_cons_self)
    rw [List.foldl_cons, hd, ih fun d' hd' => h d' (List.mem_cons_of_mem _ hd')]

theorem recoverRegistrations_present {s : Rdmabuffer β} {rs : List RegistrationRecord}
    (h : ∀ rec ∈ rs, s.registrations.lookup rec.id = some (recoveredRecord rec)) : ∀ report : RecoveryReport,
    (rs.foldl recoverRegistration (s, report)).1 = s := by
  induction rs with
  | nil => exact fun report => rfl
  | cons rec rs ih =>
    intro report
    rw [List.foldl_cons, recoverRegistration, Table.put_of_lookup (h rec List.mem_cons_self)]
    exact ih (fun rec' hrec' => h rec' (List.mem_cons_of_mem _ hrec')) _

/-! ## The second time -/

/-- A state that has all of the file as a recovery takes it over, and its authority, is left as it is. -/
theorem restore_present {s : Rdmabuffer β} {state : PersistableState}
    (hbuffers : ∀ b ∈ state.buffers, (s.buffers.lookup b.id).isSome)
    (hdomains : ∀ d ∈ state.domains, (s.domains.lookup d).isSome)
    (hregistrations : ∀ rec ∈ state.registrations, s.registrations.lookup rec.id = some (recoveredRecord rec))
    (hauthority : s.authority = state.authoritySnapshot) : (restore s state).1 = s := by
  unfold restore
  dsimp only
  rw [recoverBuffers_present _ hbuffers, recoverDomains_present _ hdomains]
  show { (state.registrations.foldl recoverRegistration (s, {})).1 with authority := state.authoritySnapshot } = s
  rw [recoverRegistrations_present hregistrations, ← hauthority]

/-- Recovery is idempotent: recovering an accepted file twice in succession leaves the runtime exactly as recovering
it once. -/
theorem recovery_idempotent (s : Rdmabuffer β) (bytes : Bytes) (state : PersistableState)
    (hp : Persistence.parse bytes = .ok state) :
    ((s.recover (some bytes)).1.recover (some bytes)).1 = (s.recover (some bytes)).1 := by
  have hd := (Persistence.parse_sound hp).2.registrations
  rw [recover_of_parse s hp, recover_of_parse _ hp]
  exact restore_present (fun b hb => restore_isSome s hb) (fun d hd => restore_domain_isSome s hd)
    (fun rec hrec => restore_registration s hd hrec) (restore_spec s state).authority

end

open Session

/-- A runtime with a live registration recovers the file of another session twice. -/
theorem recovery_idempotent_session :
    (((after (registration 0 page)).runtime.recover (some file)).1.recover (some file)).1 =
      ((after (registration 0 page)).runtime.recover (some file)).1 :=
  recovery_idempotent _ _ _ parse_file

end RdmaBuffer
