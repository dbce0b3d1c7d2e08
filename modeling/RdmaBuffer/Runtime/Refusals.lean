/-
Why a registration is refused: the checks of `register_buffer` in their order, each with the answer it gives, so
that an answer tells the check that failed.
-/
import RdmaBuffer.Runtime.Sections

namespace RdmaBuffer

open Rdmabuffer

variable {β : Type} [IBackend β]

/-- The answer on a protection domain that is missing or not ACTIVE. -/
def domainInvalid : RegisterResult :=
  { explanation := lit "protection domain missing or not active", missReason := lit "DOMAIN_INVALID" }

/-- The answer on a buffer whose slot is taken. -/
def registrationInFlight : RegisterResult :=
  { explanation := lit "buffer already has an active registration", missReason := lit "REGISTRATION_IN_FLIGHT" }

/-- The answers of `register_buffer` that are refusals, with the check that failed. -/
inductive Refusal (s : Rdmabuffer β) (descriptor : BufferDescriptor) (backend : BackendId) (domain : ProtectionDomainId)
    (env : AuthorityEnvelope) : RegisterResult → Prop
  | authority (h : ¬Authorized s.authority env) : Refusal s descriptor backend domain env
      { result := .rejected, explanation := (validateAuthority s.authority env).explanation
        missReason := accessOutcomeName (validateAuthority s.authority env).outcome }
  | backend (h : s.backends.lookup backend = none) : Refusal s descriptor backend domain env
      { explanation := lit "unknown backend", missReason := lit "UNKNOWN_BACKEND" }
  | domain (h : (s.domains.lookup domain).map (·.state) ≠ some .active) :
      Refusal s descriptor backend domain env domainInvalid
  | range (h : (validateRange descriptor).ok = false) : Refusal s descriptor backend domain env
      { explanation := lit "invalid buffer range: " ++ (validateRange descriptor).code
        missReason := (validateRange descriptor).code }
  | buffer (h : s.buffers.lookup descriptor.id = none) : Refusal s descriptor backend domain env
      { explanation := lit "buffer not created; call create_buffer first", missReason := lit "BUFFER_NOT_FOUND" }
  | generation (be : BufferEntry) (hb : s.buffers.lookup descriptor.id = some be)
      (h : be.descriptor.generation ≠ descriptor.generation) : Refusal s descriptor backend domain env
      { explanation := lit "buffer generation mismatch", missReason := lit "GENERATION_MISMATCH" }
  | slot (h : (s.activeRegistrationForBuffer.lookup descriptor.id).isSome = true) :
      Refusal s descriptor backend domain env registrationInFlight
  | admission (b : β) (hb : s.backends.lookup backend = some b) (h : IBackend.canRegister b descriptor ≠ []) :
      Refusal s descriptor backend domain env
      { explanation := lit "backend rejects registration: " ++ IBackend.canRegister b descriptor
        missReason := IBackend.canRegister b descriptor }
  | failure (message code : StdString) : Refusal s descriptor backend domain env
      { result := .partialFailure, explanation := lit "backend registration failed: " ++ message, missReason := code }

theorem validateAuthority_code (snap : AuthoritySnapshot) (env : AuthorityEnvelope) :
    (validateAuthority snap env).code = accessOutcomeName (validateAuthority snap env).outcome := by
  unfold validateAuthority
  repeat' split
  all_goals rfl

theorem registerBegin_refusal {s s₁ : Rdmabuffer β} {descriptor : BufferDescriptor} {backend : BackendId}
    {domain : ProtectionDomainId} {env : AuthorityEnvelope} {rr : RegisterResult}
    (h : s.registerBegin descriptor backend domain env = (s₁, .error rr)) :
    Refusal s descriptor backend domain env rr := by
  unfold registerBegin at h
  dsimp only at h
  -- one split for each check, in the order of the source
  split at h
  · rename_i ha
    cases h
    rw [validateAuthority_code]
    exact .authority ha
  · split at h
    · cases h
      exact .backend ‹_›
    · rename_i b hb
      split at h
      · cases h
        exact .domain ‹_›
      · split at h
        · rename_i hr
          cases h
          exact .range (by simpa using hr)
        · split at h
          · cases h
            exact .buffer ‹_›
          · rename_i be hbe
            split at h
            · cases h
              exact .generation be hbe ‹_›
            · split at h
              · cases h
                exact .slot ‹_›
              · split at h
                · cases h
                  exact .admission b hb ‹_›
                · cases h

/-- A registration that does not succeed is refused by one of the checks, or fails in the backend. -/
theorem registerBuffer_refusal {s : Rdmabuffer β} {descriptor : BufferDescriptor} {backend : BackendId}
    {domain : ProtectionDomainId} {env : AuthorityEnvelope}
    (h : (s.registerBuffer descriptor backend domain env).2.ok = false) :
    Refusal s descriptor backend domain env (s.registerBuffer descriptor backend domain env).2 := by
  unfold registerBuffer at h ⊢
  rcases registerBegin_cases s descriptor backend domain env with ⟨rr, -, he⟩ | ⟨b, hv, he⟩
  · rw [he]
    exact registerBegin_refusal he
  · rw [he] at h ⊢
    unfold registerCall at h ⊢
    have hb : s.backends.lookup (pending s b descriptor backend domain env).backend = some b := hv.backend
    simp only [hb] at h ⊢
    split
    · rename_i hc
      split at hc
      · cases hc
        exact .failure _ _
      · cases hc
    · rename_i hc
      rw [hc] at h
      cases h

/-! ## What an answer tells -/

/-- The byte of a text at a position stays when the text goes on. -/
theorem getElem?_append_of {a b : StdString} {i : Nat} {c : UInt8} (h : a[i]? = some c) : (a ++ b)[i]? = some c := by
  have hi : i < a.length := (List.getElem?_eq_some_iff.1 h).1
  rw [List.getElem?_append_left hi, h]

theorem accessOutcomeName_ne (o : AccessOutcome) :
    accessOutcomeName o ≠ domainInvalid.missReason ∧ accessOutcomeName o ≠ registrationInFlight.missReason := by
  cases o <;> decide

/-- Only the domain check answers so. -/
theorem Refusal.of_domainInvalid {s : Rdmabuffer β} {descriptor : BufferDescriptor} {backend : BackendId}
    {domain : ProtectionDomainId} {env : AuthorityEnvelope}
    (h : Refusal s descriptor backend domain env domainInvalid) :
    (s.domains.lookup domain).map (·.state) ≠ some .active := by
  generalize hr : domainInvalid = rr at h
  -- the second letters of the explanations differ where the rest comes from the backend
  have hletter := congrArg (fun rr => rr.explanation[1]?) hr
  have hreason := congrArg RegisterResult.missReason hr
  cases h with
  | domain hd => exact hd
  | authority => exact absurd hreason.symm (accessOutcomeName_ne _).1
  | backend | buffer | generation | slot => cases hreason
  | range | admission =>
    dsimp only at hletter
    rw [getElem?_append_of rfl] at hletter
    exact absurd hletter (by decide)
  | failure => cases congrArg RegisterResult.result hr

/-- Only the slot test answers so. -/
theorem Refusal.of_registrationInFlight {s : Rdmabuffer β} {descriptor : BufferDescriptor} {backend : BackendId}
    {domain : ProtectionDomainId} {env : AuthorityEnvelope}
    (h : Refusal s descriptor backend domain env registrationInFlight) :
    (s.activeRegistrationForBuffer.lookup descriptor.id).isSome = true := by
  generalize hr : registrationInFlight = rr at h
  -- the second letters of the explanations differ where the rest comes from the backend
  have hletter := congrArg (fun rr => rr.explanation[1]?) hr
  have hreason := congrArg RegisterResult.missReason hr
  cases h with
  | slot hs => exact hs
  | authority => exact absurd hreason.symm (accessOutcomeName_ne _).2
  | backend | buffer | generation | domain => cases hreason
  | range | admission =>
    dsimp only at hletter
    rw [getElem?_append_of rfl] at hletter
    exact absurd hletter (by decide)
  | failure => cases congrArg RegisterResult.result hr

end RdmaBuffer
