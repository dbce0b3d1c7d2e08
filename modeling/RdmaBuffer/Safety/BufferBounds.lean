/-
Registered memory and the created buffer. register_buffer takes its own copy of the descriptor and
compares only identity and generation with the stored one: an active record stays inside its buffer
exactly when every accepted copy did.
-/
import RdmaBuffer.Safety.AllowSound

namespace RdmaBuffer

open Rdmabuffer Backend

/-! ## Inside the buffer -/

/-- The bytes of `part` are bytes of `whole`, in the same memory domain. -/
def BufferDescriptor.within (part whole : BufferDescriptor) : Bool :=
  whole.base.address.toNat ≤ part.base.address.toNat &&
    part.base.address.toNat + part.byteLength.toNat ≤ whole.base.address.toNat + whole.byteLength.toNat &&
    part.domain == whole.domain

/-- The bytes of the record are bytes of its buffer as create_buffer stored it, in the same memory domain. -/
structure InsideBuffer (s : Rdmabuffer Backend) (rec : RegistrationRecord) (be : BufferEntry) : Prop where
  buffer : s.buffers.lookup rec.bufferId = some be
  lower : be.descriptor.base.address.toNat ≤ rec.start.toNat
  upper : rec.start.toNat + rec.length.toNat ≤
    be.descriptor.base.address.toNat + be.descriptor.byteLength.toNat
  domain : rec.domain = be.descriptor.domain

/-- Every ACTIVE record is inside its buffer. -/
def StaysInside (s : Rdmabuffer Backend) : Prop :=
  ∀ r rec, s.registrations.lookup r = some rec → rec.lifecycle = .active → ∃ be, InsideBuffer s rec be

/-- A register_buffer is accepted with a descriptor that goes beyond the stored one. -/
def overclaims (s : Rdmabuffer Backend) : Option (Op Backend) → Bool
  | some (.registerBuffer descriptor backend domain env) =>
    (s.registerBuffer descriptor backend domain env).2.ok &&
      !(s.buffers.lookup descriptor.id).any fun be => descriptor.within be.descriptor
  | _ => false

/-! ## One step -/

theorem inside_left {s s' : Rdmabuffer Backend} {r : RegistrationId} {rec rec' : RegistrationRecord} {be : BufferEntry}
    (h : LeftOf s s' r rec' rec) (hl : rec.lifecycle = .active) (hi : InsideBuffer s rec be) :
    InsideBuffer s' rec' be := by
  obtain ⟨n, k, rfl⟩ := h.same
  exact ⟨h.buffer (by rw [hl]; rfl) be hi.buffer, hi.lower, hi.upper, hi.domain⟩

/-- The record that a registration commits is inside its buffer exactly when the descriptor was. -/
theorem inside_registered (s : Rdmabuffer Backend) {descriptor : BufferDescriptor} (backend : BackendId)
    (domain : ProtectionDomainId) (env : AuthorityEnvelope) {b b' : Backend} {bout : BackendRegistration}
    (hr : Registered b descriptor b' bout) :
    (∃ be, InsideBuffer ((called s backend b').registerCommit (pending s b descriptor backend domain env) bout).1
      (commitRecord s.authority (pending s b descriptor backend domain env) bout) be) ↔
      (s.buffers.lookup descriptor.id).any (fun be => descriptor.within be.descriptor) = true := by
  rw [Option.any_eq_true]
  constructor
  · rintro ⟨be, hbe⟩
    have hbuf : s.buffers.lookup descriptor.id = some be := hbe.buffer
    have hlo : be.descriptor.base.address.toNat ≤ bout.registeredBase.toNat := hbe.lower
    have hup : bout.registeredBase.toNat + bout.registeredLength.toNat ≤ _ := hbe.upper
    have hdom : descriptor.domain = be.descriptor.domain := hbe.domain
    rw [hr.base] at hlo hup
    rw [hr.length] at hup
    exact ⟨be, hbuf, by simp [BufferDescriptor.within, hlo, hup, hdom]⟩
  · rintro ⟨be, hbuf, hw⟩
    simp only [BufferDescriptor.within, Bool.and_eq_true, decide_eq_true_eq, beq_iff_eq] at hw
    obtain ⟨⟨hlo, hup⟩, hdom⟩ := hw
    refine ⟨be, hbuf, ?_, ?_, hdom⟩
    · show _ ≤ bout.registeredBase.toNat
      rw [hr.base]; exact hlo
    · show bout.registeredBase.toNat + bout.registeredLength.toNat ≤ _
      rw [hr.base, hr.length]; exact hup

theorem staysInside_opStep {s s' : Rdmabuffer Backend} {op : Op Backend} (hs : OpStep s op s')
    (hc : overclaims s (some op) = false) (hi : StaysInside s) : StaysInside s' := by
  intro r rec' hr' hl
  cases opStep_origin hs hr' (.inr (by rw [hl]; rfl)) with
  | left rec h =>
    have hl' : rec.lifecycle = .active := by
      obtain ⟨n, k, rfl⟩ := h.same
      exact hl
    obtain ⟨be, hbe⟩ := hi r rec h.before hl'
    exact ⟨be, inside_left h hl' hbe⟩
  | registered descriptor backend domain env b b' bo bout hop hv he ho hs' hid hrec hok =>
    subst hop hs' hrec
    rcases registerBuffer_spec he with ⟨ho', -⟩ | ⟨-, hreg⟩
    · rw [ho] at ho'; cases ho'
    · refine (inside_registered s backend domain env hreg).2 ?_
      simpa [overclaims, hok] using hc
  | failed rec backends hop hr hd hrel hs' hrec => rw [hrec] at hl; cases hl

/-- The record of an accepted descriptor that goes beyond the stored one is not inside its buffer. -/
theorem not_staysInside_opStep {s s' : Rdmabuffer Backend} {op : Op Backend} (hs : OpStep s op s')
    (hc : overclaims s (some op) = true) : ¬StaysInside s' := by
  cases hs with
  | atomic | deregisterRefused | deregistered | deregisterFailed => cases hc
  | registerRefused descriptor backend domain env hok => simp [overclaims, hok] at hc
  | registerFailed descriptor backend domain env b b' bo bout hv he ho hok => simp [overclaims, hok] at hc
  | registered descriptor backend domain env b b' bo bout hv he ho hok =>
    intro h
    rcases registerBuffer_spec he with ⟨ho', -⟩ | ⟨-, hreg⟩
    · rw [ho] at ho'; cases ho'
    · have hrec := registerCommit_lookup (called s backend b') (pending s b descriptor backend domain env) bout
        ⟨s.nextRegistration⟩
      have hin := (inside_registered s backend domain env hreg).1 (h _ _ (hrec.trans (if_pos rfl)) rfl)
      simp [overclaims, hok, hin] at hc

theorem staysInside_step {s s' : Rdmabuffer Backend} {l : Option (Op Backend)} (h : (sequential Backend).step s l s')
    (hc : overclaims s l = false) (hi : StaysInside s) : StaysInside s' := by
  cases l with
  | none =>
    have h : Rehash s s' := h
    intro r rec hr hl
    rw [← Table.lookup_perm h.registrations] at hr
    obtain ⟨be, hbe⟩ := hi r rec hr hl
    exact ⟨be, (Table.lookup_perm h.buffers _).symm.trans hbe.buffer, hbe.lower, hbe.upper, hbe.domain⟩
  | some op =>
    obtain rfl : s' = op.run s := h
    exact staysInside_opStep (op.run_cases s) hc hi

theorem staysInside_run {t : List (Lts.Transition (Rdmabuffer Backend) (Option (Op Backend)))} {s : Rdmabuffer Backend}
    (h : (sequential Backend).Run t s) (hc : ∀ x ∈ t, overclaims x.pre x.label = false) : StaysInside s :=
  h.inv_of (I := StaysInside) (C := fun x => overclaims x.pre x.label = false)
    (by rintro _ rfl r rec hr; cases hr) (fun _ _ _ hs hc hi => staysInside_step hs hc hi) hc

/-! ## The headline -/

/-- The bytes the request reaches are bytes of the buffer as create_buffer stored it. -/
def AccessInside (s : Rdmabuffer Backend) (q : RemoteAccessRequest) : Prop :=
  ∃ rec be, s.registrations.lookup q.sourceRegistration = some rec ∧ s.buffers.lookup rec.bufferId = some be ∧
    be.descriptor.base.address.toNat ≤ rec.start.toNat + q.offset.toNat ∧
    rec.start.toNat + q.offset.toNat + q.length.toNat ≤
      be.descriptor.base.address.toNat + be.descriptor.byteLength.toNat

/-- Registered memory stays inside the created buffer, in every state of a run, exactly when no accepted
descriptor goes beyond the stored one; and then no allowed request reaches a byte outside, as long as no
backend repeats a handle. -/
theorem stays_inside_iff (t : List (Lts.Transition (Rdmabuffer Backend) (Option (Op Backend)))) (s : Rdmabuffer Backend)
    (h : (sequential Backend).Run t s) :
    ((∀ x ∈ t, StaysInside x.post) ↔ ∀ x ∈ t, overclaims x.pre x.label = false) ∧
      ((∀ x ∈ t, overclaims x.pre x.label = false) → (∀ x ∈ t, Bounded x.pre ∧ Bounded x.post) →
        ∀ q, (s.validateRemoteAccess q).2.outcome = .allow → AccessInside s q) := by
  refine ⟨⟨fun hin x hx => ?_, fun hc x hx => ?_⟩, fun hc hb q hallow => ?_⟩
  · have hstep := h.step_mem hx
    by_contra hover
    rw [Bool.not_eq_false] at hover
    rcases hl : x.label with _ | op
    · rw [hl] at hover; cases hover
    · rw [hl] at hover hstep
      have hs : x.post = op.run x.pre := hstep
      exact not_staysInside_opStep (op.run_cases x.pre) hover (hs ▸ hin x hx)
  · obtain ⟨t₁, t₂, rfl, hrun, hstep, -⟩ := h.at_mem hx
    refine staysInside_step hstep (hc x hx) (staysInside_run hrun fun y hy => hc y (by simp [hy]))
  · obtain ⟨rec, b, ha⟩ := (allow_iff _ _).1 hallow
    have hv := validTied_run h hb
    obtain ⟨be, hbe⟩ := staysInside_run h hc _ rec ha.registration (hv.active ha)
    have hrange := hv.range ha
    have hlo := hbe.lower
    have hup := hbe.upper
    exact ⟨rec, be, ha.registration, hbe.buffer, by omega, by omega⟩

open Session

/-- Two pages, claimed under the identity of the page that was created. -/
def widePage : BufferDescriptor := { page with byteLength := 8192 }

theorem stays_inside_iff_page : ∃ t s, (sequential Backend).Run t s ∧
    (∀ x ∈ t, overclaims x.pre x.label = false) ∧ (∀ x ∈ t, Bounded x.pre ∧ Bounded x.post) ∧
      (s.validateRemoteAccess (write ⟨1⟩)).2.outcome = .allow ∧ AccessInside s (write ⟨1⟩) := by
  have hr : (sequential Backend).Run (Rdmabuffer.trace {}
      (setup.map .atomic ++ [.registerBuffer page synthetic ⟨1⟩ envelope]))
      (afterOps [.registerBuffer page synthetic ⟨1⟩ envelope]) := ⟨{}, rfl, Rdmabuffer.path_run _ _⟩
  have hc : ∀ x ∈ Rdmabuffer.trace {} (setup.map .atomic ++ [.registerBuffer page synthetic ⟨1⟩ envelope]),
      overclaims x.pre x.label = false := by decide
  have hb : ∀ x ∈ Rdmabuffer.trace {} (setup.map .atomic ++ [.registerBuffer page synthetic ⟨1⟩ envelope]),
      Bounded x.pre ∧ Bounded x.post := by decide
  have ha : ((afterOps [.registerBuffer page synthetic ⟨1⟩ envelope]).validateRemoteAccess (write ⟨1⟩)).2.outcome =
      .allow := by decide
  exact ⟨_, _, hr, hc, hb, ha, (stays_inside_iff _ _ hr).2 hc hb _ ha⟩

/-- The page is created with 4096 bytes and registered with 8192: the record goes beyond the buffer, and
a request for the bytes behind it is allowed. -/
theorem registered_beyond : ∃ t s, (sequential Backend).Run t s ∧ ¬StaysInside s ∧
    ∃ q, (s.validateRemoteAccess q).2.outcome = .allow ∧ ¬AccessInside s q := by
  refine ⟨_, afterOps [.registerBuffer widePage synthetic ⟨1⟩ envelope], ⟨{}, rfl, Rdmabuffer.path_run _ _⟩, ?_,
    { write ⟨1⟩ with offset := 4096 }, by decide, ?_⟩
  · intro h
    obtain ⟨be, hbe⟩ := h ⟨1⟩ _ rfl rfl
    obtain rfl := Option.some.inj ((rfl : _ = some _).trans hbe.buffer)
    exact absurd hbe.upper (by decide)
  · rintro ⟨rec, be, hr, hb, -, hup⟩
    obtain rfl := Option.some.inj ((rfl : _ = some _).trans hr)
    obtain rfl := Option.some.inj ((rfl : _ = some _).trans hb)
    exact absurd hup (by decide)

end RdmaBuffer
