/-
Coherence of the registry with its backends for sequential clients: nothing leaks on either side, no
deregistration fails in a backend, and every request that qualifies is allowed. It holds in every state
of a run exactly when no deregistration skips its backend, which one does when the backend's id is zero.
-/
import RdmaBuffer.Registry.Access
import RdmaBuffer.Runtime.Execution
import RdmaBuffer.Runtime.Mirror

namespace RdmaBuffer

open Rdmabuffer Backend

/-! ## Coherence -/

/-- A record and the live entry of its handle. -/
structure SameEntry (rec : RegistrationRecord) (e : LiveEntry) : Prop where
  base : e.base = rec.start
  length : e.length = rec.length
  granted : e.granted = rec.grantedAccess
  keyGeneration : rec.lifecycle = .active → e.keyGeneration = rec.remoteKey.keyGeneration

/-- A request that nothing stands against: an ACTIVE record, a current envelope, what is expected or
named matches or is zero, the transport is zero, the rights are granted, the extent is in range and the
backend supports the kind. -/
structure Qualifies (s : Rdmabuffer Backend) (q : RemoteAccessRequest) (rec : RegistrationRecord) : Prop where
  registration : s.registrations.lookup q.sourceRegistration = some rec
  active : rec.lifecycle = .active
  authority : Authorized s.authority q.authority
  registrationGeneration : Expects (·.isValid) q.expectedRegistrationGeneration rec.registrationGeneration
  bufferGeneration : Expects (·.isValid) q.expectedBufferGeneration rec.bufferGeneration
  keyGeneration : Expects (·.isValid) q.expectedRemoteKeyGeneration rec.remoteKey.keyGeneration
  backend : Expects (·.isValid) q.backend rec.backend
  domain : Expects (·.isValid) q.domain rec.domainId
  transport : q.transport.isValid = false
  rights : accessSuperset rec.grantedAccess q.requiredRights = true
  intrinsic : accessHas rec.grantedAccess (intrinsicRight q.kind) = true
  range : q.offset.toNat + q.length.toNat ≤ rec.length.toNat
  supported : ∃ b, s.backends.lookup rec.backend = some b ∧ b.supports q.kind = true

/-- The records and the live entries are in bijection through backend and handle and agree, no
deregistration fails in its backend, and what qualifies is allowed. -/
structure Coherent (s : Rdmabuffer Backend) : Prop where
  held : ∀ r rec, s.registrations.lookup r = some rec →
    ∃ b e, s.backends.lookup rec.backend = some b ∧ b.live rec.backendHandle = some e ∧ SameEntry rec e
  owned : ∀ id b h e, s.backends.lookup id = some b → b.live h = some e →
    ∃ r rec, s.registrations.lookup r = some rec ∧ rec.backend = id ∧ rec.backendHandle = h
  distinct : ∀ r r' rec rec', s.registrations.lookup r = some rec → s.registrations.lookup r' = some rec' →
    rec.backend = rec'.backend → rec.backendHandle = rec'.backendHandle → r = r'
  released : ∀ r rec, s.registrations.lookup r = some rec → releases s rec = true
  unfailed : ∀ r rec, s.registrations.lookup r = some rec → rec.lifecycle ≠ .failed
  complete : ∀ q rec, Qualifies s q rec → (s.validateRemoteAccess q).2.outcome = .allow

/-! ## Registry and backends in step are coherent -/

/-- A backend that serves atomics says so in its capabilities. -/
theorem supports_atomic {b : Backend} (h : b.supports .atomicCompareSwap = true) :
    capabilityAllows (IBackend.capabilities b).remoteAtomic = true := by
  cases b with
  | synthetic b =>
    have h : b.atomicSupported = true := h
    show capabilityAllows (SyntheticBackend.capability b.atomicSupported) = true
    rw [h]
    rfl
  | reference b => cases h

theorem InStep.allows {n : Nat} {s : Rdmabuffer Backend} (hi : InStep n s) {q : RemoteAccessRequest}
    {rec : RegistrationRecord} (hq : Qualifies s q rec) : (s.validateRemoteAccess q).2.outcome = .allow := by
  obtain ⟨e, he, hm⟩ := hi.matching.held _ rec hq.registration
  obtain ⟨b, hb, hlive, hgen⟩ := heldAt_eq_some.1 he
  have hb : s.backends.lookup rec.backend = some b := hb
  obtain ⟨hfresh, hunrevoked, hkey⟩ := hm.live (by rw [hq.active]; rfl)
  obtain ⟨b₀, hb₀, hsup⟩ := hq.supported
  obtain rfl : b₀ = b := Option.some.inj (hb₀.symm.trans hb)
  have hlife : rec.lifecycle ≠ .revoked ∧ rec.lifecycle ≠ .deregistered ∧ rec.lifecycle ≠ .stale ∧
      rec.lifecycle ≠ .revoking := by
    rw [hq.active]
    exact ⟨nofun, nofun, nofun, nofun⟩
  refine (allow_iff s q).2 ⟨rec, b₀, ⟨hq.registration, hlife, hfresh, hq.authority, hq.registrationGeneration,
    hq.bufferGeneration, hq.keyGeneration, hunrevoked, hq.backend, hb, hgen.trans hm.generation,
    fun h => ?_, hq.domain, hq.rights, hq.intrinsic, fun hk _ => supports_atomic (hk ▸ hsup), ?_, ?_⟩⟩
  · exact absurd (h.symm.trans hq.transport) (by decide)
  · rw [rangeInside_iff, ← hm.extent]; exact hq.range
  · refine (queryRemoteAccess_allow _ _ _ _ _ _).2
      ⟨e.entry, hlive, hm.revalidated, hm.unrevoked, hkey.symm, ?_, ?_, hsup⟩
    · rw [hm.length]; exact hq.range
    · rw [hm.granted]; exact hq.intrinsic

theorem InStep.coherent {n : Nat} {s : Rdmabuffer Backend} (hi : InStep n s) : Coherent s where
  held r rec hr := by
    obtain ⟨e, he, hm⟩ := hi.matching.held r rec hr
    obtain ⟨b, hb, hlive, -⟩ := heldAt_eq_some.1 he
    refine ⟨b, e.entry, hb, hlive, hm.base, hm.length, hm.granted, fun hl => (hm.live ?_).2.2⟩
    rw [hl]
    rfl
  owned id b h e hb hlive := by
    obtain ⟨r, rec, hr, hkey⟩ := hi.matching.owned (id, h) ⟨e, IBackend.generation b⟩
      (heldAt_eq_some.2 ⟨b, hb, hlive, rfl⟩)
    exact ⟨r, rec, hr, congrArg Prod.fst hkey, congrArg Prod.snd hkey⟩
  distinct r r' rec rec' hr hr' hb hh := hi.matching.distinct r r' rec rec' hr hr' (Prod.ext hb hh)
  released r rec hr := hi.lets_go hr
  unfailed r rec hr := by
    obtain ⟨e, -, hm⟩ := hi.matching.held r rec hr
    exact hm.unfailed
  complete q rec hq := hi.allows hq

theorem inStep_run {t : List (Lts.Transition (Rdmabuffer Backend) (Option (Op Backend)))} {s : Rdmabuffer Backend}
    (h : (sequential Backend).Run t s) (hdriven : ∀ x ∈ t, Driven x.label) (hcount : t.countP registers < 2 ^ 57)
    (hc : ∀ x ∈ t, skipsBackend x.pre x.label = false) : InStep (t.countP registers) s := by
  refine h.trace_inv (I := fun t s => InStep (t.countP registers) s)
    (C := fun t x => Driven x.label ∧ skipsBackend x.pre x.label = false ∧ (t ++ [x]).countP registers < 2 ^ 57)
    (by rintro _ rfl; exact inStep_init) ?_ ?_
  · rintro t s l s' hs ⟨hd, hskip, hn⟩ hi
    simp only [List.countP_append, List.countP_singleton] at hn ⊢
    cases l with
    | none => exact inStep_rehash hs hi
    | some op =>
      obtain rfl : s' = op.run s := hs
      exact inStep_opStep (op.run_cases s) hd hskip hi hn
  · rintro t₁ x t₂ rfl
    have hx : x ∈ t₁ ++ x :: t₂ := by simp
    refine ⟨hdriven x hx, hc x hx, lt_of_le_of_lt ?_ hcount⟩
    rw [List.append_cons t₁ x t₂]
    exact (List.sublist_append_left _ _).countP_le

/-! ## A deregistration that skips its backend -/

theorem deregister_skips {s : Rdmabuffer Backend} {r : RegistrationId} {rec : RegistrationRecord}
    (hr : s.registrations.lookup r = some rec) (hn : rec.leaseCount = 0) (hd : deregisterable rec.lifecycle = true)
    (hv : rec.backend.isValid = false) : (s.deregister r).1 = removed s r rec s.backends := by
  have hput : (Table.put r { rec with lifecycle := .deregistering } s.registrations).lookup r =
      some { rec with lifecycle := .deregistering } := by rw [Table.lookup_put_self]
  unfold deregister deregisterBegin
  simp only [hr, if_neg (show ¬rec.leaseCount > 0 by simp [hn]), hd, Bool.not_true, Bool.false_eq_true, if_false,
    deregisterCall, hv, Bool.not_false, if_true, deregisterFinish, hput]
  rfl

/-- It leaves a live entry without a record. -/
theorem not_coherent_skip {s : Rdmabuffer Backend} {op : Op Backend} (hi : Coherent s)
    (hc : skipsBackend s (some op) = true) : ¬Coherent (op.run s) := by
  cases op with
  | atomic | registerBuffer => cases hc
  | deregister r =>
    simp only [skipsBackend, Option.any_eq_true, Bool.and_eq_true, beq_iff_eq, Bool.not_eq_true'] at hc
    obtain ⟨rec, hr, ⟨hn, hd⟩, hv⟩ := hc
    intro hpost
    have hrun : (Op.deregister r : Op Backend).run s = removed s r rec s.backends := deregister_skips hr hn hd hv
    rw [hrun] at hpost
    obtain ⟨b, e, hb, hlive, -⟩ := hi.held r rec hr
    obtain ⟨r', rec', hr', hbk, hh⟩ := hpost.owned rec.backend b rec.backendHandle e hb hlive
    rw [removed_lookup] at hr'
    split at hr'
    · cases hr'
    · rename_i hne
      exact hne (hi.distinct r' r rec' rec hr' hr hbk hh)

/-! ## The headline -/

/-- Coherence: in a run that drives the backends through the registry, with fewer than `2 ^ 57`
registrations, registry and backends are coherent in every state exactly when no deregistration skips
its backend. -/
theorem coherent_iff (t : List (Lts.Transition (Rdmabuffer Backend) (Option (Op Backend)))) (s : Rdmabuffer Backend)
    (h : (sequential Backend).Run t s) (hdriven : ∀ x ∈ t, Driven x.label) (hcount : t.countP registers < 2 ^ 57) :
    (∀ x ∈ t, Coherent x.post) ↔ ∀ x ∈ t, skipsBackend x.pre x.label = false := by
  constructor
  · intro hco x hx
    obtain ⟨t₁, t₂, rfl, hrun, hstep, -⟩ := h.at_mem hx
    have hpre : Coherent x.pre := by
      rcases hrun.last with h₀ | ⟨y, hy, hpost⟩
      · have h₀ : x.pre = {} := h₀
        exact h₀ ▸ inStep_init.coherent
      · exact hpost ▸ hco y (by simp [hy])
    by_contra hskip
    rw [Bool.not_eq_false] at hskip
    rcases hl : x.label with _ | op
    · rw [hl] at hskip; cases hskip
    · rw [hl] at hskip hstep
      have hs : x.post = op.run x.pre := hstep
      exact not_coherent_skip hpre hskip (hs ▸ hco x hx)
  · intro hc x hx
    obtain ⟨t₁, hpre, hrun⟩ := h.upto hx
    have hle : (t₁ ++ [x]).countP registers ≤ t.countP registers := hpre.sublist.countP_le
    exact (inStep_run hrun (fun y hy => hdriven y (hpre.subset hy)) (hle.trans_lt hcount)
      fun y hy => hc y (hpre.subset hy)).coherent

open Session

/-- A registration that is rotated and deregistered again, with the backend's profile changed before it. -/
def rotation : List (Op Backend) :=
  [.atomic (.control synthetic (.synthetic (.configureAtomicSupport true))),
    .registerBuffer page synthetic ⟨1⟩ envelope, .atomic (.rotateKey ⟨1⟩), .deregister ⟨1⟩]

theorem coherent_iff_rotation : ∃ t s, (sequential Backend).Run t s ∧ (∀ x ∈ t, Driven x.label) ∧
    t.countP registers = 1 ∧ ∀ x ∈ t, Coherent x.post := by
  have hr : (sequential Backend).Run (Rdmabuffer.trace {} (setup.map .atomic ++ rotation)) (afterOps rotation) :=
    ⟨{}, rfl, Rdmabuffer.path_run _ _⟩
  have hd : ∀ x ∈ Rdmabuffer.trace {} (setup.map .atomic ++ rotation), Driven x.label := by
    simp [Rdmabuffer.trace, Lts.trace, setup, rotation, Driven, Control.Configures, SyntheticBackend.Control.Configures]
  have hn : (Rdmabuffer.trace {} (setup.map .atomic ++ rotation)).countP registers = 1 := by decide
  have hc : ∀ x ∈ Rdmabuffer.trace {} (setup.map .atomic ++ rotation), skipsBackend x.pre x.label = false := by decide
  exact ⟨_, _, hr, hd, hn, (coherent_iff _ _ hr hd (hn ▸ by decide)).2 hc⟩

/-- The operations with a reference backend whose id is zero: a registration, and its deregistration. -/
def unnamed : List (Op Backend) :=
  [.atomic (.setAuthority snapshot), .atomic (.addBackend (some (.reference ⟨0⟩))),
    .atomic (.createProtectionDomain ⟨1⟩ ⟨1⟩), .atomic (.createBuffer page),
    .registerBuffer page ⟨0⟩ ⟨1⟩ envelope, .deregister ⟨1⟩]

/-- The deregistration does not call the backend, whose entry stays live without a record. -/
theorem leaked_entry : ∃ t s, (sequential Backend).Run t s ∧ (∀ x ∈ t, Driven x.label) ∧
    t.countP registers < 2 ^ 57 ∧ s.registrations.entries = [] ∧ ¬Coherent s := by
  have hempty : (Rdmabuffer.run {} unnamed).registrations = ∅ := rfl
  refine ⟨_, Rdmabuffer.run {} unnamed, ⟨{}, rfl, Rdmabuffer.path_run _ _⟩, ?_, by decide, rfl, fun h => ?_⟩
  · simp [Rdmabuffer.trace, Lts.trace, unnamed, Driven]
  · obtain ⟨r, rec, hr, -⟩ := h.owned ⟨0⟩ _ (ReferenceBackend.makeHandle (ReferenceBackend.regionAt 1)) _ rfl rfl
    rw [hempty] at hr
    cases hr

end RdmaBuffer
