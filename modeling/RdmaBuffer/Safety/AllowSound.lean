/-
Soundness of ALLOW for sequential clients. The access check looks at neither the buffers nor the
protection domains, and admits lifecycles it does not name: what it leaves out follows from an
invariant that ties every VALID record to its buffer, its domain and the ledger of its backend.
-/
import RdmaBuffer.Registry.Access
import RdmaBuffer.Runtime.Execution
import RdmaBuffer.Runtime.Ledgers
import RdmaBuffer.Runtime.Usable

namespace RdmaBuffer

open Rdmabuffer Backend

/-! ## The invariant -/

/-- How a VALID record is tied to the tables: ACTIVE with its buffer and its domain in place, or FAILED
with a handle that its backend issued and no longer holds. -/
structure Tied (s : Rdmabuffer Backend) (rec : RegistrationRecord) : Prop where
  extent : rec.length = rec.descriptor.byteLength
  lifecycle : rec.lifecycle = .active ∨ rec.lifecycle = .failed
  buffer : rec.lifecycle = .active → HoldsBuffer s rec
  domain : rec.lifecycle = .active → HoldsDomain s rec
  backend : ∃ b, s.backends.lookup rec.backend = some b ∧ IssuedBy b rec.backendHandle ∧
    (rec.lifecycle = .failed → b.live rec.backendHandle = none)

/-- Every VALID record is tied. -/
def ValidTied (s : Rdmabuffer Backend) : Prop :=
  ∀ r rec, s.registrations.lookup r = some rec → rec.freshness = .valid → Tied s rec

theorem tied_left {s s' : Rdmabuffer Backend} {r : RegistrationId} {rec rec' : RegistrationRecord}
    (h : LeftOf s s' r rec' rec) (ha : Advances s.backends s'.backends) (ht : Tied s rec) : Tied s' rec' := by
  obtain ⟨n, k, rfl⟩ := h.same
  have hlive : rec.lifecycle = .active → rec.lifecycle.isLive = true := fun hl => by rw [hl]; rfl
  refine ⟨ht.extent, ht.lifecycle, fun hl => ?_, fun hl => h.domain (hlive hl) (ht.domain hl), ?_⟩
  · obtain ⟨be, hbe, hg⟩ := ht.buffer hl
    exact ⟨be, h.buffer (hlive hl) be hbe, hg⟩
  · obtain ⟨b, hb, hi, hf⟩ := ht.backend
    obtain ⟨b', hb', hadv⟩ := ha _ b hb
    exact ⟨b', hb', hi.advance hadv, fun hl => spent_advance hadv hi (hf hl)⟩

theorem tied_registered {s : Rdmabuffer Backend} {descriptor : BufferDescriptor} {backend : BackendId}
    {domain : ProtectionDomainId} {env : AuthorityEnvelope} {b b' : Backend} {bout : BackendRegistration}
    (hv : Validated s descriptor backend domain env b) (hr : Registered b descriptor b' bout) (ha : Advance b b')
    (hroom : b.HasRoom) :
    Tied ((called s backend b').registerCommit (pending s b descriptor backend domain env) bout).1
      (commitRecord s.authority (pending s b descriptor backend domain env) bout) where
  extent := hr.length
  lifecycle := .inl rfl
  buffer _ := hv.buffer
  domain _ := hv.domain
  backend := by
    refine ⟨b', Table.lookup_put_self _ _ _, ?_, nofun⟩
    refine ⟨b.nextSeq.toNat, ?_, ?_⟩
    · rw [hr.nextSeq, hroom.toNat_succ]; exact Nat.lt_succ_self _
    · rw [ha.handleAt]; exact hr.handle.symm

theorem tied_failed {s : Rdmabuffer Backend} {r : RegistrationId} {rec : RegistrationRecord}
    {backends : Table BackendId Backend} (hrel : Release s rec backends false) (ht : Tied s rec) :
    Tied (failed s r rec backends) { rec with lifecycle := .failed } where
  extent := ht.extent
  lifecycle := .inr rfl
  buffer := nofun
  domain := nofun
  backend := by
    obtain ⟨b, hb, hi, -⟩ := ht.backend
    generalize hok : false = ok at hrel
    cases hrel with
    | skipped => cases hok
    | called b₀ b' bo hv hb₀ he =>
      obtain rfl : b₀ = b := Option.some.inj (hb₀.symm.trans hb)
      obtain ⟨-, hl, -⟩ := deregisterBuffer_spec he
      refine ⟨b', Table.lookup_put_self _ _ _, hi.advance (deregisterBuffer_advance he), fun _ => ?_⟩
      rw [hl]
      exact Function.update_self _ _ _

theorem validTied_opStep {s s' : Rdmabuffer Backend} {op : Op Backend} (hs : OpStep s op s') (hb : Bounded s)
    (hb' : Bounded s') (hi : ValidTied s) : ValidTied s' := by
  intro r rec' hr' hv'
  have ha := opStep_advances hs hb hb'
  cases opStep_origin hs hr' (.inl hv') with
  | left rec h =>
    obtain ⟨n, k, rfl⟩ := h.same
    exact tied_left h ha (hi r rec h.before hv')
  | registered descriptor backend domain env b b' bo bout hop hv he ho hs' hid hrec =>
    subst hs' hrec
    have hb₁ : b'.InBounds := hb'.lookup (Table.lookup_put_self _ _ _)
    rcases registerBuffer_spec he with ⟨ho', -⟩ | ⟨-, hreg⟩
    · rw [ho] at ho'; cases ho'
    · exact tied_registered hv hreg (hreg.advance (hb.lookup hv.backend) hb₁) (hreg.room (hb.lookup hv.backend) hb₁)
  | failed rec backends hop hr hd hrel hs' hrec =>
    subst hs' hrec
    exact tied_failed hrel (hi r rec hr hv')

theorem validTied_step {s s' : Rdmabuffer Backend} {l : Option (Op Backend)} (h : (sequential Backend).step s l s')
    (hb : Bounded s) (hb' : Bounded s') (hi : ValidTied s) : ValidTied s' := by
  cases l with
  | none =>
    have h : Rehash s s' := h
    intro r rec hr hv
    rw [← Table.lookup_perm h.registrations] at hr
    have ht := hi r rec hr hv
    refine ⟨ht.extent, ht.lifecycle, ?_, ?_, ?_⟩
    · unfold HoldsBuffer; rw [← Table.lookup_perm h.buffers]; exact ht.buffer
    · unfold HoldsDomain; rw [← Table.lookup_perm h.domains]; exact ht.domain
    · rw [← Table.lookup_perm h.backends]; exact ht.backend
  | some op =>
    obtain rfl : s' = op.run s := h
    exact validTied_opStep (op.run_cases s) hb hb' hi

theorem validTied_run {t : List (Lts.Transition (Rdmabuffer Backend) (Option (Op Backend)))} {s : Rdmabuffer Backend}
    (h : (sequential Backend).Run t s) (hb : ∀ x ∈ t, Bounded x.pre ∧ Bounded x.post) : ValidTied s :=
  h.inv_of (I := ValidTied) (C := fun x => Bounded x.pre ∧ Bounded x.post)
    (by rintro _ rfl r rec hr; cases hr) (fun _ _ _ hs hb hi => validTied_step hs hb.1 hb.2 hi) hb

/-- An allowed request names an ACTIVE record: a FAILED one has no live entry to confirm it. -/
theorem ValidTied.active {s : Rdmabuffer Backend} (hv : ValidTied s) {q : RemoteAccessRequest}
    {rec : RegistrationRecord} {b : Backend} (ha : Allows s q rec b) : rec.lifecycle = .active := by
  have ht := hv _ rec ha.registration ha.freshness
  refine ht.lifecycle.resolve_right fun hf => ?_
  obtain ⟨e, he, -⟩ := (queryRemoteAccess_allow _ _ _ _ _ _).1 ha.confirmed
  obtain ⟨b₀, hb₀, -, hl⟩ := ht.backend
  obtain rfl : b = b₀ := Option.some.inj (ha.backend.symm.trans hb₀)
  cases (hl hf).symm.trans he

/-- An allowed request stays inside the length of its record. -/
theorem ValidTied.range {s : Rdmabuffer Backend} (hv : ValidTied s) {q : RemoteAccessRequest}
    {rec : RegistrationRecord} {b : Backend} (ha : Allows s q rec b) :
    q.offset.toNat + q.length.toNat ≤ rec.length.toNat := by
  rw [(hv _ rec ha.registration ha.freshness).extent]
  exact rangeInside_iff.1 ha.range

/-! ## The headline -/

/-- What stands behind an allowed request. -/
structure Grounded (s : Rdmabuffer Backend) (q : RemoteAccessRequest) (rec : RegistrationRecord) : Prop where
  registration : s.registrations.lookup q.sourceRegistration = some rec
  lifecycle : rec.lifecycle = .active
  freshness : rec.freshness = .valid
  unrevoked : rec.remoteKey.revoked = false
  authority : Authorized s.authority q.authority
  buffer : HoldsBuffer s rec
  registrationGeneration : Expects (·.isValid) q.expectedRegistrationGeneration rec.registrationGeneration
  bufferGeneration : Expects (·.isValid) q.expectedBufferGeneration rec.bufferGeneration
  keyGeneration : Expects (·.isValid) q.expectedRemoteKeyGeneration rec.remoteKey.keyGeneration
  domain : HoldsDomain s rec
  backend : ∃ b e, s.backends.lookup rec.backend = some b ∧ IBackend.generation b = rec.backendGeneration ∧
    b.live rec.backendHandle = some e ∧ e.revalidateRequired = false ∧
    e.keyGeneration = rec.remoteKey.keyGeneration ∧ b.supports q.kind = true
  range : q.offset.toNat + q.length.toNat < 2 ^ 64 ∧ q.offset.toNat + q.length.toNat ≤ rec.length.toNat
  rights : accessSuperset rec.grantedAccess q.requiredRights = true
  intrinsic : accessHas rec.grantedAccess (intrinsicRight q.kind) = true

/-- Soundness of ALLOW: in every sequential run, whatever its operations and controls, an allowed request
names a record that is grounded in the buffers, the protection domains and the backend. -/
theorem allow_sound (t : List (Lts.Transition (Rdmabuffer Backend) (Option (Op Backend)))) (s : Rdmabuffer Backend)
    (h : (sequential Backend).Run t s) (hb : ∀ x ∈ t, Bounded x.pre ∧ Bounded x.post) (q : RemoteAccessRequest)
    (hallow : (s.validateRemoteAccess q).2.outcome = .allow) : ∃ rec, Grounded s q rec := by
  obtain ⟨rec, b, ha⟩ := (allow_iff _ _).1 hallow
  have ht := validTied_run h hb _ rec ha.registration ha.freshness
  obtain ⟨e, he, hp⟩ := (queryRemoteAccess_allow _ _ _ _ _ _).1 ha.confirmed
  have hactive := (validTied_run h hb).active ha
  have hrange := (validTied_run h hb).range ha
  exact ⟨rec, ha.registration, hactive, ha.freshness, ha.unrevoked, ha.authority, ht.buffer hactive,
    ha.registrationGeneration, ha.bufferGeneration, ha.keyGeneration, ht.domain hactive,
    ⟨b, e, ha.backend, ha.backendGeneration, he, hp.revalidated, hp.key.symm, hp.supported⟩,
    ⟨hrange.trans_lt rec.length.toNat_lt, hrange⟩, ha.rights, ha.intrinsic⟩

open Session

theorem allow_sound_write :
    ∃ t s, (sequential Backend).Run t s ∧ (∀ x ∈ t, Bounded x.pre ∧ Bounded x.post) ∧
      (s.validateRemoteAccess (write ⟨1⟩)).2.outcome = .allow ∧ ∃ rec, Grounded s (write ⟨1⟩) rec := by
  have hr : (sequential Backend).Run _
      (afterOps [.registerBuffer page synthetic ⟨1⟩ envelope, .atomic (.rotateKey ⟨1⟩)]) :=
    ⟨{}, rfl, Rdmabuffer.path_run _ _⟩
  have hb : ∀ x ∈ Rdmabuffer.trace {} (setup.map .atomic ++
      [.registerBuffer page synthetic ⟨1⟩ envelope, .atomic (.rotateKey ⟨1⟩)]), Bounded x.pre ∧ Bounded x.post := by
    decide
  have ha : ((afterOps [.registerBuffer page synthetic ⟨1⟩ envelope, .atomic (.rotateKey ⟨1⟩)]).validateRemoteAccess
      (write ⟨1⟩)).2.outcome = .allow := by decide
  exact ⟨_, _, hr, hb, ha, allow_sound _ _ hr hb _ ha⟩

end RdmaBuffer
