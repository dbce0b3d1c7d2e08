/-
What an operation leaves of a usable record: everything but its lease count and its remote key, and,
while it is live, its buffer and its protection domain.
-/
import RdmaBuffer.Runtime.Sequential

namespace RdmaBuffer

open Rdmabuffer

variable {β : Type}

/-- The record is VALID, ACTIVE or REGISTERED. -/
def RegistrationRecord.Usable (rec : RegistrationRecord) : Prop :=
  rec.freshness = .valid ∨ rec.lifecycle.isLive = true

/-- The record's buffer is there, at the record's generation. -/
def HoldsBuffer (s : Rdmabuffer β) (rec : RegistrationRecord) : Prop :=
  ∃ be, s.buffers.lookup rec.bufferId = some be ∧ be.descriptor.generation = rec.bufferGeneration

/-- The record's protection domain is there and active. -/
def HoldsDomain (s : Rdmabuffer β) (rec : RegistrationRecord) : Prop :=
  ∃ de, s.domains.lookup rec.domainId = some de ∧ de.state = .active

/-- The buffer of the record has the same entry in both states. -/
def SameBuffer (s s' : Rdmabuffer β) (rec : RegistrationRecord) : Prop :=
  ∀ be, s.buffers.lookup rec.bufferId = some be → s'.buffers.lookup rec.bufferId = some be

/-- What a step left of the record of `r`: what it was, but for its lease count and its remote key, with
the buffer and the domain of a live record. -/
structure LeftOf (s s' : Rdmabuffer β) (r : RegistrationId) (rec' : RegistrationRecord) (rec : RegistrationRecord) :
    Prop where
  before : s.registrations.lookup r = some rec
  same : ∃ n k, rec' = { rec with leaseCount := n, remoteKey := k }
  buffer : rec.lifecycle.isLive = true → SameBuffer s s' rec
  domain : rec.lifecycle.isLive = true → HoldsDomain s rec → HoldsDomain s' rec

theorem LeftOf.self {s s' : Rdmabuffer β} {r : RegistrationId} {rec : RegistrationRecord}
    (hr : s.registrations.lookup r = some rec) (hb : SameBuffer s s' rec)
    (hd : HoldsDomain s rec → HoldsDomain s' rec) : LeftOf s s' r rec rec :=
  ⟨hr, ⟨rec.leaseCount, rec.remoteKey, rfl⟩, fun _ => hb, fun _ => hd⟩

/-- Assigning a record that differs in lease count or remote key, or is no longer usable. -/
theorem LeftOf.of_put {s s' : Rdmabuffer β} {k r : RegistrationId} {rec₀ rec₁ rec' : RegistrationRecord}
    (hs : s'.registrations = Table.put k rec₁ s.registrations) (hbuf : s'.buffers = s.buffers)
    (hdom : s'.domains = s.domains) (hk : s.registrations.lookup k = some rec₀)
    (h : rec₁.Usable → ∃ n k, rec₁ = { rec₀ with leaseCount := n, remoteKey := k })
    (hr' : s'.registrations.lookup r = some rec') (hu : rec'.Usable) : ∃ rec, LeftOf s s' r rec' rec := by
  have hb : ∀ rec, SameBuffer s s' rec := fun rec be hbe => by rw [hbuf]; exact hbe
  have hd : ∀ rec, HoldsDomain s rec → HoldsDomain s' rec := fun rec h => by unfold HoldsDomain; rw [hdom]; exact h
  rw [hs] at hr'
  rcases Table.lookup_put_some hr' with ⟨rfl, rfl⟩ | ⟨-, hr'⟩
  · exact ⟨rec₀, hk, h hu, fun _ => hb rec₀, fun _ => hd rec₀⟩
  · exact ⟨rec', .self hr' (hb rec') (hd rec')⟩

/-- A usable record after a withdrawal loop was not selected by it. -/
theorem lookup_withdrawn {hit : RegistrationRecord → Bool} {lc : RegistrationLifecycle} {reason : StdString}
    {m : Table RegistrationId RegistrationRecord} {r : RegistrationId} {rec : RegistrationRecord}
    (hlc : lc.isLive = false) (h : (withdrawn hit lc reason m).lookup r = some rec) (hu : rec.Usable) :
    m.lookup r = some rec ∧ hit rec = false := by
  rw [withdrawn, Table.lookup_mapVals, Option.map_eq_some_iff] at h
  obtain ⟨rec₀, h₀, he⟩ := h
  split at he
  · subst he
    rcases hu with hv | hl
    · cases hv
    · rw [withdraw, hlc] at hl; cases hl
  · rename_i hh
    subst he
    exact ⟨h₀, by simpa using hh⟩

variable [IBackend β] [Environment β]

omit [IBackend β] [Environment β] in
/-- What a recovery brings back is not usable, and what it does not bring back is left. -/
theorem recovered_leftOf (s : Rdmabuffer β) (state : PersistableState) {r : RegistrationId} {rec' : RegistrationRecord}
    (hr' : (s.restore state).1.registrations.lookup r = some rec') (hu : rec'.Usable) :
    ∃ rec, LeftOf s (s.restore state).1 r rec' rec := by
  have hres := restore_spec s state
  rcases hres.registration r with ⟨-, hk⟩ | ⟨rec₀, -, -, hk⟩
  · refine ⟨rec', .self (hk ▸ hr') (fun be hbe => ?_) ?_⟩
    · rcases hres.buffer rec'.bufferId with hb | ⟨hn, -⟩
      · exact hb.trans hbe
      · rw [hn] at hbe; cases hbe
    · rintro ⟨de, hde, hst⟩
      rcases hres.domain rec'.domainId with hd | ⟨hn, -⟩
      · exact ⟨de, hd.trans hde, hst⟩
      · rw [hn] at hde; cases hde
  · rw [hk] at hr'
    obtain rfl := Option.some.inj hr'
    rcases hu with hv | hl
    · cases hv
    · cases hl

theorem effect_leftOf {s s' : Rdmabuffer β} {op : AtomicOp β} (he : Effect s op s') {r : RegistrationId}
    {rec' : RegistrationRecord} (hr' : s'.registrations.lookup r = some rec') (hu : rec'.Usable) :
    ∃ rec, LeftOf s s' r rec' rec := by
  cases he with
  | refused | authority | attached | controlled | queried | bufferRefused | releasedAlone =>
    exact ⟨rec', .self hr' (fun _ h => h) fun h => h⟩
  | domainCreated node process acct =>
    refine ⟨rec', .self hr' (fun _ h => h) ?_⟩
    rintro ⟨de, hde, hst⟩
    unfold HoldsDomain
    rw [Table.lookup_put]
    split
    · exact ⟨_, rfl, rfl⟩
    · exact ⟨de, hde, hst⟩
  -- a record that stays usable is not one of the domain that is destroyed
  | domainDestroyed d de acct h =>
    obtain ⟨hr, hh⟩ := lookup_withdrawn rfl hr' hu
    refine ⟨rec', hr, ⟨_, _, rfl⟩, fun _ _ h => h, ?_⟩
    rintro hl ⟨de₀, hde₀, hst⟩
    refine ⟨de₀, ?_, hst⟩
    rw [Table.lookup_put, if_neg ?_]
    · exact hde₀
    · rintro rfl
      simp [inDomain, hl] at hh
  | bufferCreated descriptor nextBuffer acct h =>
    refine ⟨rec', .self hr' (fun be hbe => ?_) fun h => h⟩
    rw [Table.lookup_put, if_neg (by rintro hk; rw [hk, h] at hbe; cases hbe)]
    exact hbe
  -- nor, if it is live, one of the buffer that is created anew
  | bufferReallocated descriptor be nextBuffer acct h hlt =>
    obtain ⟨hr, hh⟩ := lookup_withdrawn rfl hr' hu
    refine ⟨rec', hr, ⟨_, _, rfl⟩, fun hl be₀ hbe₀ => ?_, fun _ h => h⟩
    rw [Table.lookup_put, if_neg ?_]
    · exact hbe₀
    · intro hk
      simp [onBuffer, hk, hl] at hh
  | leased k env needed rec ls acct h hlive hv ha => exact LeftOf.of_put rfl rfl rfl h (fun _ => ⟨_, _, rfl⟩) hr' hu
  | released lease ls rec acct hls h => exact LeftOf.of_put rfl rfl rfl h (fun _ => ⟨_, _, rfl⟩) hr' hu
  -- a revoked record is neither VALID nor live
  | hardRevoked k rec leases acct h hlive =>
    refine LeftOf.of_put rfl rfl rfl h ?_ hr' hu
    rintro (hv | hl)
    · cases hv
    · cases hl
  | softRevoked k rec acct h hlive =>
    refine LeftOf.of_put rfl rfl rfl h ?_ hr' hu
    rintro (hv | hl)
    · cases hv
    · rw [softRevoked_not_live] at hl
      cases hl
  | rotated k rec b h hlive hb hh => exact LeftOf.of_put rfl rfl rfl h (fun _ => ⟨_, _, rfl⟩) hr' hu
  | rotatedAlone k rec h hlive hb => exact LeftOf.of_put rfl rfl rfl h (fun _ => ⟨_, _, rfl⟩) hr' hu
  | recovered bytes state hp => exact recovered_leftOf s state hr' hu

/-- Where a usable record comes from: it was there, or the step registered it, or the step failed to
deregister it. -/
inductive Origin (s : Rdmabuffer β) (op : Op β) (s' : Rdmabuffer β) (r : RegistrationId) (rec' : RegistrationRecord) :
    Prop
  | left (rec : RegistrationRecord) (h : LeftOf s s' r rec' rec)
  | registered (descriptor : BufferDescriptor) (backend : BackendId) (domain : ProtectionDomainId)
      (env : AuthorityEnvelope) (b b' : β) (bo : RegisterOutcome) (bout : BackendRegistration)
      (hop : op = .registerBuffer descriptor backend domain env)
      (hv : Validated s descriptor backend domain env b)
      (he : IBackend.registerBuffer b descriptor (registrationContext s b descriptor domain env) = (b', bo, bout))
      (ho : bo.ok = true)
      (hs : s' = ((called s backend b').registerCommit (pending s b descriptor backend domain env) bout).1)
      (hid : r = ⟨s.nextRegistration⟩)
      (hrec : rec' = commitRecord s.authority (pending s b descriptor backend domain env) bout)
      (hok : (s.registerBuffer descriptor backend domain env).2.ok = true)
  | failed (rec : RegistrationRecord) (backends : Table BackendId β) (hop : op = .deregister r)
      (hr : s.registrations.lookup r = some rec) (hd : deregisterable rec.lifecycle = true)
      (hb : Release s rec backends false) (hs : s' = failed s r rec backends)
      (hrec : rec' = { rec with lifecycle := .failed })

theorem opStep_origin {s s' : Rdmabuffer β} {op : Op β} (hs : OpStep s op s') {r : RegistrationId}
    {rec' : RegistrationRecord} (hr' : s'.registrations.lookup r = some rec') (hu : rec'.Usable) :
    Origin s op s' r rec' := by
  cases hs with
  | atomic op s' he =>
    obtain ⟨rec, h⟩ := effect_leftOf he hr' hu
    exact .left rec h
  | registerRefused | deregisterRefused | registerFailed => exact .left rec' (.self hr' (fun _ h => h) fun h => h)
  | registered descriptor backend domain env b b' bo bout hv he ho hok =>
    rw [registerCommit_lookup] at hr'
    split at hr'
    · rename_i hid
      exact .registered descriptor backend domain env b b' bo bout rfl hv he ho rfl hid (Option.some.inj hr').symm hok
    · exact .left rec' (.self hr' (fun _ h => h) fun h => h)
  | deregistered k rec backends hr hn hd hb =>
    rw [removed_lookup] at hr'
    split at hr'
    · cases hr'
    · exact .left rec' (.self hr' (fun _ h => h) fun h => h)
  | deregisterFailed k rec backends hr hn hd hb =>
    rw [failed_lookup] at hr'
    split at hr'
    · rename_i hk
      subst hk
      exact .failed rec backends rfl hr hd hb rfl (Option.some.inj hr').symm
    · exact .left rec' (.self hr' (fun _ h => h) fun h => h)

end RdmaBuffer
