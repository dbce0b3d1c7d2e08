/-
Reuse and leases against the access check. A registration that may be reused or leased passes the access check exactly
if its backend is at the generation the record has, and still holds an entry for it that awaits no revalidation; only
the access check looks at either.
-/
import RdmaBuffer.Registry.Access
import RdmaBuffer.Runtime.Extents

namespace RdmaBuffer

open Rdmabuffer Backend

/-! ## When a registration may be reused or leased -/

/-- A call finds the registration usable for the rights, under the envelope: a reuse hits it, or a lease of it is
acquired. The second state is the one after the call. -/
inductive FoundUsable (s : Rdmabuffer Backend) (r : RegistrationId) (env : AuthorityEnvelope) :
    AccessMask → Rdmabuffer Backend → Prop
  | reused (descriptor : BufferDescriptor) (backend : BackendId) (domain : ProtectionDomainId)
      (h : (s.registerBufferReuse descriptor backend domain env).2.reuse = .reuseHit)
      (hr : (s.registerBufferReuse descriptor backend domain env).2.registration = r) :
      FoundUsable s r env descriptor.requestedAccess (s.registerBufferReuse descriptor backend domain env).1
  | leased (needed : AccessMask) (h : (s.acquireLease r env needed).2.ok = true) :
      FoundUsable s r env needed (s.acquireLease r env needed).1

/-! ## What the access check sees of it -/

/-- The state shows the access check the record, the authority and the backends of another. -/
structure Shows (s u : Rdmabuffer Backend) (r : RegistrationId) (rec : RegistrationRecord) : Prop where
  authority : u.authority = s.authority
  backends : u.backends = s.backends
  record : ∃ n, u.registrations.lookup r = some { rec with leaseCount := n }

/-- What a call that finds the registration usable has seen. -/
structure Seen (s : Rdmabuffer Backend) (r : RegistrationId) (env : AuthorityEnvelope) (asked : AccessMask)
    (s' : Rdmabuffer Backend) (rec : RegistrationRecord) : Prop where
  registration : s.registrations.lookup r = some rec
  authority : Authorized s.authority env
  live : rec.lifecycle.isLive = true
  valid : rec.freshness = .valid
  rights : accessSuperset rec.grantedAccess asked = true
  after : Shows s s' r rec

theorem FoundUsable.seen {s s' : Rdmabuffer Backend} {r : RegistrationId} {env : AuthorityEnvelope}
    {asked : AccessMask} (h : FoundUsable s r env asked s')
    (hid : ∀ k rec, s.registrations.lookup k = some rec → rec.lifecycle.isLive = true → LiveRecord k rec) :
    ∃ rec, Seen s r env asked s' rec := by
  cases h with
  | reused descriptor backend domain h hr =>
    obtain ⟨ha, k, cand, hk, hc, hreg, acct, hs⟩ := registerBufferReuse_hit (.inr h)
    obtain rfl : k = r := (hid k cand hk hc.live).id.symm.trans (hreg.symm.trans hr)
    exact ⟨cand, hk, ha, hc.live, hc.valid, hc.rights, by rw [hs], by rw [hs], cand.leaseCount, by rw [hs]; exact hk⟩
  | leased _ h =>
    obtain ⟨ha, rec, hr, hl, hv, hrights, hauth, hback, hregs⟩ := acquireLease_granted h
    refine ⟨rec, hr, ha, hl, hv, hrights, hauth, hback, rec.leaseCount + 1, ?_⟩
    rw [hregs]
    exact Table.lookup_put_self _ _ _

/-- What the backend reports of remote operations of the kind. -/
def BackendCapabilities.remote (c : BackendCapabilities) : OperationKind → CapabilityState
  | .write => c.remoteWrite
  | .read => c.remoteRead
  | .atomicCompareSwap => c.remoteAtomic

/-- A backend serves the kinds that it reports as supported. -/
theorem supports_of_capability {b : Backend} {kind : OperationKind}
    (h : capabilityAllows ((IBackend.capabilities b).remote kind) = true) : b.supports kind = true := by
  have hcapability : ∀ s : Bool, capabilityAllows (SyntheticBackend.capability s) = true → s = true := by decide
  cases b with
  | synthetic b => cases kind <;> exact hcapability _ h
  | reference b =>
    cases kind with
    | atomicCompareSwap => cases h
    | _ => rfl

/-- A request with the same envelope, no expected generation and no transport, the backend and the domain of the
record, rights that were asked for, a kind among them that the backend supports, and an extent in range. -/
structure RequestFor (s : Rdmabuffer Backend) (r : RegistrationId) (rec : RegistrationRecord) (env : AuthorityEnvelope)
    (asked : AccessMask) (q : RemoteAccessRequest) : Prop where
  registration : q.sourceRegistration = r
  authority : q.authority = env
  registrationGeneration : q.expectedRegistrationGeneration = {}
  bufferGeneration : q.expectedBufferGeneration = {}
  keyGeneration : q.expectedRemoteKeyGeneration = {}
  transport : q.transport = {}
  backend : q.backend = rec.backend
  domain : q.domain = rec.domainId
  rights : accessSuperset asked q.requiredRights = true
  intrinsic : accessHas asked (intrinsicRight q.kind) = true
  supported : ∃ b, s.backends.lookup rec.backend = some b ∧
    capabilityAllows ((IBackend.capabilities b).remote q.kind) = true
  range : q.offset.toNat + q.length.toNat ≤ rec.length.toNat

/-- The backend of the record is at the generation the record has, and its entry for the record awaits no
revalidation. -/
def backendCurrent (s : Rdmabuffer Backend) (rec : RegistrationRecord) : Bool :=
  (s.backends.lookup rec.backend).any fun b =>
    IBackend.generation b == rec.backendGeneration && (b.live rec.backendHandle).any fun e => !e.revalidateRequired

theorem backendCurrent_iff {s : Rdmabuffer Backend} {rec : RegistrationRecord} :
    backendCurrent s rec = true ↔ ∃ b e, s.backends.lookup rec.backend = some b ∧
      IBackend.generation b = rec.backendGeneration ∧ b.live rec.backendHandle = some e ∧
      e.revalidateRequired = false := by
  unfold backendCurrent
  simp only [Option.any_eq_true, Bool.and_eq_true, beq_iff_eq, Bool.not_eq_true']
  constructor
  · rintro ⟨b, hb, hg, e, he, hv⟩
    exact ⟨b, e, hb, hg, he, hv⟩
  · rintro ⟨b, e, hb, hg, he, hv⟩
    exact ⟨b, hb, hg, e, he, hv⟩

/-! ## The headline -/

theorem live_passes {lc : RegistrationLifecycle} (h : lc.isLive = true) :
    lc ≠ .revoked ∧ lc ≠ .deregistered ∧ lc ≠ .stale ∧ lc ≠ .revoking := by
  cases lc <;> first | (cases h; done) | exact ⟨nofun, nofun, nofun, nofun⟩

section

variable {σ : System Backend} (hh : Handled σ.material σ.runtime.backends) (hx : Extents σ) (hc : Covered σ)
  {r : RegistrationId} {env : AuthorityEnvelope} {asked : AccessMask} {s' : Rdmabuffer Backend}
  {rec : RegistrationRecord} (h : Seen σ.runtime r env asked s' rec) {q : RemoteAccessRequest}
  (hq : RequestFor σ.runtime r rec env asked q)
include hh hx hc h hq

/-- The backend permits the request on an entry that does not await revalidation. -/
theorem Seen.permits {b : Backend} {e : LiveEntry} (hb : σ.runtime.backends.lookup rec.backend = some b)
    (he : b.live rec.backendHandle = some e) (hv : e.revalidateRequired = false) :
    Permits b e rec.remoteKey.keyGeneration q.kind q.offset q.length := by
  have hentry : entryAt σ.runtime.backends (rec.backend, rec.backendHandle) = some e :=
    entryAt_eq_some.2 ⟨b, hb, he⟩
  have hkey := hh.agree (.record r) rec.material e (recordMaterial_eq_some.2 ⟨rec, h.registration, h.live, rfl⟩)
    hentry hv
  have hcovers := hc.record r rec e h.registration h.live hentry
  obtain ⟨b₀, hb₀, hcap⟩ := hq.supported
  obtain rfl := Option.some.inj (hb.symm.trans hb₀)
  refine ⟨hv, hh.unrevoked _ e hentry, hkey.symm, ?_, ?_, supports_of_capability hcap⟩
  · rw [hcovers.length, ← (hx.live r rec h.registration h.live).length]
    exact hq.range
  · rw [hcovers.granted]
    exact accessHas_of_superset h.rights hq.intrinsic

/-- The access check allows the request exactly if the backend is current, whichever of the two states it is made in. -/
theorem Seen.allowed_iff {u : Rdmabuffer Backend} (hu : Shows σ.runtime u r rec) :
    (u.validateRemoteAccess q).2.outcome = .allow ↔ backendCurrent σ.runtime rec = true := by
  obtain ⟨n, hrec⟩ := hu.record
  have hlive := hx.live r rec h.registration h.live
  rw [allow_iff, backendCurrent_iff]
  constructor
  · rintro ⟨rec', b, ha⟩
    have hreg := ha.registration
    rw [hq.registration, hrec] at hreg
    obtain rfl := Option.some.inj hreg
    obtain ⟨e, he, hp⟩ := (queryRemoteAccess_allow _ _ _ _ _ _).1 ha.confirmed
    exact ⟨b, e, hu.backends ▸ ha.backend, ha.backendGeneration, he, hp.revalidated⟩
  · rintro ⟨b, e, hb, hg, he, hv⟩
    have hpermits := h.permits hh hx hc hq hb he hv
    obtain ⟨b₀, hb₀, hcap⟩ := hq.supported
    obtain rfl := Option.some.inj (hb.symm.trans hb₀)
    refine ⟨{ rec with leaseCount := n }, b, ⟨hq.registration ▸ hrec, live_passes h.live, h.valid, ?_, ?_, ?_, ?_,
      hlive.unrevoked, ?_, hu.backends.symm ▸ hb, hg, ?_, ?_, accessSuperset_trans h.rights hq.rights,
      accessHas_of_superset h.rights hq.intrinsic, ?_, ?_, ?_⟩⟩
    · rw [hu.authority, hq.authority]
      exact h.authority
    · exact .of_invalid (by rw [hq.registrationGeneration]; rfl)
    · exact .of_invalid (by rw [hq.bufferGeneration]; rfl)
    · exact .of_invalid (by rw [hq.keyGeneration]; rfl)
    · exact fun _ => hq.backend
    · exact .of_invalid (by rw [hq.transport]; rfl)
    · exact fun _ => hq.domain
    · intro hk _
      rw [hk] at hcap
      exact hcap
    · rw [rangeInside_iff, ← hlive.length]
      exact hq.range
    · exact (queryRemoteAccess_allow _ _ _ _ _ _).2 ⟨e, he, hpermits⟩

end

/-- A registration that is found usable passes the access check exactly if its backend is current. -/
theorem usable_allowed_iff (t : List (Lts.Transition (System Backend) (Option (Action Backend)))) (σ : System Backend)
    (h : (interleaved Backend).Run t σ) (hb : ∀ x ∈ t, Bounded x.pre.runtime ∧ Bounded x.post.runtime)
    (r : RegistrationId) (env : AuthorityEnvelope) (asked : AccessMask) (s' : Rdmabuffer Backend)
    (hf : FoundUsable σ.runtime r env asked s') :
    ∃ rec, σ.runtime.registrations.lookup r = some rec ∧ ∀ q, RequestFor σ.runtime r rec env asked q →
      ((σ.runtime.validateRemoteAccess q).2.outcome = .allow ↔ backendCurrent σ.runtime rec = true) ∧
      ((s'.validateRemoteAccess q).2.outcome = .allow ↔ backendCurrent σ.runtime rec = true) := by
  have hx := extents_run h
  have hh := (handled_run h hb).2
  have hc := covered_run h hb
  obtain ⟨rec, hseen⟩ := hf.seen hx.live
  refine ⟨rec, hseen.registration, fun q hq => ⟨?_, ?_⟩⟩
  · exact hseen.allowed_iff hh hx hc hq ⟨rfl, rfl, rec.leaseCount, hseen.registration⟩
  · exact hseen.allowed_iff hh hx hc hq hseen.after

open Session

/-- The write on the page with its backend and its domain named. -/
def namedWrite : RemoteAccessRequest := { write ⟨1⟩ with backend := Session.synthetic, domain := ⟨1⟩ }

theorem usable_allowed_iff_page : ∃ t rec, (interleaved Backend).Run t (after (registration 0 page)) ∧
    (after (registration 0 page)).runtime.registrations.lookup ⟨1⟩ = some rec ∧
    ∀ q, RequestFor (after (registration 0 page)).runtime ⟨1⟩ rec envelope 0x0C q →
      ((after (registration 0 page)).runtime.validateRemoteAccess q).2.outcome = .allow := by
  have hr : (interleaved Backend).Run _ (after (registration 0 page)) := ⟨{}, rfl, System.path_run _ _⟩
  obtain ⟨rec, hrec, hall⟩ := usable_allowed_iff _ _ hr (by decide +kernel) ⟨1⟩ envelope 0x0C _
    (.leased 0x0C (by decide +kernel))
  refine ⟨_, rec, hr, hrec, fun q hq => (hall q hq).1.2 ?_⟩
  obtain rfl := Option.some.inj hrec.symm
  decide +kernel

/-- The page is registered, and its backend goes on to another generation. -/
def backendRolledOver : List (Action Backend) :=
  registration 0 page ++ [.atomic (.control Session.synthetic (.synthetic .rolloverBackendGeneration))]

/-- The page is a hit, and leased, while every access to it is refused. -/
theorem usable_refused : ∃ t s', (interleaved Backend).Run t (after backendRolledOver) ∧
    FoundUsable (after backendRolledOver).runtime ⟨1⟩ envelope page.requestedAccess s' ∧
    ((after backendRolledOver).runtime.acquireLease ⟨1⟩ envelope 0x0C).2.ok = true ∧
    ∃ rec, (after backendRolledOver).runtime.registrations.lookup ⟨1⟩ = some rec ∧
      RequestFor (after backendRolledOver).runtime ⟨1⟩ rec envelope page.requestedAccess namedWrite ∧
      ((after backendRolledOver).runtime.validateRemoteAccess namedWrite).2.outcome = .rejectBackend ∧
      (s'.validateRemoteAccess namedWrite).2.outcome = .rejectBackend := by
  refine ⟨_, _, ⟨{}, rfl, System.path_run _ _⟩, .reused page Session.synthetic ⟨1⟩ (by decide +kernel)
    (by decide +kernel), by decide +kernel, _, rfl, ?_, by decide +kernel, by decide +kernel⟩
  exact ⟨rfl, rfl, rfl, rfl, rfl, rfl, rfl, rfl, by decide +kernel, by decide +kernel, ⟨_, rfl, by decide +kernel⟩,
    by decide +kernel⟩

end RdmaBuffer
