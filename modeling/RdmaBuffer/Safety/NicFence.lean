/-
The NIC generation. A synthetic backend counts its NIC rollovers and nothing reads the count, so a rollover fences no
key: a registration is closed to access after it exactly if it was closed before.
-/
import RdmaBuffer.Registry.Access
import RdmaBuffer.Runtime.Apart
import RdmaBuffer.Runtime.Execution

namespace RdmaBuffer

open Rdmabuffer Backend

/-! ## The generations of the backends -/

/-- The step takes the generation of a backend back: the counter turned round. -/
def wrapsGeneration (σ : System Backend) : Option (Action Backend) → Bool
  | some (.atomic (.control id c)) =>
    (σ.runtime.backends.lookup id).any fun b =>
      (IBackend.generation (Backend.control c b)).value < (IBackend.generation b).value
  | _ => false

/-- A step in which no backend runs out of handles and no backend generation turns round. -/
def Regulated (x : Lts.Transition (System Backend) (Option (Action Backend))) : Prop :=
  Bounded x.pre.runtime ∧ Bounded x.post.runtime ∧ wrapsGeneration x.pre x.label = false

instance : DecidablePred Regulated := fun x =>
  inferInstanceAs (Decidable (Bounded x.pre.runtime ∧ Bounded x.post.runtime ∧ wrapsGeneration x.pre x.label = false))

theorem Regulated.bounded {t : List (Lts.Transition (System Backend) (Option (Action Backend)))}
    (h : ∀ x ∈ t, Regulated x) : ∀ x ∈ t, Bounded x.pre.runtime ∧ Bounded x.post.runtime :=
  fun x hx => ⟨(h x hx).1, (h x hx).2.1⟩

/-- Every backend stays attached, at the generation it had or a later one. -/
def Grows (m m' : Table BackendId Backend) : Prop :=
  ∀ id b, m.lookup id = some b → ∃ b', m'.lookup id = some b' ∧
    (IBackend.generation b).value.toNat ≤ (IBackend.generation b').value.toNat

theorem Grows.of_lookup {m m' : Table BackendId Backend} (h : ∀ id, m'.lookup id = m.lookup id) : Grows m m' :=
  fun id b hb => ⟨b, (h id).trans hb, le_refl _⟩

theorem Grows.put {m : Table BackendId Backend} {k : BackendId} {b b' : Backend} (hk : m.lookup k = some b)
    (h : (IBackend.generation b).value.toNat ≤ (IBackend.generation b').value.toNat) : Grows m (Table.put k b' m) := by
  intro id b₀ hb₀
  rw [Table.lookup_put]
  split
  · rename_i hid
    obtain rfl := Option.some.inj (hk.symm.trans (hid ▸ hb₀))
    exact ⟨b', rfl, h⟩
  · exact ⟨b₀, hb₀, le_refl _⟩

theorem Grows.put_same {m : Table BackendId Backend} {k : BackendId} {b b' : Backend} (hk : m.lookup k = some b)
    (h : IBackend.generation b' = IBackend.generation b) : Grows m (Table.put k b' m) :=
  .put hk (by rw [h])

theorem effect_grows {σ : System Backend} {s' : Rdmabuffer Backend} {op : AtomicOp Backend}
    (he : Effect σ.runtime op s') (hw : wrapsGeneration σ (some (.atomic op)) = false) :
    Grows σ.runtime.backends s'.backends := by
  cases he with
  | attached spec b hb h =>
    intro id b₀ hb₀
    rw [Table.lookup_put, if_neg (by rintro rfl; rw [h] at hb₀; cases hb₀)]
    exact ⟨b₀, hb₀, le_refl _⟩
  | controlled id c b h =>
    refine .put h ?_
    show _ ≤ (IBackend.generation (Backend.control c b)).value.toNat
    simpa [wrapsGeneration, h, UInt64.le_iff_toNat_le] using hw
  | queried request rec b acct hr h => exact .put_same h (by rw [queryRemoteAccess_fst])
  | rotated r rec b h hl hb hh => exact .put_same hb (rotateKey_spec b _ _).1.generation
  | recovered bytes state hp => exact .of_lookup fun id => by rw [(restore_spec σ.runtime state).backends]
  | _ => exact .of_lookup fun _ => rfl

theorem grows_step {σ σ' : System Backend} {l : Option (Action Backend)} (h : (interleaved Backend).step σ l σ')
    (hw : wrapsGeneration σ l = false) : Grows σ.runtime.backends σ'.runtime.backends := by
  cases l with
  | none => exact .of_lookup fun id => (Table.lookup_perm h.1.backends id).symm
  | some a =>
    obtain rfl : σ' = σ.exec a := h
    generalize σ.exec a = σ', σ.exec_cases a = hs
    cases hs with
    | idle | begun | vanished | committed | deregisterBegun | deregisterSkipped => exact .of_lookup fun _ => rfl
    | atomic op s he => exact effect_grows he hw
    | called c p b b' bo bout hc hbk he =>
      rcases registerBuffer_spec he with ⟨-, rfl⟩ | ⟨-, hr⟩
      · exact .put_same hbk rfl
      · exact .put_same hbk hr.generation
    | deregisterCalled c d b b' bo hc hv hbk he => exact .put_same hbk (deregisterBuffer_spec he).1.generation
    | deregisterFinished c d refusal hc =>
      exact .of_lookup fun id => congrArg (AList.lookup id) (deregisterFinish_backends σ.runtime d refusal)

/-- The backend of the record is attached, and its generation has reached the one that was recorded. -/
def Reached (m : Table BackendId Backend) (rec : RegistrationRecord) : Prop :=
  ∃ b, m.lookup rec.backend = some b ∧ rec.backendGeneration.value.toNat ≤ (IBackend.generation b).value.toNat

theorem Reached.grows {m m' : Table BackendId Backend} {rec : RegistrationRecord} (h : Reached m rec)
    (hg : Grows m m') : Reached m' rec := by
  obtain ⟨b, hb, hle⟩ := h
  obtain ⟨b', hb', hle'⟩ := hg _ b hb
  exact ⟨b', hb', hle.trans hle'⟩

/-- A VALID record has a lifecycle the access check passes, and like every registration in flight it was recorded under
a generation its backend has reached. -/
structure ValidRecords (σ : System Backend) : Prop where
  reached : ∀ r rec, σ.runtime.registrations.lookup r = some rec → rec.freshness = .valid →
    Reached σ.runtime.backends rec
  pending : ∀ c p, σ.HasPending c p → Reached σ.runtime.backends p.record
  passes : ∀ r rec, σ.runtime.registrations.lookup r = some rec → rec.freshness = .valid →
    rec.lifecycle ≠ .revoked ∧ rec.lifecycle ≠ .deregistered ∧ rec.lifecycle ≠ .stale ∧ rec.lifecycle ≠ .revoking

theorem validRecords_step {σ σ' : System Backend} {l : Option (Action Backend)}
    (h : (interleaved Backend).step σ l σ') (hw : wrapsGeneration σ l = false) (hi : ValidRecords σ) :
    ValidRecords σ' := by
  have hg := grows_step h hw
  -- where a VALID record comes from
  have horigin : ∀ r rec', σ'.runtime.registrations.lookup r = some rec' → rec'.freshness = .valid →
      Reached σ'.runtime.backends rec' ∧ rec'.lifecycle ≠ .revoked ∧ rec'.lifecycle ≠ .deregistered ∧
        rec'.lifecycle ≠ .stale ∧ rec'.lifecycle ≠ .revoking := by
    intro r rec' hr' hv
    have hs := recordStep h r
    rw [hr'] at hs
    generalize ho : σ.runtime.registrations.lookup r = o at hs
    cases hs with
    | keep => exact ⟨(hi.reached r rec' ho hv).grows hg, hi.passes r rec' ho hv⟩
    | leases rec n => exact ⟨(hi.reached r rec ho hv).grows hg, hi.passes r rec ho hv⟩
    | destroyed | reallocated | hardRevoked | softRevoked | recovered => cases hv
    | rotated rec hl hlive => exact ⟨(hi.reached r rec ho hv).grows hg, hi.passes r rec ho hv⟩
    | committed c p bout o hl hc hid =>
      exact ⟨(hi.pending c p (.inr ⟨bout, hc⟩)).grows hg, by simp [commitRecord]⟩
    | deregistering c rec hl hc hd hn => exact ⟨(hi.reached r rec ho hv).grows hg, by simp⟩
    | failed c d bo rec hl hc hid => exact ⟨(hi.reached r rec ho hv).grows hg, by simp⟩
  refine ⟨fun r rec' hr' hv => (horigin r rec' hr' hv).1, fun c p hp => ?_,
    fun r rec' hr' hv => (horigin r rec' hr' hv).2⟩
  rcases hasPending_step h hp with hold | ⟨descriptor, backend, domain, env, b, -, hv, rfl⟩
  · exact (hi.pending c p hold).grows hg
  · have hbegun : Reached σ.runtime.backends (pending σ.runtime b descriptor backend domain env).record :=
      ⟨b, hv.backend, le_refl _⟩
    exact hbegun.grows hg

theorem validRecords_run {t : List (Lts.Transition (System Backend) (Option (Action Backend)))} {σ : System Backend}
    (h : (interleaved Backend).Run t σ) (hc : ∀ x ∈ t, Regulated x) : ValidRecords σ := by
  refine h.inv_of (I := ValidRecords) (C := Regulated) ?_ (fun _ _ _ hs hc hi => validRecords_step hs hc.2.2 hi) hc
  rintro _ rfl
  refine ⟨fun r rec hr => ?_, ?_, fun r rec hr => ?_⟩
  · cases hr
  · rintro c p (hp | ⟨bout, hp⟩) <;> cases hp
  · cases hr

/-! ## Registrations that can be served -/

/-- The facts under which some remote operation can still be allowed under the key of the registration: what may come
back by itself, the authority and the capabilities of the backend, is left out. -/
structure Service (s : Rdmabuffer Backend) (r : RegistrationId) (rec : RegistrationRecord) (b : Backend) (e : LiveEntry)
    (kind : OperationKind) : Prop where
  registration : s.registrations.lookup r = some rec
  valid : rec.freshness = .valid
  unrevoked : rec.remoteKey.revoked = false
  backend : s.backends.lookup rec.backend = some b
  generation : IBackend.generation b = rec.backendGeneration
  entry : b.live rec.backendHandle = some e
  revalidated : e.revalidateRequired = false
  key : e.keyGeneration = rec.remoteKey.keyGeneration
  granted : accessHas rec.grantedAccess (intrinsicRight kind) = true
  permitted : accessHas e.granted (intrinsicRight kind) = true

def serviceable (s : Rdmabuffer Backend) (r : RegistrationId) : Bool :=
  (s.registrations.lookup r).any fun rec =>
    rec.freshness == .valid && !rec.remoteKey.revoked &&
      (s.backends.lookup rec.backend).any fun b =>
        IBackend.generation b == rec.backendGeneration &&
          (b.live rec.backendHandle).any fun e =>
            !e.revalidateRequired && e.keyGeneration == rec.remoteKey.keyGeneration &&
              [OperationKind.write, .read, .atomicCompareSwap].any fun kind =>
                accessHas rec.grantedAccess (intrinsicRight kind) && accessHas e.granted (intrinsicRight kind)

theorem serviceable_iff {s : Rdmabuffer Backend} {r : RegistrationId} :
    serviceable s r = true ↔ ∃ rec b e kind, Service s r rec b e kind := by
  unfold serviceable
  simp only [Option.any_eq_true, Bool.and_eq_true, Bool.not_eq_true', beq_iff_eq, List.any_eq_true]
  constructor
  · rintro ⟨rec, hr, ⟨hv, hu⟩, b, hb, hg, e, he, ⟨hre, hk⟩, kind, -, hgr, hpe⟩
    exact ⟨rec, b, e, kind, hr, hv, hu, hb, hg, he, hre, hk, hgr, hpe⟩
  · rintro ⟨rec, b, e, kind, h⟩
    refine ⟨rec, h.registration, ⟨h.valid, h.unrevoked⟩, b, h.backend, h.generation, e, h.entry,
      ⟨h.revalidated, h.key⟩, kind, by cases kind <;> simp, h.granted, h.permitted⟩

/-- What is allowed can be served. -/
theorem serviceable_of_allow {s : Rdmabuffer Backend} {q : RemoteAccessRequest}
    (h : (s.validateRemoteAccess q).2.outcome = .allow) : serviceable s q.sourceRegistration = true := by
  obtain ⟨rec, b, ha⟩ := (allow_iff _ _).1 h
  obtain ⟨e, he, hp⟩ := (queryRemoteAccess_allow _ _ _ _ _ _).1 ha.confirmed
  refine serviceable_iff.2 ⟨rec, b, e, q.kind, ha.registration, ha.freshness, ha.unrevoked, ha.backend,
    ha.backendGeneration, he, hp.revalidated, hp.key.symm, ha.intrinsic, hp.granted⟩

/-- The step gives the registration a new key: it rotates its key or commits a registration under its id. -/
def renews (σ : System Backend) (r : RegistrationId) : Option (Action Backend) → Bool
  | some (.atomic (.rotateKey r')) =>
    r' == r && (σ.runtime.registrations.lookup r).any fun rec => rec.lifecycle.isLive
  | some (.registerCommit c) =>
    match σ.clients c with
    | some (.registered p _) => p.record.id == r
    | _ => false
  | _ => false

/-- A VALID record that no step renewed differs from what it was in its lifecycle and its leases at most. -/
theorem valid_origin {σ σ' : System Backend} {l : Option (Action Backend)} (h : (interleaved Backend).step σ l σ')
    {r : RegistrationId} (hn : renews σ r l = false) {rec' : RegistrationRecord}
    (hr' : σ'.runtime.registrations.lookup r = some rec') (hv : rec'.freshness = .valid) :
    ∃ rec lc n, σ.runtime.registrations.lookup r = some rec ∧ rec' = { rec with lifecycle := lc, leaseCount := n } := by
  have hs := recordStep h r
  rw [hr'] at hs
  generalize ho : σ.runtime.registrations.lookup r = o at hs
  cases hs with
  | keep => exact ⟨rec', _, _, rfl, rfl⟩
  | leases rec n => exact ⟨rec, _, n, rfl, rfl⟩
  | destroyed | reallocated | hardRevoked | softRevoked | recovered => cases hv
  | rotated rec hl hlive =>
    subst hl
    simp [renews, ho, hlive] at hn
  | committed c p bout o hl hc hid =>
    subst hl
    simp [renews, hc, hid] at hn
  | deregistering c rec => exact ⟨rec, _, _, rfl, rfl⟩
  | failed c d bo rec => exact ⟨rec, _, _, rfl, rfl⟩

/-- No step but a renewal makes a registration serviceable. -/
theorem serviceable_step {σ σ' : System Backend} {l : Option (Action Backend)}
    (h : (interleaved Backend).step σ l σ') (hreg : Regulated ⟨σ, l, σ'⟩) (hi : Apart σ) (hvr : ValidRecords σ)
    {r : RegistrationId} (hn : renews σ r l = false) (hs : serviceable σ'.runtime r = true) :
    serviceable σ.runtime r = true := by
  obtain ⟨rec', b', e, kind, hs⟩ := serviceable_iff.1 hs
  obtain ⟨rec, lc, n, hr, rfl⟩ := valid_origin h hn hs.registration hs.valid
  -- the generation of the backend has not moved on
  obtain ⟨b, hb, hle⟩ := hvr.reached r rec hr hs.valid
  obtain ⟨b₁, hb₁, hgrow⟩ := grows_step h hreg.2.2 _ b hb
  obtain rfl := Option.some.inj (hb₁.symm.trans hs.backend)
  have hg : IBackend.generation b = rec.backendGeneration := by
    have hlater : (IBackend.generation b₁).value.toNat = rec.backendGeneration.value.toNat :=
      congrArg (fun g => g.value.toNat) hs.generation
    rw [← StrongGeneration.value_inj, ← UInt64.toNat_inj]
    omega
  -- its entry was not written to
  obtain ⟨touched, ht, hf⟩ := (backendStep h hreg.1 hreg.2.1).fades
  have hne : touched ≠ some (rec.backend, rec.backendHandle) := by
    refine ht.ne hi hr fun hlive hl => ?_
    subst hl
    simp [renews, hr, hlive] at hn
  have hentry := hf.current hne (entryAt_eq_some.2 ⟨b₁, hb₁, hs.entry⟩) hs.revalidated
  obtain ⟨b₀, hb₀, he⟩ := entryAt_eq_some.1 hentry
  obtain rfl := Option.some.inj (hb.symm.trans hb₀)
  exact serviceable_iff.2 ⟨rec, b, e, kind, hr, hs.valid, hs.unrevoked, hb, hg, he, hs.revalidated, hs.key, hs.granted,
    hs.permitted⟩

/-! ## The fence -/

/-- Whatever comes after the state, no request on the registration is allowed until it is renewed. -/
def KeyFenced (r : RegistrationId) (σ : System Backend) : Prop :=
  ∀ t σ', (interleaved Backend).Path σ t σ' → (∀ x ∈ t, Regulated x) → (∀ x ∈ t, renews x.pre r x.label = false) →
    ∀ q : RemoteAccessRequest, q.sourceRegistration = r → (σ'.runtime.validateRemoteAccess q).2.outcome ≠ .allow

theorem fenced_of_closed {σ : System Backend} (hn : Named σ) (hi : Apart σ) (hv : ValidRecords σ) {r : RegistrationId}
    (hc : serviceable σ.runtime r = false) : KeyFenced r σ := by
  intro t σ' hp hreg hrenews q hq hallow
  have hall : Named σ' ∧ Apart σ' ∧ ValidRecords σ' ∧ serviceable σ'.runtime r = false := by
    refine hp.inv_of (I := fun σ => Named σ ∧ Apart σ ∧ ValidRecords σ ∧ serviceable σ.runtime r = false)
      (C := fun x => Regulated x ∧ renews x.pre r x.label = false) ?_ (fun x hx => ⟨hreg x hx, hrenews x hx⟩)
      ⟨hn, hi, hv, hc⟩
    rintro σ l σ' hs ⟨hreg, hrenews⟩ ⟨hn, hi, hv, hc⟩
    refine ⟨named_step hs hn, apart_step hs hreg.1 hreg.2.1 hn hi, validRecords_step hs hreg.2.2 hv, ?_⟩
    by_contra hopen
    rw [serviceable_step hs hreg hi hv hrenews (by simpa using hopen)] at hc
    cases hc
  have hopen := serviceable_of_allow hallow
  rw [hq, hall.2.2.2] at hopen
  cases hopen

/-! ## What a rollover leaves open -/

/-- The requests on a registration that can be served are served where the backend supports the operation. -/
theorem Service.allows {s : Rdmabuffer Backend} {r : RegistrationId} {rec : RegistrationRecord} {b : Backend}
    {e : LiveEntry} {kind : OperationKind} (h : Service s r rec b e kind)
    (hl : rec.lifecycle ≠ .revoked ∧ rec.lifecycle ≠ .deregistered ∧ rec.lifecycle ≠ .stale ∧
      rec.lifecycle ≠ .revoking)
    (hu : e.revoked = false) (hs : b.supports kind = true) {env : AuthorityEnvelope} (ha : Authorized s.authority env) :
    (s.validateRemoteAccess { sourceRegistration := r, kind := kind, authority := env }).2.outcome = .allow := by
  have hconfirmed : (IBackend.queryRemoteAccess b ⟨rec.memoryRegionId, rec.backendHandle⟩ (backDummyRemoteKey rec)
      kind 0 0).2.1 = .allow := by
    refine (queryRemoteAccess_allow _ _ _ _ _ _).2 ⟨e, h.entry, ?_⟩
    exact ⟨h.revalidated, hu, h.key.symm, by simp, h.permitted, hs⟩
  refine (allow_iff _ _).2 ⟨rec, b, ?_⟩
  exact
    { registration := h.registration, lifecycle := hl, freshness := h.valid, authority := ha
      registrationGeneration := nofun, bufferGeneration := nofun, keyGeneration := nofun, unrevoked := h.unrevoked
      backendNamed := nofun, backend := h.backend, backendGeneration := h.generation, transport := nofun
      domain := nofun, rights := by simp [accessSuperset], intrinsic := h.granted
      atomic := fun _ hm => by simp [accessHas] at hm
      range := rangeInside_iff.2 (by simp), confirmed := hconfirmed }

/-- The control leaves the generation and the live entries of the backend alone. -/
def Backend.Control.Idle (c : Backend.Control) (b : Backend) : Prop :=
  Kept b (Backend.control c b) ∧ (Backend.control c b).live = b.live

/-- `rollover_nic_generation`. -/
def rolloverNic : Backend.Control := .synthetic .rolloverNicGeneration

theorem rolloverNic_idle (b : Backend) : rolloverNic.Idle b := by
  cases b with
  | synthetic b => exact ⟨⟨rfl, rfl, rfl⟩, rfl⟩
  | reference b => exact ⟨.refl _, rfl⟩

/-- The control that lets the synthetic backend serve operations of the kind. -/
def enabling : OperationKind → Backend.Control
  | .write => .synthetic (.configureRemoteWrite true)
  | .read => .synthetic (.configureRemoteRead true)
  | .atomicCompareSwap => .synthetic (.configureAtomicSupport true)

theorem enabling_idle (kind : OperationKind) (b : Backend) : (enabling kind).Idle b :=
  control_configures (by cases kind <;> trivial) b

theorem enabling_supports (kind : OperationKind) (b : SyntheticBackend) :
    (Backend.control (enabling kind) (.synthetic b)).supports kind = true := by
  cases kind <;> rfl

theorem Service.control {s : Rdmabuffer Backend} {r : RegistrationId} {rec : RegistrationRecord} {b : Backend}
    {e : LiveEntry} {kind : OperationKind} (h : Service s r rec b e kind) {c : Backend.Control} (hc : c.Idle b) :
    Service (s.control rec.backend c) r rec (Backend.control c b) e kind := by
  have he : s.control rec.backend c =
      { s with backends := Table.put rec.backend (Backend.control c b) s.backends } := by
    unfold Rdmabuffer.control
    rw [h.backend]
    rfl
  rw [he]
  exact
    { h with
      backend := Table.lookup_put_self _ _ _
      generation := hc.1.generation.trans h.generation
      entry := (congrFun hc.2 _).trans h.entry }

theorem inBounds_control {b : Backend} (h : b.InBounds) (c : Backend.Control) : (Backend.control c b).InBounds := by
  cases b with
  | synthetic b =>
    cases c with
    | advanceBackendGeneration => exact h
    | synthetic c => cases c <;> exact h
  | reference b => cases c <;> exact h

theorem bounded_control {s : Rdmabuffer Backend} (h : Bounded s) (id : BackendId) (c : Backend.Control) :
    Bounded (s.control id c) := by
  unfold Rdmabuffer.control
  split
  · exact h
  · rename_i b hb
    rintro ⟨k, b'⟩ he
    have hl := Table.mem_entries.1 he
    rcases Table.lookup_put_some hl with ⟨-, rfl⟩ | ⟨-, hl⟩
    · exact inBounds_control (h.lookup hb) c
    · exact h.lookup hl

theorem regulated_control {σ : System Backend} (h : Bounded σ.runtime) (id : BackendId) {c : Backend.Control}
    (hc : ∀ b, σ.runtime.backends.lookup id = some b → c.Idle b) :
    Regulated ⟨σ, some (.atomic (.control id c)), σ.exec (.atomic (.control id c))⟩ := by
  refine ⟨h, bounded_control h id c, ?_⟩
  show ((σ.runtime.backends.lookup id).any fun b =>
    (IBackend.generation (Backend.control c b)).value < (IBackend.generation b).value) = false
  rcases hb : σ.runtime.backends.lookup id with _ | b
  · rfl
  · simp [(hc b hb).1.generation]

/-- A request on a registration that can be served is allowed once the authority and the capabilities allow it. -/
theorem Service.not_fenced {σ : System Backend} (hb : Bounded σ.runtime) {r : RegistrationId} {rec : RegistrationRecord}
    {b : SyntheticBackend} {e : LiveEntry} {kind : OperationKind} (h : Service σ.runtime r rec (.synthetic b) e kind)
    (hl : rec.lifecycle ≠ .revoked ∧ rec.lifecycle ≠ .deregistered ∧ rec.lifecycle ≠ .stale ∧
      rec.lifecycle ≠ .revoking)
    (hu : e.revoked = false) : ¬KeyFenced r σ := by
  have hcurrent : Service (σ.runtime.setAuthority Session.snapshot) r rec (.synthetic b) e kind := { h with }
  have henabled := hcurrent.control (enabling_idle kind _)
  have hauthorized : Authorized Session.snapshot Session.envelope := by decide
  have hpath : (interleaved Backend).Path σ _ _ :=
    (Lts.Path.single (l := some (.atomic (.setAuthority Session.snapshot))) rfl).snoc
      (l := some (.atomic (.control rec.backend (enabling kind)))) rfl
  intro hf
  refine hf _ _ hpath ?_ ?_ { sourceRegistration := r, kind := kind, authority := Session.envelope } rfl ?_
  · intro x hx
    rcases List.mem_append.1 hx with hx | hx
    · obtain rfl := List.mem_singleton.1 hx
      exact ⟨hb, hb, rfl⟩
    · obtain rfl := List.mem_singleton.1 hx
      have hb₁ : Bounded (σ.exec (.atomic (.setAuthority Session.snapshot))).runtime := hb
      exact regulated_control hb₁ _ fun b _ => enabling_idle kind b
  · intro x hx
    rcases List.mem_append.1 hx with hx | hx
    · obtain rfl := List.mem_singleton.1 hx
      rfl
    · obtain rfl := List.mem_singleton.1 hx
      rfl
  · refine henabled.allows hl hu (enabling_supports kind b) ?_
    unfold Rdmabuffer.control
    rw [hcurrent.backend]
    exact hauthorized

/-- A rollover of the NIC generation fences a registration exactly if it was closed before: gone, not VALID, revoked,
of an earlier generation of its backend, without an entry under its key, or without a right. -/
theorem nic_rollover_fences_iff (t : List (Lts.Transition (System Backend) (Option (Action Backend))))
    (σ : System Backend) (h : (interleaved Backend).Run t σ) (hreg : ∀ x ∈ t, Regulated x) (id : BackendId)
    (b : SyntheticBackend) (hid : σ.runtime.backends.lookup id = some (.synthetic b)) (r : RegistrationId)
    (hr : ∀ rec, σ.runtime.registrations.lookup r = some rec → rec.backend = id) :
    KeyFenced r (σ.exec (.atomic (.control id rolloverNic))) ↔
      serviceable σ.runtime r = false := by
  have hb := Regulated.bounded hreg
  obtain ⟨hn, hi⟩ := apart_run h hb
  obtain ⟨-, hh⟩ := handled_run h hb
  have hv := validRecords_run h hreg
  have hbounded : Bounded σ.runtime := by
    rcases h.last with rfl | ⟨x, hx, rfl⟩
    · rintro e he
      cases he
    · exact (hb x hx).2
  have hstep : (interleaved Backend).step σ (some (.atomic (.control id rolloverNic)))
      (σ.exec (.atomic (.control id rolloverNic))) := rfl
  have hroll := regulated_control hbounded id fun b _ => rolloverNic_idle b
  constructor
  · intro hf
    by_contra hopen
    obtain ⟨rec, b₀, e, kind, hs⟩ := serviceable_iff.1 (by simpa using hopen : serviceable σ.runtime r = true)
    obtain rfl := hr rec hs.registration
    obtain rfl := Option.some.inj (hs.backend.symm.trans hid)
    have hu := hh.unrevoked (rec.backend, rec.backendHandle) e (entryAt_eq_some.2 ⟨_, hs.backend, hs.entry⟩)
    have hrolled := hs.control (rolloverNic_idle (.synthetic b))
    exact Service.not_fenced hroll.2.1 hrolled (hv.passes r rec hs.registration hs.valid) hu hf
  · intro hc
    refine fenced_of_closed (named_step hstep hn) (apart_step hstep hroll.1 hroll.2.1 hn hi)
      (validRecords_step hstep hroll.2.2 hv) ?_
    by_contra hopen
    rw [serviceable_step hstep hroll hi hv rfl (by simpa using hopen)] at hc
    cases hc

open Session

/-- The transport generation rolls over before the NIC generation does. -/
def rolledOver : List (Action Backend) :=
  registration 0 page ++ [.atomic (.control Session.synthetic (.synthetic .rolloverTransportGeneration))]

theorem nic_rollover_fences_iff_transport : ∃ t, (interleaved Backend).Run t (after rolledOver) ∧ t.length = 8 ∧
    KeyFenced ⟨1⟩ ((after rolledOver).exec (.atomic (.control Session.synthetic rolloverNic))) := by
  have hr : (interleaved Backend).Run _ (after rolledOver) := ⟨{}, rfl, System.path_run _ _⟩
  obtain ⟨b, hb⟩ : ∃ b, (after rolledOver).runtime.backends.lookup Session.synthetic = some (.synthetic b) := ⟨_, rfl⟩
  refine ⟨_, hr, rfl, ?_⟩
  refine (nic_rollover_fences_iff _ _ hr (by decide +kernel) Session.synthetic b hb ⟨1⟩ ?_).2 (by decide +kernel)
  rintro rec hrec
  obtain rfl := Option.some.inj hrec.symm
  rfl

/-- A write on the page is allowed after the NIC generation rolled over. -/
theorem key_survives_nic_rollover : ∃ t, (interleaved Backend).Run t (after (registration 0 page)) ∧
    ¬KeyFenced ⟨1⟩ ((after (registration 0 page)).exec (.atomic (.control Session.synthetic rolloverNic))) ∧
    (((after (registration 0 page)).exec (.atomic (.control Session.synthetic
      rolloverNic))).runtime.validateRemoteAccess (write ⟨1⟩)).2.outcome = .allow := by
  have hallow : (((after (registration 0 page)).exec (.atomic (.control Session.synthetic
      rolloverNic))).runtime.validateRemoteAccess (write ⟨1⟩)).2.outcome = .allow := by
    decide +kernel
  refine ⟨_, ⟨{}, rfl, System.path_run _ _⟩, ?_, hallow⟩
  intro hf
  exact hf [] _ .nil (fun x hx => by cases hx) (fun x hx => by cases hx) (write ⟨1⟩) rfl hallow

end RdmaBuffer
