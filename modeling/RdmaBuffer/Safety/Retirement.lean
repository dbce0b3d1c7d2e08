/-
Retired registrations and superseded keys: after a step that retires a registration nothing is
allowed for it again, and after one that supersedes a key generation nothing that expects it.
-/
import RdmaBuffer.Runtime.Execution
import RdmaBuffer.Runtime.Lifespan

namespace RdmaBuffer

open Rdmabuffer

section

variable {β : Type} [IBackend β] [Environment β]

/-! ## Runs without wrapping counters -/

/-- Every record is stored under its own id. -/
def OwnKeys (s : Rdmabuffer β) : Prop := ∀ r rec, s.registrations.lookup r = some rec → rec.id = r

/-- The step wraps the id counter, or the generation of a live key. -/
def wraps (x : Lts.Transition (System β) (Option (Action β))) : Bool :=
  x.post.runtime.nextRegistration == 0 ||
    match x.label with
    | some (.atomic (.rotateKey r)) =>
      (x.pre.runtime.registrations.lookup r).any fun rec => rec.remoteKey.keyGeneration.next.value == 0
    | _ => false

omit [IBackend β] in
theorem wraps_counter {x : Lts.Transition (System β) (Option (Action β))} (h : wraps x = false) :
    x.post.runtime.nextRegistration ≠ 0 := by
  simp only [wraps, Bool.or_eq_false_iff, beq_eq_false_iff_ne] at h
  exact h.1

theorem ownKeys_step {σ σ' : System β} {l : Option (Action β)} (h : (interleaved β).step σ l σ')
    (hi : OwnKeys σ.runtime) : OwnKeys σ'.runtime := by
  intro r rec' hr'
  have hs := recordStep h r
  rw [hr'] at hs
  generalize ho : σ.runtime.registrations.lookup r = o at hs
  cases hs with
  | keep => exact hi r rec' ho
  | recovered bytes state rec o hl hp hm hid => exact hid
  | committed c p bout o hl hc hid => exact hid
  | leases rec | destroyed d rec | reallocated d rec | hardRevoked rec | softRevoked rec | rotated rec
    | deregistering c rec | failed c d bo rec => exact hi r rec ho

/-- The id is settled, and its record has reached the age `a`. -/
structure Aged (a : WithTop Nat) (r : RegistrationId) (σ : System β) : Prop where
  settled : Settled σ r
  reached : a ≤ life (σ.runtime.registrations.lookup r)

theorem aged_step {σ σ' : System β} {l : Option (Action β)} (h : (interleaved β).step σ l σ')
    (hw : wraps ⟨σ, l, σ'⟩ = false) {a : WithTop Nat} {r : RegistrationId} (ha : Aged a r σ) : Aged a r σ' := by
  refine ⟨settled_step h (wraps_counter hw) ha.settled, ha.reached.trans (life_step h ha.settled ?_)⟩
  rintro rec rfl hr -
  simpa [wraps, hr, StrongGeneration.next] using (Bool.or_eq_false_iff.1 hw).2

omit [Environment β] in
/-- A request that expects a generation the record has grown past is not allowed. -/
theorem Aged.not_allowed {σ : System β} {g : RemoteKeyGeneration} {r : RegistrationId}
    (h : Aged ((g.value.toNat + 1 : Nat) : WithTop Nat) r σ) (hg : g.isValid = true) {q : RemoteAccessRequest}
    (hq : q.sourceRegistration = r) (he : q.expectedRemoteKeyGeneration = g) :
    (σ.runtime.validateRemoteAccess q).2.outcome ≠ .allow := by
  intro hallow
  obtain ⟨rec, b, ha⟩ := (allow_iff _ _).1 hallow
  have hreach := h.reached
  rw [← hq, ha.registration, life_of_valid ha.freshness, ← ha.keyGeneration (he ▸ hg), he] at hreach
  exact absurd (WithTop.coe_le_coe.1 hreach) (Nat.not_succ_le_self _)

/-! ## What retires a registration, and what supersedes a key -/

/-- A commit of the run returned `r` from `register_buffer`. -/
def Returned (t : List (Lts.Transition (System β) (Option (Action β)))) (r : RegistrationId) : Prop :=
  ∃ x ∈ t, ∃ c p bout, x.label = some (.registerCommit c) ∧ x.pre.clients c = some (.registered p bout) ∧
    (x.pre.runtime.registerCommit p bout).2.registration = r

/-- The step puts the record of `r` into the lifecycle `lc`. -/
def Enters (x : Lts.Transition (System β) (Option (Action β))) (r : RegistrationId) (lc : RegistrationLifecycle) :
    Prop :=
  ∃ rec rec', x.pre.runtime.registrations.lookup r = some rec ∧ rec.lifecycle ≠ lc ∧
    x.post.runtime.registrations.lookup r = some rec' ∧ rec'.lifecycle = lc

/-- The steps after which `r` is dead. -/
inductive Retires (x : Lts.Transition (System β) (Option (Action β))) (r : RegistrationId) : Prop
  | revoked (mode : RevocationMode) (hl : x.label = some (.atomic (.revoke r mode)))
      (h : (x.pre.runtime.revoke r mode).2.ok = true)
  | reallocated (descriptor : BufferDescriptor) (hl : x.label = some (.atomic (.createBuffer descriptor)))
      (h : Enters x r .stale)
  | destroyed (d : ProtectionDomainId) (hl : x.label = some (.atomic (.destroyProtectionDomain d)))
      (h : Enters x r .revoked)
  | overwritten (bytes : Bytes) (state : PersistableState) (rec : RegistrationRecord)
      (hl : x.label = some (.atomic (.recover (some bytes)))) (hp : Persistence.parse bytes = .ok state)
      (hm : rec ∈ state.registrations) (hid : rec.id = r)
  | removed (c : Nat) (hl : x.label = some (.deregisterFinish c))
      (h : x.post.runtime.registrations.lookup r = none)

/-- The steps that replace the key generation `g` of `r` by the next. -/
inductive Supersedes (x : Lts.Transition (System β) (Option (Action β))) (r : RegistrationId)
    (g : RemoteKeyGeneration) : Prop
  | rotated (rec : RegistrationRecord) (hl : x.label = some (.atomic (.rotateKey r)))
      (h : (x.pre.runtime.rotateKey r).2.1 = true) (hr : x.pre.runtime.registrations.lookup r = some rec)
      (hg : rec.remoteKey.keyGeneration = g)
  | hardRevoked (rec : RegistrationRecord) (hl : x.label = some (.atomic (.revoke r .hardRevoke)))
      (h : (x.pre.runtime.revoke r .hardRevoke).2.ok = true) (hr : x.pre.runtime.registrations.lookup r = some rec)
      (hg : rec.remoteKey.keyGeneration = g)

theorem step_exec {x : Lts.Transition (System β) (Option (Action β))}
    (h : (interleaved β).step x.pre x.label x.post) {a : Action β} (hl : x.label = some a) :
    x.post = x.pre.exec a := by
  rw [hl] at h
  exact h

/-- A record that enters STALE or REVOKED in a withdrawal loop is no longer VALID. -/
theorem life_enters {x : Lts.Transition (System β) (Option (Action β))}
    (h : (interleaved β).step x.pre x.label x.post) {r : RegistrationId} {lc : RegistrationLifecycle}
    (he : Enters x r lc)
    (hl : (∃ descriptor, x.label = some (.atomic (.createBuffer descriptor))) ∨
      ∃ d, x.label = some (.atomic (.destroyProtectionDomain d))) :
    life (x.post.runtime.registrations.lookup r) = ⊤ := by
  obtain ⟨rec, rec', hr, hne, hr', rfl⟩ := he
  have hs := recordStep h r
  rw [hr, hr'] at hs
  rw [hr']
  cases hs with
  | keep => exact absurd rfl hne
  | leases => exact absurd rfl hne
  | destroyed | reallocated | hardRevoked | softRevoked | recovered => exact life_of_not_valid nofun
  | rotated => exact absurd rfl hne
  | committed _ _ _ _ hl' | deregistering _ _ hl' | failed _ _ _ _ hl' =>
    rcases hl with ⟨_, hl⟩ | ⟨_, hl⟩
    · rw [hl] at hl'; cases hl'
    · rw [hl] at hl'; cases hl'

theorem life_revoked {x : Lts.Transition (System β) (Option (Action β))}
    (h : (interleaved β).step x.pre x.label x.post) {r : RegistrationId} {mode : RevocationMode}
    (hl : x.label = some (.atomic (.revoke r mode))) (hok : (x.pre.runtime.revoke r mode).2.ok = true) :
    life (x.post.runtime.registrations.lookup r) = ⊤ := by
  obtain ⟨rec, hr, hlive, he⟩ := revoke_ok hok
  rw [step_exec h hl]
  show life ((x.pre.runtime.revoke r mode).1.registrations.lookup r) = ⊤
  rw [he, Table.lookup_put_self]
  exact life_of_not_valid (by simp)

/-- A retiring step takes the record past every generation. -/
theorem Retires.life {x : Lts.Transition (System β) (Option (Action β))} {r : RegistrationId} (hx : Retires x r)
    (h : (interleaved β).step x.pre x.label x.post) : life (x.post.runtime.registrations.lookup r) = ⊤ := by
  cases hx with
  | revoked mode hl hok => exact life_revoked h hl hok
  | reallocated descriptor hl he => exact life_enters h he (.inl ⟨descriptor, hl⟩)
  | destroyed d hl he => exact life_enters h he (.inr ⟨d, hl⟩)
  | overwritten bytes state rec hl hp hm hid =>
    rw [step_exec h hl]
    have hrun : (AtomicOp.recover (some bytes)).run x.pre.runtime = (restore x.pre.runtime state).1 := by
      rw [AtomicOp.run, recover_of_parse _ hp]
    show RdmaBuffer.life (((AtomicOp.recover (some bytes)).run x.pre.runtime).registrations.lookup r) = ⊤
    rw [hrun]
    rcases (restore_spec x.pre.runtime state).registration r with ⟨hne, -⟩ | ⟨rec', -, -, hlk⟩
    · exact absurd hid (hne rec hm)
    · rw [hlk]; exact life_of_not_valid (by simp [recoveredRecord])
  | removed c hl hr => rw [hr]; rfl

/-- A superseding step takes the record past the generation. -/
theorem Supersedes.life {x : Lts.Transition (System β) (Option (Action β))} {r : RegistrationId}
    {g : RemoteKeyGeneration} (hx : Supersedes x r g) (h : (interleaved β).step x.pre x.label x.post)
    (hw : wraps x = false) :
    ((g.value.toNat + 1 : Nat) : WithTop Nat) ≤ life (x.post.runtime.registrations.lookup r) := by
  cases hx with
  | hardRevoked rec hl hok hr hg => rw [life_revoked h hl hok]; exact le_top
  | rotated rec hl hok hr hg =>
    obtain ⟨rec', hr', hlive, he⟩ := rotateKey_ok hok
    obtain rfl : rec = rec' := Option.some.inj (hr.symm.trans hr')
    rw [step_exec h hl]
    show _ ≤ RdmaBuffer.life ((x.pre.runtime.rotateKey r).1.registrations.lookup r)
    rw [he, Table.lookup_put_self]
    have hw' : g.value + 1 ≠ 0 := by
      have := (Bool.or_eq_false_iff.1 hw).2
      rw [hl] at this
      simpa [hr, StrongGeneration.next, hg] using this
    by_cases hv : rec.freshness = .valid
    · rw [@life_of_valid (Rdmabuffer.rotated rec) hv, ← UInt64.toNat_succ hw', ← hg]
      exact le_refl _
    · rw [@life_of_not_valid (Rdmabuffer.rotated rec) hv]; exact le_top

/-! ## The headline -/

/-- The id of a returned registration stays settled. -/
theorem returned_settled {t : List (Lts.Transition (System β) (Option (Action β)))} {σ : System β}
    (h : (interleaved β).Run t σ) (hw : ∀ x ∈ t, wraps x = false) {r : RegistrationId} (hret : Returned t r) :
    Settled σ r := by
  obtain ⟨x, hx, c, p, bout, hl, hc, rfl⟩ := hret
  obtain ⟨t₁, t₂, rfl, h₁, hs, h₂⟩ := h.at_mem hx
  have hi : InFlightIds x.pre := inFlightIds_run h₁ fun y hy => wraps_counter (hw y (by simp [hy]))
  have hset : Settled x.post p.record.id := step_exec hs hl ▸ settled_commit hi hc
  exact h₂.inv_of (I := (Settled · p.record.id)) (C := fun y => wraps y = false)
    (fun _ _ _ hs hw hi => settled_step hs (wraps_counter hw) hi) (fun y hy => hw y (by simp [hy])) hset

/-- What is dead stays dead: in every run, after a step that retires a registration that had been
returned, no request for it is allowed, no lease on it is acquired and no reuse returns it; and after
a step that supersedes a key generation of it, no request that expects that generation is allowed. -/
theorem retired_never_again (t₁ t₂ : List (Lts.Transition (System β) (Option (Action β))))
    (x : Lts.Transition (System β) (Option (Action β))) (σ : System β) (h : (interleaved β).Run (t₁ ++ x :: t₂) σ)
    (hw : ∀ y ∈ t₁ ++ x :: t₂, wraps y = false) (r : RegistrationId) (hret : Returned t₁ r) :
    (Retires x r →
      (∀ q, q.sourceRegistration = r → (σ.runtime.validateRemoteAccess q).2.outcome ≠ .allow) ∧
      (∀ env needed, (σ.runtime.acquireLease r env needed).2.ok = false) ∧
      ∀ descriptor backend domain env, (σ.runtime.registerBufferReuse descriptor backend domain env).2.ok = true →
        (σ.runtime.registerBufferReuse descriptor backend domain env).2.registration ≠ r) ∧
    ∀ g : RemoteKeyGeneration, g.isValid = true → Supersedes x r g →
      ∀ q, q.sourceRegistration = r → q.expectedRemoteKeyGeneration = g →
        (σ.runtime.validateRemoteAccess q).2.outcome ≠ .allow := by
  obtain ⟨s₀, h₀, hp⟩ := h
  obtain ⟨u, hp₁, hp₂⟩ := hp.split t₁ (x :: t₂) rfl
  obtain ⟨rfl, hs, hp₂⟩ := hp₂.head
  have hwx : wraps x = false := hw x (by simp)
  have hset : Settled x.post r := settled_step hs (wraps_counter hwx)
    (returned_settled ⟨s₀, h₀, hp₁⟩ (fun y hy => hw y (by simp [hy])) hret)
  have hw₂ : ∀ y ∈ t₂, wraps y = false := fun y hy => hw y (by simp [hy])
  refine ⟨fun hx => ?_, fun g hg hx q hq he => ?_⟩
  · have hdead : Dead r σ := dead_path hp₂ (fun y hy => wraps_counter (hw₂ y hy)) ⟨hset, hx.life hs⟩
    have hown : OwnKeys σ.runtime := Lts.Path.inv (I := fun σ => OwnKeys σ.runtime) (fun _ _ _ => ownKeys_step) hp
      (by rintro r rec hr; rw [show s₀ = {} from h₀] at hr; cases hr)
    refine ⟨fun q hq => hdead.not_allowed hq, fun env needed => ?_, fun descriptor backend domain env hok hreg => ?_⟩
    · by_contra hok
      obtain ⟨-, rec, hr, -, hv, -⟩ := acquireLease_granted (by simpa using hok)
      exact hdead.not_valid hr hv
    · obtain ⟨-, k, cand, hk, hc, hid, -⟩ := registerBufferReuse_hit (.inl hok)
      have hkr : k = r := (hown k cand hk).symm.trans (hid.symm.trans hreg)
      exact hdead.not_valid (hkr ▸ hk) hc.valid
  · have ha : Aged ((g.value.toNat + 1 : Nat) : WithTop Nat) r σ :=
      hp₂.inv_of (I := Aged _ r) (fun _ _ _ hs hw ha => aged_step hs hw ha) hw₂ ⟨hset, hx.life hs hwx⟩
    exact ha.not_allowed hg hq he

end

open Session

/-- A hard revoke of a returned registration retires it and supersedes its first key generation; the page is registered
again after it, and the key of that registration rotated. -/
theorem retired_never_again_revoked :
    ∃ t₁ t₂ x σ, (interleaved Backend).Run (t₁ ++ x :: t₂) σ ∧ Returned t₁ ⟨1⟩ ∧ Retires x ⟨1⟩ ∧
      Supersedes x ⟨1⟩ ⟨1⟩ ∧ t₂.length = 4 ∧ (σ.runtime.validateRemoteAccess (write ⟨2⟩)).2.outcome = .allow ∧
      ∀ q, q.sourceRegistration = ⟨1⟩ → (σ.runtime.validateRemoteAccess q).2.outcome ≠ .allow := by
  let t₁ := System.trace {} (setup.map .atomic ++ registration 0 page)
  let σ := after (registration 0 page)
  let x : Lts.Transition (System Backend) (Option (Action Backend)) :=
    ⟨σ, some (.atomic (.revoke ⟨1⟩ .hardRevoke)), σ.exec (.atomic (.revoke ⟨1⟩ .hardRevoke))⟩
  let as : List (Action Backend) := registration 0 page ++ [.atomic (.rotateKey ⟨2⟩)]
  have hstep : (interleaved Backend).step x.pre x.label x.post := rfl
  have hrun : (interleaved Backend).Run (t₁ ++ x :: x.post.trace as) (x.post.run as) :=
    ⟨{}, rfl, (System.path_run _ _).append ((Lts.Path.single hstep).append (System.path_run _ as))⟩
  have hw : ∀ y ∈ t₁ ++ x :: x.post.trace as, wraps y = false := by decide +kernel
  have hret : Returned t₁ ⟨1⟩ :=
    ⟨⟨after ((registration 0 page).take 2), some (.registerCommit 0), σ⟩,
      List.mem_of_getElem? (i := 6) rfl, 0, _, _, rfl, rfl, by decide⟩
  have hx : Retires x ⟨1⟩ := .revoked .hardRevoke rfl (by decide)
  have hsup : Supersedes x ⟨1⟩ ⟨1⟩ := .hardRevoked _ rfl (by decide) rfl (by decide)
  exact ⟨t₁, _, x, _, hrun, hret, hx, hsup, rfl, by decide +kernel,
    (retired_never_again t₁ _ x _ hrun hw ⟨1⟩ hret).1 hx |>.1⟩

end RdmaBuffer
