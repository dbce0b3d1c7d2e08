/-
Live records and the memory they are of: a live record shows the extent of its descriptor, and so does the entry of its
handle, with the rights the record grants, whatever has happened to the backend.
-/
import RdmaBuffer.Runtime.Apart
import RdmaBuffer.Runtime.InFlight

namespace RdmaBuffer

open Rdmabuffer Backend

/-! ## Live records -/

section

variable {β : Type} [IBackend β] [Environment β]

/-- Where a live record comes from: it was live before, its key may be rotated, or a registration is committed. -/
inductive LiveOrigin (σ : System β) (l : Option (Action β)) (r : RegistrationId) (rec' : RegistrationRecord) : Prop
  | kept (rec : RegistrationRecord) (n : UInt64) (hr : σ.runtime.registrations.lookup r = some rec)
      (hlive : rec.lifecycle.isLive = true) (he : rec' = { rec with leaseCount := n })
  | rotated (rec : RegistrationRecord) (hl : l = some (.atomic (.rotateKey r)))
      (hr : σ.runtime.registrations.lookup r = some rec) (hlive : rec.lifecycle.isLive = true)
      (he : rec' = Rdmabuffer.rotated rec)
  | committed (c : Nat) (p : PendingRegistration) (bout : BackendRegistration) (hl : l = some (.registerCommit c))
      (hc : σ.clients c = some (.registered p bout)) (hid : p.record.id = r)
      (he : rec' = commitRecord σ.runtime.authority p bout)

theorem liveOrigin {σ σ' : System β} {l : Option (Action β)} (h : (interleaved β).step σ l σ') {r : RegistrationId}
    {rec' : RegistrationRecord} (hr' : σ'.runtime.registrations.lookup r = some rec')
    (hlive : rec'.lifecycle.isLive = true) : LiveOrigin σ l r rec' := by
  have hs := recordStep h r
  rw [hr'] at hs
  generalize ho : σ.runtime.registrations.lookup r = o at hs
  cases hs with
  | keep => exact .kept rec' rec'.leaseCount ho hlive rfl
  | leases rec n => exact .kept rec n ho hlive rfl
  | destroyed | reallocated | hardRevoked | recovered | deregistering | failed => cases hlive
  | softRevoked rec =>
    rw [softRevoked_not_live] at hlive
    cases hlive
  | rotated rec hl hlive' => exact .rotated rec hl ho hlive' rfl
  | committed c p bout o hl hc hid => exact .committed c p bout hl hc hid rfl

end

/-- A client whose registration a backend has made had it made by this step's call, or before. -/
theorem answered_step {β : Type} [IBackend β] [Environment β] {σ σ' : System β} {l : Option (Action β)}
    (h : (interleaved β).step σ l σ') {c : Nat} {p : PendingRegistration} {bout : BackendRegistration}
    (hc : σ'.clients c = some (.registered p bout)) :
    σ.clients c = some (.registered p bout) ∨ l = some (.registerCall c) ∧ ∃ b b' bo,
      σ.clients c = some (.registering p) ∧ σ.runtime.backends.lookup p.backend = some b ∧
        IBackend.registerBuffer b p.descriptor p.ctx = (b', bo, bout) ∧ bo.ok = true ∧
        σ'.runtime.backends = Table.put p.backend b' σ.runtime.backends := by
  cases l with
  | none =>
    obtain ⟨-, hcl⟩ := h
    exact .inl (hcl ▸ hc)
  | some a =>
    obtain rfl : σ' = σ.exec a := h
    generalize σ.exec a = σ', σ.exec_cases a = hs at hc
    cases hs with
    | idle | atomic => exact .inl hc
    | begun | vanished | committed | deregisterBegun | deregisterSkipped | deregisterCalled | deregisterFinished =>
      rcases System.clients_move hc with ⟨-, hc⟩ | ⟨-, hf⟩
      · exact .inl hc
      · cases hf
    | called c₀ p₀ b b' bo bout₀ hcl hb he =>
      rcases System.clients_move hc with ⟨-, hc⟩ | ⟨rfl, hf⟩
      · exact .inl hc
      · split at hf
        · rename_i ho
          cases hf
          exact .inr ⟨rfl, b, b', bo, hcl, hb, he, ho, rfl⟩
        · cases hf

/-- The same of the backends attached: the registration is of the descriptor. -/
theorem registered_step {σ σ' : System Backend} {l : Option (Action Backend)} (h : (interleaved Backend).step σ l σ')
    {c : Nat} {p : PendingRegistration} {bout : BackendRegistration} (hc : σ'.clients c = some (.registered p bout)) :
    σ.clients c = some (.registered p bout) ∨ l = some (.registerCall c) ∧ ∃ b b',
      σ.clients c = some (.registering p) ∧ σ.runtime.backends.lookup p.backend = some b ∧
        Registered b p.descriptor b' bout ∧ σ'.runtime.backends = Table.put p.backend b' σ.runtime.backends := by
  rcases answered_step h hc with hold | ⟨hl, b, b', bo, hcl, hb, he, ho, hm⟩
  · exact .inl hold
  · rcases registerBuffer_spec he with ⟨ho', -⟩ | ⟨-, hr⟩
    · rw [ho] at ho'
      cases ho'
    · exact .inr ⟨hl, b, b', hcl, hb, hr, hm⟩

/-- What a live record says of itself: it is under its own id, of the extent of its descriptor, and its key is not
revoked. -/
structure LiveRecord (r : RegistrationId) (rec : RegistrationRecord) : Prop where
  id : rec.id = r
  base : rec.start = rec.descriptor.base.address
  length : rec.length = rec.descriptor.byteLength
  unrevoked : rec.remoteKey.revoked = false

/-- What a backend returns for a registration in flight is of the descriptor. -/
structure MadeOf (p : PendingRegistration) (bout : BackendRegistration) : Prop where
  base : bout.registeredBase = p.descriptor.base.address
  length : bout.registeredLength = p.descriptor.byteLength
  granted : bout.grantedAccess = p.descriptor.requestedAccess

/-- Live records and registrations in flight show the extent of their descriptors. -/
structure Extents (σ : System Backend) : Prop where
  live : ∀ r rec, σ.runtime.registrations.lookup r = some rec → rec.lifecycle.isLive = true → LiveRecord r rec
  pending : ∀ c p, σ.HasPending c p → p.record.descriptor = p.descriptor
  made : ∀ c p bout, σ.clients c = some (.registered p bout) → MadeOf p bout

theorem extents_step {σ σ' : System Backend} {l : Option (Action Backend)} (h : (interleaved Backend).step σ l σ')
    (hi : Extents σ) : Extents σ' where
  live r rec' hr' hlive := by
    cases liveOrigin h hr' hlive with
    | kept rec n hr hlive he =>
      subst he
      have hrec := hi.live r rec hr hlive
      exact ⟨hrec.id, hrec.base, hrec.length, hrec.unrevoked⟩
    | rotated rec hl hr hlive he =>
      subst he
      have hrec := hi.live r rec hr hlive
      exact ⟨hrec.id, hrec.base, hrec.length, rfl⟩
    | committed c p bout hl hc hid he =>
      subst he
      have hmade := hi.made c p bout hc
      have hdesc := hi.pending c p (.inr ⟨bout, hc⟩)
      exact ⟨hid, hmade.base.trans (by rw [← hdesc]; rfl), hmade.length.trans (by rw [← hdesc]; rfl), rfl⟩
  pending c p hp := by
    rcases hasPending_step h hp with hold | ⟨descriptor, backend, domain, env, b, -, -, rfl⟩
    · exact hi.pending c p hold
    · rfl
  made c p bout hc := by
    rcases registered_step h hc with hold | ⟨-, b, b', -, -, hr, -⟩
    · exact hi.made c p bout hold
    · exact ⟨hr.base, hr.length, hr.granted⟩

theorem extents_run {t : List (Lts.Transition (System Backend) (Option (Action Backend)))} {σ : System Backend}
    (h : (interleaved Backend).Run t σ) : Extents σ := by
  refine h.inv (I := Extents) ?_ fun _ _ _ hs hi => extents_step hs hi
  rintro _ rfl
  refine ⟨fun r rec hr => ?_, ?_, fun c p bout hc => ?_⟩
  · cases hr
  · rintro c p (hp | ⟨bout, hp⟩) <;> cases hp
  · cases hc

/-! ## Their entries -/

/-- Every entry, but one at the touched place, has the extent and the rights of an entry that was there. -/
def KeepsGrants (m m' : Table BackendId Backend) (touched : Option (BackendId × StdString)) : Prop :=
  ∀ k, touched ≠ some k → ∀ e', entryAt m' k = some e' →
    ∃ e, entryAt m k = some e ∧ e'.length = e.length ∧ e'.granted = e.granted

theorem KeepsGrants.of_lookup {m m' : Table BackendId Backend} (h : ∀ id, m'.lookup id = m.lookup id) :
    KeepsGrants m m' none := by
  intro k _ e' he
  unfold entryAt at he
  rw [h] at he
  exact ⟨e', he, rfl, rfl⟩

theorem KeepsGrants.put {m : Table BackendId Backend} {id : BackendId} {b b' : Backend} (touched : Option StdString)
    (hb : m.lookup id = some b)
    (h : ∀ handle, touched ≠ some handle → ∀ e', b'.live handle = some e' →
      ∃ e, b.live handle = some e ∧ e'.length = e.length ∧ e'.granted = e.granted) :
    KeepsGrants m (Table.put id b' m) (touched.map fun handle => (id, handle)) := by
  rintro ⟨id₀, handle⟩ hne e' he
  obtain ⟨b₀, hb₀, hlive⟩ := entryAt_eq_some.1 he
  have hb₀ : (Table.put id b' m).lookup id₀ = some b₀ := hb₀
  rcases Table.lookup_put_some hb₀ with ⟨hid, rfl⟩ | ⟨-, hb₀⟩
  · have hnot : touched ≠ some handle := by
      rintro rfl
      exact hne (by rw [hid]; rfl)
    obtain ⟨e, hl, hsame⟩ := h handle hnot e' hlive
    exact ⟨e, entryAt_eq_some.2 ⟨b, hid ▸ hb, hl⟩, hsame⟩
  · exact ⟨e', entryAt_eq_some.2 ⟨b₀, hb₀, hlive⟩, rfl, rfl⟩

theorem KeepsGrants.attach {m : Table BackendId Backend} {id : BackendId} {b : Backend}
    (hl : b.live = fun _ => none) : KeepsGrants m (Table.put id b m) none := by
  rintro ⟨id₀, handle⟩ - e' he
  obtain ⟨b₀, hb₀, hlive⟩ := entryAt_eq_some.1 he
  have hb₀ : (Table.put id b m).lookup id₀ = some b₀ := hb₀
  rcases Table.lookup_put_some hb₀ with ⟨-, rfl⟩ | ⟨-, hb₀⟩
  · rw [hl] at hlive
    cases hlive
  · exact ⟨e', entryAt_eq_some.2 ⟨b₀, hb₀, hlive⟩, rfl, rfl⟩

theorem rotateKey_grants (b : Backend) (handle : RegisterHandle) (g : RemoteKeyGeneration) {h : StdString}
    {e' : LiveEntry} (he : (IBackend.rotateKey b handle g).1.live h = some e') :
    ∃ e, b.live h = some e ∧ e'.length = e.length ∧ e'.granted = e.granted := by
  rw [(rotateKey_spec b handle g).2, Function.update_apply] at he
  split at he
  · rename_i hh
    obtain ⟨e, hl, rfl⟩ := Option.map_eq_some_iff.1 he
    exact ⟨e, hh ▸ hl, rfl, rfl⟩
  · exact ⟨e', he, rfl, rfl⟩

theorem deregisterBuffer_grants {b b' : Backend} {handle : RegisterHandle} {bo : RegisterOutcome}
    (h : IBackend.deregisterBuffer b handle = (b', bo)) {k : StdString} {e' : LiveEntry} (he : b'.live k = some e') :
    ∃ e, b.live k = some e ∧ e'.length = e.length ∧ e'.granted = e.granted := by
  rw [(deregisterBuffer_spec h).2.1, Function.update_apply] at he
  split at he
  · cases he
  · exact ⟨e', he, rfl, rfl⟩

/-- A transport rollover rewrites keys only, and a restart drops the entries. -/
theorem control_grants (c : Backend.Control) (b : Backend) {h : StdString} {e' : LiveEntry}
    (he : (Backend.control c b).live h = some e') :
    ∃ e, b.live h = some e ∧ e'.length = e.length ∧ e'.granted = e.granted := by
  cases b with
  | reference b => cases c <;> exact ⟨e', he, rfl, rfl⟩
  | synthetic b =>
    cases c with
    | advanceBackendGeneration => exact ⟨e', he, rfl, rfl⟩
    | synthetic c =>
      cases c with
      | rolloverTransportGeneration =>
        have he : ((Table.mapVals (fun _ e =>
            { e with revalidateRequired := true, keyGeneration := StrongGeneration.next e.keyGeneration })
            b.entries).lookup h).map SyntheticEntry.view = some e' := he
        rw [Table.lookup_mapVals, Option.map_map, Option.map_eq_some_iff] at he
        obtain ⟨e, hl, rfl⟩ := he
        exact ⟨e.view, by simp [live, hl], rfl, rfl⟩
      | simulateBackendRestart => cases he
      | _ => exact ⟨e', he, rfl, rfl⟩

theorem effect_keepsGrants {s s' : Rdmabuffer Backend} {op : AtomicOp Backend} (he : Effect s op s') :
    KeepsGrants s.backends s'.backends none := by
  cases he with
  | attached spec b hb h => exact .attach (by rw [hb]; exact (construct_spec spec).1)
  | controlled id c b h => exact .put none h fun _ _ _ => control_grants c b
  | queried request rec b acct hr h =>
    refine .put none h fun _ _ e' hl => ?_
    rw [queryRemoteAccess_fst] at hl
    exact ⟨e', hl, rfl, rfl⟩
  | rotated r rec b h hl hb => exact .put none hb fun _ _ _ => rotateKey_grants b _ _
  | recovered bytes state hp => exact .of_lookup fun id => congrArg (AList.lookup id) (restore_spec s state).backends
  | _ => exact .of_lookup fun _ => rfl

/-- The place of the handle that is issued, if one is. -/
inductive Issues (m : Table BackendId Backend) : Option (BackendId × StdString) → Prop
  | nothing : Issues m none
  | issued (id : BackendId) (b : Backend) (hb : m.lookup id = some b) (hroom : b.HasRoom) :
      Issues m (some (id, b.handleAt b.nextSeq.toNat))

/-- No one has the handle yet that is issued. -/
theorem Issues.ne {σ : System Backend} {touched : Option (BackendId × StdString)}
    (h : Issues σ.runtime.backends touched) (ha : Apart σ) {k : BackendId × StdString}
    (hk : k.2 = [] ∨ ∃ o, σ.writtenKey o = some k) : touched ≠ some k := by
  cases h with
  | nothing => nofun
  | issued id b hb hroom =>
    intro he
    obtain rfl := Option.some.inj he
    rcases hk with hnil | ⟨o, ho⟩
    · exact handleAt_ne_nil b _ hnil
    · exact ha.next_unwritten hb hroom o ho

/-- A step leaves the extents and the rights of the entries alone, up to that of a handle it issues. -/
theorem keepsGrants_step {σ σ' : System Backend} {l : Option (Action Backend)}
    (h : (interleaved Backend).step σ l σ') (hb : Bounded σ.runtime) (hb' : Bounded σ'.runtime) :
    ∃ touched, Issues σ.runtime.backends touched ∧ KeepsGrants σ.runtime.backends σ'.runtime.backends touched := by
  cases l with
  | none => exact ⟨none, .nothing, .of_lookup fun id => (Table.lookup_perm h.1.backends id).symm⟩
  | some a =>
    obtain rfl : σ' = σ.exec a := h
    generalize σ.exec a = σ', σ.exec_cases a = hs at hb'
    cases hs with
    | idle | begun | vanished | committed | deregisterBegun | deregisterSkipped =>
      exact ⟨none, .nothing, .of_lookup fun _ => rfl⟩
    | atomic op s he => exact ⟨none, .nothing, effect_keepsGrants he⟩
    | called c p b b' bo bout hc hbk he =>
      have hin' : b'.InBounds := hb'.lookup (Table.lookup_put_self _ _ _)
      rcases registerBuffer_spec he with ⟨-, rfl⟩ | ⟨-, hr⟩
      · exact ⟨none, .nothing, .put none hbk fun _ _ e' hl => ⟨e', hl, rfl, rfl⟩⟩
      · refine ⟨_, .issued p.backend b hbk (hr.room (hb.lookup hbk) hin'), ?_⟩
        refine .put (some _) hbk fun handle hne e' hl => ?_
        rw [hr.live, Function.update_of_ne (by rintro rfl; exact hne rfl)] at hl
        exact ⟨e', hl, rfl, rfl⟩
    | deregisterCalled c d b b' bo hc hv hbk he =>
      exact ⟨none, .nothing, .put none hbk fun _ _ _ => deregisterBuffer_grants he⟩
    | deregisterFinished c d refusal hc =>
      exact ⟨none, .nothing, .of_lookup fun id => congrArg (AList.lookup id)
        (deregisterFinish_backends σ.runtime d refusal)⟩

/-- The entry is of the extent of the descriptor and has the rights. -/
structure LiveEntry.Covers (e : LiveEntry) (d : BufferDescriptor) (granted : AccessMask) : Prop where
  length : e.length = d.byteLength
  granted : e.granted = granted

/-- The entries of live records and of registrations in flight cover them. -/
structure Covered (σ : System Backend) : Prop where
  record : ∀ r rec e, σ.runtime.registrations.lookup r = some rec → rec.lifecycle.isLive = true →
    entryAt σ.runtime.backends (rec.backend, rec.backendHandle) = some e → e.Covers rec.descriptor rec.grantedAccess
  client : ∀ c p bout e, σ.clients c = some (.registered p bout) →
    entryAt σ.runtime.backends (p.backend, bout.handle) = some e → e.Covers p.descriptor bout.grantedAccess

theorem KeepsGrants.covers {m m' : Table BackendId Backend} {touched : Option (BackendId × StdString)}
    (h : KeepsGrants m m' touched) {k : BackendId × StdString} (hne : touched ≠ some k) {d : BufferDescriptor}
    {granted : AccessMask} (hold : ∀ e, entryAt m k = some e → e.Covers d granted) {e : LiveEntry}
    (he : entryAt m' k = some e) : e.Covers d granted := by
  obtain ⟨e₀, he₀, hl, hg⟩ := h k hne e he
  have hc := hold e₀ he₀
  exact ⟨hl.trans hc.length, hg.trans hc.granted⟩

theorem covered_step {σ σ' : System Backend} {l : Option (Action Backend)} (h : (interleaved Backend).step σ l σ')
    (hb : Bounded σ.runtime) (hb' : Bounded σ'.runtime) (hn : Named σ) (ha : Apart σ) (hx : Extents σ)
    (hi : Covered σ) : Covered σ' := by
  obtain ⟨touched, ht, hk⟩ := keepsGrants_step h hb hb'
  -- what was covered is, under the same handle
  have hrecord : ∀ r rec e, σ.runtime.registrations.lookup r = some rec → rec.lifecycle.isLive = true →
      entryAt σ'.runtime.backends (rec.backend, rec.backendHandle) = some e →
      e.Covers rec.descriptor rec.grantedAccess := by
    intro r rec e hr hlive he
    refine hk.covers (ht.ne ha ?_) (fun e he => hi.record r rec e hr hlive he) he
    by_cases hnil : rec.backendHandle = []
    · exact .inl hnil
    · exact .inr ⟨.record r, writtenKey_of_lookup hr hnil⟩
  have hclient : ∀ c p bout e, σ.clients c = some (.registered p bout) →
      entryAt σ'.runtime.backends (p.backend, bout.handle) = some e → e.Covers p.descriptor bout.grantedAccess := by
    intro c p bout e hc he
    refine hk.covers (ht.ne ha (.inr ⟨.client c, ?_⟩)) (fun e he => hi.client c p bout e hc he) he
    simp [System.writtenKey, hc, clientMaterial, Material.key]
  constructor
  · intro r rec' e hr' hlive' he
    cases liveOrigin h hr' hlive' with
    | kept rec n hr hlive hrec => subst hrec; exact hrecord r rec e hr hlive he
    | rotated rec hl hr hlive hrec => subst hrec; exact hrecord r rec e hr hlive he
    | committed c p bout hl hc hid hrec =>
      subst hrec
      have he : entryAt σ'.runtime.backends (p.record.backend, bout.handle) = some e := he
      rw [hn c p (.inr ⟨bout, hc⟩)] at he
      have hcovers := hclient c p bout e hc he
      rw [← hx.pending c p (.inr ⟨bout, hc⟩)] at hcovers
      exact hcovers
  · intro c p bout e hc' he
    rcases registered_step h hc' with hc | ⟨-, b, b', -, -, hr, hm⟩
    · exact hclient c p bout e hc he
    · obtain ⟨b₀, hb₀, hlive⟩ := entryAt_eq_some.1 he
      rw [hm] at hb₀
      obtain rfl := Option.some.inj ((Table.lookup_put_self _ _ _).symm.trans hb₀)
      have hlive : b'.live bout.handle = some e := hlive
      rw [hr.live, hr.handle, Function.update_self] at hlive
      obtain rfl := Option.some.inj hlive
      exact ⟨rfl, hr.granted.symm⟩

theorem covered_run {t : List (Lts.Transition (System Backend) (Option (Action Backend)))} {σ : System Backend}
    (h : (interleaved Backend).Run t σ) (hb : ∀ x ∈ t, Bounded x.pre.runtime ∧ Bounded x.post.runtime) :
    Covered σ := by
  have hrun : (Named σ ∧ Apart σ) ∧ Extents σ ∧ Covered σ := by
    refine h.inv_of (I := fun σ => (Named σ ∧ Apart σ) ∧ Extents σ ∧ Covered σ)
      (C := fun x => Bounded x.pre.runtime ∧ Bounded x.post.runtime) ?_ ?_ hb
    · rintro _ rfl
      refine ⟨apart_run (.nil rfl) (by simp), extents_run (.nil rfl), ?_, ?_⟩
      · intro r rec e hr
        cases hr
      · intro c p bout e hc
        cases hc
    · rintro σ l σ' hs ⟨hb, hb'⟩ ⟨⟨hn, ha⟩, hx, hi⟩
      exact ⟨⟨named_step hs hn, apart_step hs hb hb' hn ha⟩, extents_step hs hx, covered_step hs hb hb' hn ha hx hi⟩
  exact hrun.2.2

end RdmaBuffer
