/-
Operations on one registration and the others. An operation writes to the records, the leases and the backend entries
of the registrations it is on, and to no others: records and entries are apart because no two records have one handle,
leases because the counter of their ids does not turn round.
-/
import RdmaBuffer.Runtime.Apart
import RdmaBuffer.Safety.Accounting
import RdmaBuffer.Safety.LeaseReferences

namespace RdmaBuffer

open Rdmabuffer Backend

/-! ## What is observed of a registration -/

/-- The entry of the backend under the handle, in the backend's own form. -/
def Backend.entry : Backend → StdString → Option (SyntheticEntry ⊕ ReferenceEntry)
  | .synthetic b, h => (b.entries.lookup h).map .inl
  | .reference b, h => (b.entries.lookup h).map .inr

/-- Under the handle the two backends have the same entry and give the same answers. -/
structure AlikeAt (h : StdString) (b b' : Backend) : Prop where
  entry : b'.entry h = b.entry h
  generation : IBackend.generation b' = IBackend.generation b
  capabilities : IBackend.capabilities b' = IBackend.capabilities b
  answers : ∀ region key kind offset length,
    (IBackend.queryRemoteAccess b' ⟨region, h⟩ key kind offset length).2 =
      (IBackend.queryRemoteAccess b ⟨region, h⟩ key kind offset length).2

theorem AlikeAt.refl (h : StdString) (b : Backend) : AlikeAt h b b := ⟨rfl, rfl, rfl, fun _ _ _ _ _ => rfl⟩

/-- Nothing that is observed of the registration `r` differs: its record, its leases, its backend entry and the
decision on every request. -/
structure Unaffected (s s' : Rdmabuffer Backend) (r : RegistrationId) : Prop where
  record : s'.registrations.lookup r = s.registrations.lookup r
  leases : ∀ lease ls, ls.registration = r → (s'.leases.lookup lease = some ls ↔ s.leases.lookup lease = some ls)
  entry : ∀ rec, s.registrations.lookup r = some rec →
    (s'.backends.lookup rec.backend).bind (·.entry rec.backendHandle) =
      (s.backends.lookup rec.backend).bind (·.entry rec.backendHandle)
  decision : ∀ q : RemoteAccessRequest, q.sourceRegistration = r →
    (s'.validateRemoteAccess q).2 = (s.validateRemoteAccess q).2

@[simp] theorem decision_snd (s : Rdmabuffer Backend) (o : AccessOutcome) (e : StdString) :
    (s.decision o e).2 = makeDecision o e := rfl

/-- The verdict reads the snapshot, the record and the backend of the record. -/
theorem validateRemoteAccess_congr {s s' : Rdmabuffer Backend} {q : RemoteAccessRequest}
    (ha : s'.authority = s.authority)
    (hr : s'.registrations.lookup q.sourceRegistration = s.registrations.lookup q.sourceRegistration)
    (hb : ∀ rec, s.registrations.lookup q.sourceRegistration = some rec →
      Option.Rel (AlikeAt rec.backendHandle) (s.backends.lookup rec.backend) (s'.backends.lookup rec.backend)) :
    (s'.validateRemoteAccess q).2 = (s.validateRemoteAccess q).2 := by
  unfold validateRemoteAccess
  rw [hr, ha]
  rcases hrec : s.registrations.lookup q.sourceRegistration with _ | rec
  · rfl
  · dsimp only
    have hrel := hb rec hrec
    rcases hbk : s.backends.lookup rec.backend with _ | b
    · rw [hbk] at hrel
      generalize s'.backends.lookup rec.backend = o' at hrel
      cases hrel
      simp only [apply_ite Prod.snd, decision_snd]
    · rw [hbk] at hrel
      generalize s'.backends.lookup rec.backend = o' at hrel
      cases hrel with
      | some halike =>
        rename_i b'
        have hq := halike.answers rec.memoryRegionId (backDummyRemoteKey rec) q.kind q.offset q.length
        rcases hquery : IBackend.queryRemoteAccess b ⟨rec.memoryRegionId, rec.backendHandle⟩ (backDummyRemoteKey rec)
          q.kind q.offset q.length with ⟨b₁, bo, ex⟩
        rcases hquery' : IBackend.queryRemoteAccess b' ⟨rec.memoryRegionId, rec.backendHandle⟩
          (backDummyRemoteKey rec) q.kind q.offset q.length with ⟨b₁', bo', ex'⟩
        rw [hquery, hquery'] at hq
        obtain ⟨rfl, rfl⟩ := Prod.mk.inj hq
        simp only [apply_ite Prod.snd, decision_snd, halike.generation, halike.capabilities, hquery, hquery']

theorem Unaffected.of_alike {s s' : Rdmabuffer Backend} {r : RegistrationId} (ha : s'.authority = s.authority)
    (hr : s'.registrations.lookup r = s.registrations.lookup r)
    (hl : ∀ lease ls, ls.registration = r → (s'.leases.lookup lease = some ls ↔ s.leases.lookup lease = some ls))
    (hb : ∀ rec, s.registrations.lookup r = some rec →
      Option.Rel (AlikeAt rec.backendHandle) (s.backends.lookup rec.backend) (s'.backends.lookup rec.backend)) :
    Unaffected s s' r where
  record := hr
  leases := hl
  entry rec hrec := by
    have hrel := hb rec hrec
    generalize s.backends.lookup rec.backend = o, s'.backends.lookup rec.backend = o' at hrel
    cases hrel with
    | some halike => exact halike.entry
    | none => rfl
  decision q hq := by
    subst hq
    exact validateRemoteAccess_congr ha hr hb

theorem rel_refl (h : StdString) (o : Option Backend) : Option.Rel (AlikeAt h) o o := by
  cases o with
  | none => exact .none
  | some b => exact .some (.refl h b)

/-! ## The methods and the other handles -/

theorem synthetic_alike {b b' : SyntheticBackend} {h : StdString} (hl : b'.entries.lookup h = b.entries.lookup h)
    (he : { b' with nextSeq := b.nextSeq, entries := b.entries, regionHandle := b.regionHandle } = b) :
    AlikeAt h (.synthetic b) (.synthetic b') := by
  have hflags : ∀ e key kind offset length, b'.queryEntry e key kind offset length =
      b.queryEntry e key kind offset length := by
    intro e key kind offset length
    rw [← he]
    rfl
  constructor
  · simp [Backend.entry, hl]
  · rw [← he]
    rfl
  · rw [← he]
    rfl
  · intro region key kind offset length
    show (b'.queryRemoteAccess ⟨region, h⟩ key kind offset length).2 =
      (b.queryRemoteAccess ⟨region, h⟩ key kind offset length).2
    unfold SyntheticBackend.queryRemoteAccess
    rw [hl]
    rcases b.entries.lookup h with _ | e
    · rfl
    · exact hflags e key kind offset length

theorem reference_alike {b b' : ReferenceBackend} {h : StdString} (hl : b'.entries.lookup h = b.entries.lookup h)
    (hg : b'.backendGen = b.backendGen) : AlikeAt h (.reference b) (.reference b') := by
  constructor
  · simp [Backend.entry, hl]
  · exact hg
  · rfl
  · intro region key kind offset length
    show (b'.queryRemoteAccess ⟨region, h⟩ key kind offset length).2 =
      (b.queryRemoteAccess ⟨region, h⟩ key kind offset length).2
    unfold ReferenceBackend.queryRemoteAccess
    rw [hl]
    rcases b.entries.lookup h with _ | e <;> rfl

theorem rotateKey_alike (b : Backend) (handle : RegisterHandle) (g : RemoteKeyGeneration) {h : StdString}
    (hne : h ≠ handle.handle) : AlikeAt h b (IBackend.rotateKey b handle g).1 := by
  cases b with
  | synthetic b =>
    show AlikeAt h _ (Backend.synthetic (b.rotateKey handle g).1)
    unfold SyntheticBackend.rotateKey
    split
    · exact .refl h _
    · exact synthetic_alike ((Table.lookup_put _ _ _ _).trans (if_neg hne)) rfl
  | reference b =>
    show AlikeAt h _ (Backend.reference (b.rotateKey handle g).1)
    unfold ReferenceBackend.rotateKey
    split
    · exact .refl h _
    · exact reference_alike ((Table.lookup_put _ _ _ _).trans (if_neg hne)) rfl

theorem deregisterBuffer_alike (b : Backend) (handle : RegisterHandle) {h : StdString} (hne : h ≠ handle.handle) :
    AlikeAt h b (IBackend.deregisterBuffer b handle).1 := by
  cases b with
  | synthetic b =>
    show AlikeAt h _ (Backend.synthetic (b.deregisterBuffer handle).1)
    unfold SyntheticBackend.deregisterBuffer
    split
    · exact .refl h _
    · exact synthetic_alike ((Table.lookup_erase_eq _ _ _).trans (if_neg hne)) rfl
  | reference b =>
    show AlikeAt h _ (Backend.reference (b.deregisterBuffer handle).1)
    unfold ReferenceBackend.deregisterBuffer
    split
    · exact .refl h _
    · exact reference_alike ((Table.lookup_erase_eq _ _ _).trans (if_neg hne)) rfl

/-- A deregistration of nothing leaves the backend as it is. -/
theorem deregisterBuffer_of_none {b : Backend} {handle : RegisterHandle} (h : b.live handle.handle = none) :
    (IBackend.deregisterBuffer b handle).1 = b := by
  cases b with
  | synthetic b =>
    have hn : b.entries.lookup handle.handle = none := by simpa [live] using h
    show Backend.synthetic (b.deregisterBuffer handle).1 = _
    unfold SyntheticBackend.deregisterBuffer
    rw [hn]
  | reference b =>
    have hn : b.entries.lookup handle.handle = none := by simpa [live] using h
    show Backend.reference (b.deregisterBuffer handle).1 = _
    unfold ReferenceBackend.deregisterBuffer
    rw [hn]

/-- A method on the entry of one record leaves the entries of the others alike. -/
theorem put_alike {s : Rdmabuffer Backend} (hi : Apart (idle s)) {r₁ r₂ : RegistrationId} (hne : r₁ ≠ r₂)
    {rec₁ rec₂ : RegistrationRecord} (h₁ : s.registrations.lookup r₁ = some rec₁)
    (h₂ : s.registrations.lookup r₂ = some rec₂) {b b' : Backend} (hb : s.backends.lookup rec₁.backend = some b)
    (hothers : ∀ h, h ≠ rec₁.backendHandle → AlikeAt h b b') (hempty : rec₁.backendHandle = [] → b' = b) :
    Option.Rel (AlikeAt rec₂.backendHandle) (s.backends.lookup rec₂.backend)
      ((Table.put rec₁.backend b' s.backends).lookup rec₂.backend) := by
  rw [Table.lookup_put]
  split
  · rename_i hbk
    rw [hbk, hb]
    by_cases hh : rec₁.backendHandle = []
    · rw [hempty hh]
      exact rel_refl _ _
    · refine .some (hothers _ fun hsame => hne ?_)
      have hkey₁ : (idle s).writtenKey (.record r₁) = some (rec₁.backend, rec₁.backendHandle) :=
        writtenKey_of_lookup h₁ hh
      have hkey₂ : (idle s).writtenKey (.record r₂) = some (rec₂.backend, rec₂.backendHandle) :=
        writtenKey_of_lookup h₂ (hsame ▸ hh)
      rw [hbk, hsame] at hkey₂
      exact Holder.record.inj (hi.unique _ _ _ hkey₁ hkey₂)
  · exact rel_refl _ _

/-! ## The operations -/

/-- The registrations an operation is on; of operations of other kinds nothing is said. -/
def Op.isOn (s : Rdmabuffer Backend) (r : RegistrationId) : Op Backend → Bool
  | .atomic (.revoke k _) | .atomic (.rotateKey k) | .atomic (.acquireLease k _ _) | .deregister k => k == r
  | .atomic (.releaseLease lease) => (s.leases.lookup lease).any fun ls => ls.registration == r
  | .atomic (.createBuffer descriptor) =>
    (s.registrations.lookup r).any fun rec => rec.bufferId == bufferTarget s descriptor
  | .atomic (.destroyProtectionDomain d) => (s.registrations.lookup r).any fun rec => rec.domainId == d
  | _ => true

theorem lookup_put_ne {m : Table RegistrationId RegistrationRecord} {k r : RegistrationId} {rec : RegistrationRecord}
    (hne : k ≠ r) : (Table.put k rec m).lookup r = m.lookup r :=
  (Table.lookup_put _ _ _ _).trans (if_neg fun he => hne he.symm)

/-- A withdrawal loop leaves the record it does not select. -/
theorem withdrawn_of_not_hit {m : Table RegistrationId RegistrationRecord} {hit : RegistrationRecord → Bool}
    {lc : RegistrationLifecycle} {reason : StdString} {r : RegistrationId}
    (h : ∀ rec, m.lookup r = some rec → hit rec = false) : (withdrawn hit lc reason m).lookup r = m.lookup r := by
  rw [withdrawn, Table.lookup_mapVals]
  rcases hr : m.lookup r with _ | rec
  · rfl
  · simp [h rec hr]

section

variable {s : Rdmabuffer Backend} {r : RegistrationId}

theorem revoke_undisturbed {k : RegistrationId} {mode : RevocationMode} (hne : k ≠ r) :
    Unaffected s (s.revoke k mode).1 r := by
  generalize he : (s.revoke k mode).1 = s'
  have heff : Effect s (.revoke k mode) s' := he ▸ revoke_effect s k mode
  clear he
  cases heff with
  | refused op acct h ha => exact .of_alike rfl rfl (fun _ _ _ => .rfl) fun rec _ => rel_refl _ _
  | authority op acct ha => exact .of_alike rfl rfl (fun _ _ _ => .rfl) fun rec _ => rel_refl _ _
  | softRevoked k rec acct h hl ha =>
    exact .of_alike rfl (lookup_put_ne hne) (fun _ _ _ => .rfl) fun rec _ => rel_refl _ _
  | hardRevoked k rec leases acct h hl hls ha =>
    refine .of_alike rfl (lookup_put_ne hne) (fun lease ls hr => ?_) fun rec _ => rel_refl _ _
    rw [hls, Table.lookup_mapVals, Option.map_eq_some_iff]
    constructor
    · rintro ⟨ls₀, hls₀, he⟩
      split at he
      · rename_i hrevokes
        subst he
        simp only [revokesLease, Bool.and_eq_true, beq_iff_eq] at hrevokes
        exact absurd (hrevokes.1.symm.trans hr) hne
      · exact he ▸ hls₀
    · intro hls₀
      refine ⟨ls, hls₀, if_neg ?_⟩
      simp only [revokesLease, Bool.and_eq_true, beq_iff_eq, not_and]
      exact fun hk _ => hne (hk.symm.trans hr)

theorem rotateKey_undisturbed (hi : Apart (idle s)) {k : RegistrationId} (hne : k ≠ r) :
    Unaffected s (s.rotateKey k).1 r := by
  generalize he : (s.rotateKey k).1 = s'
  have heff : Effect s (.rotateKey k) s' := he ▸ rotateKey_effect s k
  clear he
  cases heff with
  | refused op acct h ha => exact .of_alike rfl rfl (fun _ _ _ => .rfl) fun rec _ => rel_refl _ _
  | authority op acct ha => exact .of_alike rfl rfl (fun _ _ _ => .rfl) fun rec _ => rel_refl _ _
  | rotated k rec b h hl hb hh =>
    refine .of_alike rfl (lookup_put_ne hne) (fun _ _ _ => .rfl) fun rec₂ h₂ => ?_
    exact put_alike hi hne h h₂ hb (fun handle hh => rotateKey_alike b _ _ hh) fun he => absurd he hh
  | rotatedAlone k rec h hl hb =>
    exact .of_alike rfl (lookup_put_ne hne) (fun _ _ _ => .rfl) fun rec _ => rel_refl _ _

/-- A lease is issued under an id that no other lease has. -/
theorem acquireLease_undisturbed (hfree : s.leases.lookup ⟨s.nextLease⟩ = none) {k : RegistrationId}
    {env : AuthorityEnvelope} {needed : AccessMask} (hne : k ≠ r) : Unaffected s (s.acquireLease k env needed).1 r := by
  rw [acquireLease_fst]
  split
  · split
    · refine .of_alike rfl (lookup_put_ne hne) (fun lease ls hr => ?_) fun rec _ => rel_refl _ _
      rw [Table.lookup_put]
      split
      · rename_i hlease
        rw [hlease, hfree]
        simp only [Option.some.injEq, reduceCtorEq, iff_false]
        rintro rfl
        exact hne hr
      · exact .rfl
    · exact .of_alike rfl rfl (fun _ _ _ => .rfl) fun rec _ => rel_refl _ _
  · exact .of_alike rfl rfl (fun _ _ _ => .rfl) fun rec _ => rel_refl _ _

theorem releaseLease_undisturbed {lease : RegistrationLeaseId}
    (hne : ∀ ls, s.leases.lookup lease = some ls → ls.registration ≠ r) : Unaffected s (s.releaseLease lease).1 r := by
  have hleases : ∀ ls₀, s.leases.lookup lease = some ls₀ → ∀ lease' ls, ls.registration = r →
      ((Table.put lease { ls₀ with state := .released } s.leases).lookup lease' = some ls ↔
        s.leases.lookup lease' = some ls) := by
    intro ls₀ hls₀ lease' ls hr
    rw [Table.lookup_put]
    split
    · rename_i hl
      rw [hl, hls₀]
      constructor
      · intro he
        obtain rfl := Option.some.inj he
        exact absurd hr (hne ls₀ hls₀)
      · intro he
        obtain rfl := Option.some.inj he
        exact absurd hr (hne ls₀ hls₀)
    · exact .rfl
  generalize he : (s.releaseLease lease).1 = s'
  have heff : Effect s (.releaseLease lease) s' := he ▸ releaseLease_effect s lease
  clear he
  cases heff with
  | refused op acct h ha => exact .of_alike rfl rfl (fun _ _ _ => .rfl) fun rec _ => rel_refl _ _
  | authority op acct ha => exact .of_alike rfl rfl (fun _ _ _ => .rfl) fun rec _ => rel_refl _ _
  | released lease ls rec acct hls h hst ha =>
    exact .of_alike rfl (lookup_put_ne (hne ls hls)) (hleases ls hls) fun rec _ => rel_refl _ _
  | releasedAlone lease ls acct hls hst ha => exact .of_alike rfl rfl (hleases ls hls) fun rec _ => rel_refl _ _

theorem createBuffer_undisturbed {descriptor : BufferDescriptor}
    (hne : ∀ rec, s.registrations.lookup r = some rec → rec.bufferId ≠ bufferTarget s descriptor) :
    Unaffected s (s.createBuffer descriptor).1 r := by
  generalize he : (s.createBuffer descriptor).1 = s'
  have heff : Effect s (.createBuffer descriptor) s' := he ▸ createBuffer_effect s descriptor
  clear he
  cases heff with
  | bufferReallocated descriptor be nextBuffer acct h hg ha =>
    refine .of_alike rfl (withdrawn_of_not_hit fun rec hr => ?_) (fun _ _ _ => .rfl) fun rec _ => rel_refl _ _
    simp [onBuffer, hne rec hr]
  | _ => exact .of_alike rfl rfl (fun _ _ _ => .rfl) fun rec _ => rel_refl _ _

theorem destroyProtectionDomain_undisturbed {d : ProtectionDomainId}
    (hne : ∀ rec, s.registrations.lookup r = some rec → rec.domainId ≠ d) :
    Unaffected s (s.destroyProtectionDomain d).1 r := by
  generalize he : (s.destroyProtectionDomain d).1 = s'
  have heff : Effect s (.destroyProtectionDomain d) s' := he ▸ destroyProtectionDomain_effect s d
  clear he
  cases heff with
  | domainDestroyed d de acct h ha =>
    refine .of_alike rfl (withdrawn_of_not_hit fun rec hr => ?_) (fun _ _ _ => .rfl) fun rec _ => rel_refl _ _
    simp [inDomain, hne rec hr]
  | _ => exact .of_alike rfl rfl (fun _ _ _ => .rfl) fun rec _ => rel_refl _ _

/-- What the backend call of a deregistration leaves under the handle of another record. -/
theorem release_alike (hi : Apart (idle s)) {k : RegistrationId} (hne : k ≠ r) {rec rec₂ : RegistrationRecord}
    (hk : s.registrations.lookup k = some rec) (hr : s.registrations.lookup r = some rec₂)
    {backends : Table BackendId Backend} {ok : Bool} (h : Release s rec backends ok) :
    Option.Rel (AlikeAt rec₂.backendHandle) (s.backends.lookup rec₂.backend) (backends.lookup rec₂.backend) := by
  cases h with
  | skipped h => exact rel_refl _ _
  | called b b' bo hv hb he =>
    have hb' : (IBackend.deregisterBuffer b ⟨rec.memoryRegionId, rec.backendHandle⟩).1 = b' := by rw [he]
    subst hb'
    refine put_alike hi hne hk hr hb (fun handle hh => deregisterBuffer_alike b _ hh) fun hempty => ?_
    -- nothing is under the empty handle, so nothing is dropped
    have hnone := hi.unnamed rec.backend
    have hb : (idle s).runtime.backends.lookup rec.backend = some b := hb
    rw [entryAt, hb, Option.bind_some] at hnone
    exact deregisterBuffer_of_none (hempty ▸ hnone)

theorem deregister_undisturbed (hi : Apart (idle s)) {k : RegistrationId} (hne : k ≠ r) :
    Unaffected s (s.deregister k).1 r := by
  rcases deregister_cases s k with ⟨e, he⟩ | ⟨rec, backends, ok, e, hk, hn, hd, hrel, he⟩
  · rw [he]
    exact .of_alike rfl rfl (fun _ _ _ => .rfl) fun rec _ => rel_refl _ _
  · rw [he]
    cases ok with
    | true =>
      refine .of_alike rfl ((removed_lookup _ _ _ _ _).trans (if_neg fun he => hne he.symm)) (fun lease ls hr => ?_)
        fun rec₂ hr => release_alike hi hne hk hr hrel
      show (Table.eraseIf _ s.leases).lookup lease = some ls ↔ _
      rw [Table.lookup_eraseIf, Option.filter_eq_some_iff]
      simp only [hr, Bool.not_eq_true', beq_eq_false_iff_ne, ne_eq, and_iff_left_iff_imp]
      exact fun _ he => hne he.symm
    | false =>
      exact .of_alike rfl ((failed_lookup _ _ _ _ _).trans (if_neg fun he => hne he.symm)) (fun _ _ _ => .rfl)
        fun rec₂ hr => release_alike hi hne hk hr hrel

end

/-! ## The run -/

/-- The ids of the leases stay below the counter that issues them. -/
theorem leasesBelow_run {s : Rdmabuffer Backend} {op : Op Backend} (hi : LeasesBelow s)
    (hn : (op.run s).nextLease ≠ 0) : LeasesBelow (op.run s) := by
  cases op with
  | atomic op =>
    have hstep : (interleaved Backend).step (idle s) (some (.atomic op)) (idle (op.run s)) := rfl
    exact leasesBelow_step hstep hn hi
  | registerBuffer descriptor backend domain env =>
    generalize (Op.registerBuffer descriptor backend domain env).run s = s',
      Op.run_cases s (.registerBuffer descriptor backend domain env) = hs
    cases hs <;> exact hi
  | deregister k =>
    generalize (Op.deregister k).run s = s', Op.run_cases s (.deregister k) = hs
    cases hs with
    | deregisterRefused | deregisterFailed => exact hi
    | deregistered k rec backends hr hn hd hrel =>
      intro lease ls hls
      have hls : (Table.eraseIf _ s.leases).lookup lease = some ls := hls
      rw [Table.lookup_eraseIf, Option.filter_eq_some_iff] at hls
      exact hi lease ls hls.1

theorem leasesBelow_sequential {t : List (Lts.Transition (Rdmabuffer Backend) (Option (Op Backend)))}
    {s : Rdmabuffer Backend} (h : (sequential Backend).Run t s) (hn : ∀ x ∈ t, x.post.nextLease ≠ 0) :
    LeasesBelow s := by
  refine h.inv_of (I := LeasesBelow) (C := fun x => x.post.nextLease ≠ 0) ?_ ?_ hn
  · rintro _ rfl lease ls hls
    cases hls
  · intro s l s' hs hn hi
    cases l with
    | none =>
      have hs : Rehash s s' := hs
      intro lease ls hls
      rw [← Table.lookup_perm hs.leases] at hls
      rw [hs.others]
      exact hi lease ls hls
    | some op =>
      obtain rfl : s' = op.run s := hs
      exact leasesBelow_run hi hn

/-- Operations on one registration do not disturb another, in every sequential run in which no backend runs out of
handles and the counter of lease ids does not turn round. -/
theorem independent (t : List (Lts.Transition (Rdmabuffer Backend) (Option (Op Backend)))) (s : Rdmabuffer Backend)
    (h : (sequential Backend).Run t s) (hb : ∀ x ∈ t, Bounded x.pre ∧ Bounded x.post)
    (hn : ∀ x ∈ t, x.post.nextLease ≠ 0) (op : Op Backend) (r : RegistrationId) (hop : op.isOn s r = false) :
    Unaffected s (op.run s) r := by
  have hi := apart_sequential h hb
  have hleases := leasesBelow_sequential h hn
  cases op with
  | atomic op =>
    cases op with
    | revoke k mode => exact revoke_undisturbed (by simpa [Op.isOn] using hop)
    | rotateKey k => exact rotateKey_undisturbed hi (by simpa [Op.isOn] using hop)
    | acquireLease k env needed => exact acquireLease_undisturbed hleases.free (by simpa [Op.isOn] using hop)
    | releaseLease lease =>
      refine releaseLease_undisturbed fun ls hls => ?_
      simpa [Op.isOn, hls] using hop
    | createBuffer descriptor =>
      refine createBuffer_undisturbed fun rec hr => ?_
      simpa [Op.isOn, hr] using hop
    | destroyProtectionDomain d =>
      refine destroyProtectionDomain_undisturbed fun rec hr => ?_
      simpa [Op.isOn, hr] using hop
    | _ => cases hop
  | registerBuffer => cases hop
  | deregister k => exact deregister_undisturbed hi (by simpa [Op.isOn] using hop)

open Session

/-- The page and another one registered, and a lease on the other. -/
def twoPages : List (Op Backend) :=
  [.registerBuffer page Session.synthetic ⟨1⟩ envelope, .atomic (.createBuffer otherPage),
    .registerBuffer otherPage Session.synthetic ⟨1⟩ envelope, .atomic (.acquireLease ⟨2⟩ envelope 0x08)]

theorem independent_pages : ∃ t, (sequential Backend).Run t (afterOps twoPages) ∧ t.length = 8 ∧
    Unaffected (afterOps twoPages) ((Op.deregister ⟨1⟩).run (afterOps twoPages)) ⟨2⟩ := by
  have hr : (sequential Backend).Run (Rdmabuffer.trace {} (setup.map .atomic ++ twoPages)) (afterOps twoPages) :=
    ⟨{}, rfl, Rdmabuffer.path_run _ _⟩
  exact ⟨_, hr, rfl, independent _ _ hr (by decide +kernel) (by decide +kernel) _ _ (by decide)⟩

/-! ## When the counter of lease ids wraps -/

/-- With at most 258 leases at any time, an acquisition on one registration comes to take the place of the lease on
another. -/
theorem lease_overwritten : ∃ t s r, (sequential Backend).Run t s ∧ (∀ x ∈ t, Bounded x.pre ∧ Bounded x.post) ∧
    (∀ x ∈ t, x.post.leases.entries.length ≤ 258) ∧
    (Op.atomic (.acquireLease r envelope 0x08)).isOn s ⟨1⟩ = false ∧
    ¬Unaffected s ((Op.atomic (.acquireLease r envelope 0x08)).run s) ⟨1⟩ := by
  obtain ⟨t, s, r, n, m, hrun, ht, h, hone⟩ := lease_ids_turned
  obtain ⟨b, rec, hturn, hrec, hf⟩ := h.turning
  obtain ⟨ls, hls, hreg⟩ := hturn.lease
  refine ⟨t, s, r, hrun, fun x hx => ⟨(ht x hx).pre.bounded, (ht x hx).post.bounded⟩,
    fun x hx => (ht x hx).post.leases, beq_eq_false_iff_ne.2 h.other, fun hu => ?_⟩
  have hs : (Op.atomic (.acquireLease r envelope 0x08)).run s = _ := acquireLease_fst s r envelope 0x08
  rw [hrec] at hs
  simp only [hf.grantable hturn, if_true] at hs
  have hkept := (hu.leases ⟨1⟩ ls hreg).2 hls
  rw [hs, Table.lookup_put, if_pos (by rw [hone])] at hkept
  obtain rfl := Option.some.inj hkept
  exact h.other hreg

end RdmaBuffer
