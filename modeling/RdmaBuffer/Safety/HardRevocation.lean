/-
Hard revocation and the backends. `revoke` marks the record and calls no backend, whose entry keeps the key it has: a
backend refuses what was revoked only where the entry was gone or awaiting revalidation already.
-/
import RdmaBuffer.Registry.Access
import RdmaBuffer.Runtime.Execution
import RdmaBuffer.Runtime.Handles

namespace RdmaBuffer

open Rdmabuffer Backend

/-! ## A backend that denies -/

/-- The registry held the key generation for `r` before one of the steps. -/
def HeldBefore (t : List (Lts.Transition (System Backend) (Option (Action Backend)))) (r : RegistrationId)
    (g : RemoteKeyGeneration) : Prop :=
  ∃ z ∈ t, ∃ rec, z.pre.runtime.registrations.lookup r = some rec ∧ rec.remoteKey.keyGeneration = g

/-- The backend allows nothing on the handle of the record with one of the key generations, and a simulated remote
operation does not pick its entry. -/
structure Denies (b : Backend) (rec : RegistrationRecord) (held : RemoteKeyGeneration → Prop) : Prop where
  query : ∀ key kind offset length, held key.remoteKeyGeneration →
    (IBackend.queryRemoteAccess b ⟨rec.memoryRegionId, rec.backendHandle⟩ key kind offset length).2.1 ≠ .allow
  unselected : ∀ sb, b = .synthetic sb → ∀ g, sb.bestHandle g ≠ rec.backendHandle

/-- From every hard revoke that succeeds on, the backend refuses every key that the registry held for the
registration. -/
def RevocationReaches (t : List (Lts.Transition (System Backend) (Option (Action Backend)))) : Prop :=
  ∀ t₁ x t₂, t = t₁ ++ x :: t₂ → ∀ r rec, x.label = some (.atomic (.revoke r .hardRevoke)) →
    x.pre.runtime.registrations.lookup r = some rec → (x.pre.runtime.revoke r .hardRevoke).2.ok = true →
    ∀ y ∈ x :: t₂, ∀ b, y.post.runtime.backends.lookup rec.backend = some b →
      Denies b rec (HeldBefore (t₁ ++ [x]) r)

/-! ## Open entries -/

/-- A synthetic backend scans the entry; a reference backend serves it where it grants reads or writes. -/
def Backend.serves (b : Backend) (e : LiveEntry) : Bool :=
  !b.isReference || accessHas e.granted .remoteRead || accessHas e.granted .remoteWrite

/-- There is an entry that does not await revalidation, and the backend serves it. -/
def openAt (m : Table BackendId Backend) (k : BackendId × StdString) : Bool :=
  (m.lookup k.1).any fun b => (b.live k.2).any fun e => !e.revalidateRequired && b.serves e

theorem openAt_iff {m : Table BackendId Backend} {k : BackendId × StdString} : openAt m k = true ↔
    ∃ b e, m.lookup k.1 = some b ∧ b.live k.2 = some e ∧ e.revalidateRequired = false ∧ b.serves e = true := by
  simp only [openAt, Option.any_eq_true, Bool.and_eq_true, Bool.not_eq_true']
  constructor
  · rintro ⟨b, hb, e, he, hv, hs⟩
    exact ⟨b, e, hb, he, hv, hs⟩
  · rintro ⟨b, e, hb, he, hv, hs⟩
    exact ⟨b, hb, e, he, hv, hs⟩

/-- A hard revoke that succeeds while the entry of the registration is open. -/
def leavesOpen (σ : System Backend) : Option (Action Backend) → Bool
  | some (.atomic (.revoke r .hardRevoke)) =>
    (σ.runtime.registrations.lookup r).any fun rec =>
      rec.lifecycle.isLive && openAt σ.runtime.backends rec.material.key
  | _ => false

/-- Some kind of operation is granted by the entry and supported by the backend at present. -/
def Backend.admits (b : Backend) (e : LiveEntry) : Bool :=
  [OperationKind.write, .read, .atomicCompareSwap].any fun kind =>
    accessHas e.granted (intrinsicRight kind) && b.supports kind

/-- The scan of `simulate_remote` for the generation of the entry ends at the handle. -/
def Backend.selects : Backend → StdString → LiveEntry → Bool
  | .synthetic b, h, e => b.bestHandle e.keyGeneration.value == h
  | .reference _, _, _ => false

/-- A hard revoke that succeeds while the entry of the registration is open and admitted or selected. -/
def leavesAllowed (σ : System Backend) : Option (Action Backend) → Bool
  | some (.atomic (.revoke r .hardRevoke)) =>
    (σ.runtime.registrations.lookup r).any fun rec =>
      rec.lifecycle.isLive && (σ.runtime.backends.lookup rec.backend).any fun b =>
        (b.live rec.backendHandle).any fun e =>
          !e.revalidateRequired && (b.admits e || b.selects rec.backendHandle e)
  | _ => false

/-! ## A backend refuses what is not open -/

theorem serves_of_permits {b : Backend} {e : LiveEntry} {g : RemoteKeyGeneration} {kind : OperationKind}
    {offset length : UInt64} (h : Permits b e g kind offset length) : b.serves e = true := by
  cases b with
  | synthetic b => rfl
  | reference b =>
    have hgranted := h.granted
    have hsupported := h.supported
    unfold Backend.serves
    cases kind with
    | write => rw [show accessHas e.granted .remoteWrite = true from hgranted, Bool.or_true]
    | read => rw [show accessHas e.granted .remoteRead = true from hgranted, Bool.or_true, Bool.true_or]
    | atomicCompareSwap => cases hsupported

theorem denies_of_closed {m : Table BackendId Backend} {rec : RegistrationRecord} {b : Backend}
    (hb : m.lookup rec.backend = some b) (hh : rec.backendHandle ≠ []) (hc : openAt m rec.material.key = false)
    (held : RemoteKeyGeneration → Prop) : Denies b rec held := by
  have hclosed : ∀ e, b.live rec.backendHandle = some e → e.revalidateRequired = false → b.serves e = true → False := by
    intro e he hv hs
    rw [openAt_iff.2 ⟨b, e, hb, he, hv, hs⟩] at hc
    cases hc
  constructor
  · intro key kind offset length _ hallow
    obtain ⟨e, he, hp⟩ := (queryRemoteAccess_allow _ _ _ _ _ _).1 hallow
    exact hclosed e he hp.revalidated (serves_of_permits hp)
  · rintro sb rfl g hsel
    obtain ⟨e, he, -, hv⟩ := bestHandle_spec hsel hh
    exact hclosed e.view (by simp [Backend.live, he]) hv rfl

/-! ## Closed entries stay closed -/

/-- The handle was issued, nobody holds it, and it is not open. -/
structure Shut (k : BackendId × StdString) (mat : Holder → Option Material) (m : Table BackendId Backend) : Prop where
  issued : ∃ b, m.lookup k.1 = some b ∧ IssuedBy b k.2
  unheld : ∀ o x, mat o = some x → x.key ≠ k
  closed : openAt m k = false

section

variable {k : BackendId × StdString} {mat mat' : Holder → Option Material} {m m' : Table BackendId Backend}

theorem closed_of_fades {touched : Option (BackendId × StdString)} {b : Backend} (hf : TableFades m m' touched)
    (hne : touched ≠ some k) (hb : m.lookup k.1 = some b) (hc : openAt m k = false) : openAt m' k = false := by
  by_contra hopen
  obtain ⟨b', e', hb', he', hv, hs⟩ := openAt_iff.1 (by simpa using hopen)
  obtain ⟨b₀, hb₀, hlive⟩ := entryAt_eq_some.1 (hf.current hne (entryAt_eq_some.2 ⟨b', hb', he'⟩) hv)
  obtain rfl := Option.some.inj (hb.symm.trans hb₀)
  have hserves : b.serves e' = true := by
    unfold Backend.serves at hs ⊢
    rw [← hf.kind _ b b' hb hb']
    exact hs
  rw [openAt_iff.2 ⟨b, e', hb, hlive, hv, hserves⟩] at hc
  cases hc

/-- No step opens an entry that nobody holds. -/
theorem Shut.step (h : Shut k mat m) (hs : HandleStep mat m mat' m') : Shut k mat' m' := by
  obtain ⟨b₀, hb₀, hi₀⟩ := h.issued
  cases hs with
  | shed hsub ha hf =>
    obtain ⟨b', hb', hadv⟩ := ha _ b₀ hb₀
    exact ⟨⟨b', hb', hi₀.advance hadv⟩, fun o x hx => h.unheld o x (hsub o x hx), closed_of_fades hf nofun hb₀ h.closed⟩
  | rotate o x b region g ho hb hmat hm =>
    subst hmat hm
    have hadv : Advances m (Table.put x.backend (IBackend.rotateKey b ⟨region, x.handle⟩ g).1 m) :=
      .put hb (rotateKey_advance b _ g)
    obtain ⟨b', hb', hadv'⟩ := hadv _ b₀ hb₀
    refine ⟨⟨b', hb', hi₀.advance hadv'⟩, ?_, ?_⟩
    · intro o₁ x₁ hx₁
      rcases update_some hx₁ with ⟨-, rfl⟩ | ⟨-, hold⟩
      · exact h.unheld o x ho
      · exact h.unheld o₁ x₁ hold
    · refine closed_of_fades (.put hb (rotateKey_fades b ⟨region, x.handle⟩ g)) ?_ hb₀ h.closed
      intro hk
      exact h.unheld o x ho (Option.some.inj hk)
  | issue o id b b' d bout hb hr hroom hkind hmat hm =>
    subst hmat hm
    have hadv : Advances m (Table.put id b' m) := .put hb (hr.advance_of_room hroom)
    obtain ⟨b₁, hb₁, hadv'⟩ := hadv _ b₀ hb₀
    -- the handle that is issued was not issued before
    have hfresh : (id, b.handleAt b.nextSeq.toNat) ≠ k := by
      rintro rfl
      obtain rfl := Option.some.inj (hb.symm.trans hb₀)
      exact issued_ne_next hroom hi₀ rfl
    refine ⟨⟨b₁, hb₁, hi₀.advance hadv'⟩, ?_, ?_⟩
    · intro o₁ x₁ hx₁
      rcases update_some hx₁ with ⟨-, rfl⟩ | ⟨-, hold⟩
      · rw [Material.key, hr.handle]
        exact hfresh
      · exact h.unheld o₁ x₁ hold
    · refine closed_of_fades (.put hb (Fades.of_update hkind hr.live)) ?_ hb₀ h.closed
      intro hk
      exact hfresh (Option.some.inj hk)
  | move o o' x ho hmat hm =>
    subst hmat hm
    refine ⟨h.issued, ?_, h.closed⟩
    intro o₁ x₁ hx₁
    rcases update_some hx₁ with ⟨-, rfl⟩ | ⟨-, hold⟩
    · exact h.unheld o x₁ ho
    · exact h.unheld o₁ x₁ (update_none_some hold).2

end

/-! ## The run -/

/-- A hard revoke of a registration whose entry is closed shuts its handle. -/
theorem shut_hardRevoke {σ : System Backend} (hi : Handled σ.material σ.runtime.backends) {r : RegistrationId}
    {rec : RegistrationRecord} (hr : σ.runtime.registrations.lookup r = some rec) (hl : rec.lifecycle.isLive = true)
    (hc : openAt σ.runtime.backends rec.material.key = false) :
    Shut rec.material.key (σ.exec (.atomic (.revoke r .hardRevoke))).material
      (σ.exec (.atomic (.revoke r .hardRevoke))).runtime.backends := by
  obtain ⟨-, hregs, hbackends⟩ := revoke_live hr hl .hardRevoke
  have ho : σ.material (.record r) = some rec.material := recordMaterial_eq_some.2 ⟨rec, hr, hl, rfl⟩
  have hpost : (σ.exec (.atomic (.revoke r .hardRevoke))).runtime.backends = σ.runtime.backends := hbackends
  rw [hpost]
  refine ⟨hi.issued _ _ ho, ?_, hc⟩
  intro o x hx hkey
  have hold : σ.material o = some x :=
    effect_sheds (revoke_effect σ.runtime r .hardRevoke) (fun k => nofun) o x hx
  obtain rfl := hi.unique o (.record r) x rec.material hold ho hkey
  have hx : recordMaterial ((σ.runtime.revoke r .hardRevoke).1.registrations.lookup r) = some x := hx
  rw [hregs, Table.lookup_put_self, recordMaterial_of_dead (by rintro rec' he; cases he; rfl)] at hx
  cases hx

/-- What is shut stays shut. -/
theorem shut_path {σ σ' : System Backend} {t : List (Lts.Transition (System Backend) (Option (Action Backend)))}
    (h : (interleaved Backend).Path σ t σ') (hb : ∀ x ∈ t, Bounded x.pre.runtime ∧ Bounded x.post.runtime)
    (hn : Named σ) (hi : Handled σ.material σ.runtime.backends) {k : BackendId × StdString}
    (hs : Shut k σ.material σ.runtime.backends) : Shut k σ'.material σ'.runtime.backends := by
  have hall : Named σ' ∧ Handled σ'.material σ'.runtime.backends ∧ Shut k σ'.material σ'.runtime.backends := by
    refine h.inv_of
      (I := fun σ => Named σ ∧ Handled σ.material σ.runtime.backends ∧ Shut k σ.material σ.runtime.backends)
      (C := fun x => Bounded x.pre.runtime ∧ Bounded x.post.runtime) ?_ hb ⟨hn, hi, hs⟩
    intro σ l σ' hstep hc hi
    have hstep' := handleStep hstep hc.1 hc.2 hi.1 hi.2.1
    exact ⟨named_step hstep hi.1, hi.2.1.step hstep', hi.2.2.step hstep'⟩
  exact hall.2.2

/-- The handle of a registration that a step of a run hard-revokes while its entry is closed is shut from then on. -/
theorem shut_run {t₁ t₂ : List (Lts.Transition (System Backend) (Option (Action Backend)))}
    {x y : Lts.Transition (System Backend) (Option (Action Backend))} {σ : System Backend}
    (h : (interleaved Backend).Run (t₁ ++ x :: t₂) σ)
    (hb : ∀ z ∈ t₁ ++ x :: t₂, Bounded z.pre.runtime ∧ Bounded z.post.runtime) {r : RegistrationId}
    {rec : RegistrationRecord} (hlabel : x.label = some (.atomic (.revoke r .hardRevoke)))
    (hr : x.pre.runtime.registrations.lookup r = some rec) (hl : rec.lifecycle.isLive = true)
    (hc : openAt x.pre.runtime.backends rec.material.key = false) (hy : y ∈ x :: t₂) :
    Shut rec.material.key y.post.material y.post.runtime.backends := by
  obtain ⟨s₀, h₀, hp⟩ := h
  obtain ⟨u, hp₁, hp₂⟩ := hp.split t₁ (x :: t₂) rfl
  obtain ⟨rfl, hstep, hp₃⟩ := hp₂.head
  obtain ⟨hn, hi⟩ := handled_run ⟨s₀, h₀, hp₁⟩ fun z hz => hb z (List.mem_append_left _ hz)
  have hpost : x.post = x.pre.exec (.atomic (.revoke r .hardRevoke)) := by
    rw [hlabel] at hstep
    exact hstep
  have hshut : Shut rec.material.key x.post.material x.post.runtime.backends := by
    rw [hpost]
    exact shut_hardRevoke hi hr hl hc
  rcases List.mem_cons.1 hy with rfl | hy
  · exact hshut
  · obtain ⟨t₃, hpre, hp₄⟩ := hp₃.upto hy
    obtain ⟨hbx, hbx'⟩ := hb x (List.mem_append_right _ List.mem_cons_self)
    refine shut_path hp₄ ?_ (named_step hstep hn) (hi.step (handleStep hstep hbx hbx' hn hi)) hshut
    intro z hz
    exact hb z (List.mem_append_right _ (List.mem_cons_of_mem _ (hpre.subset hz)))

/-! ## Entries that stay allowed -/

/-- An entry that the backend admits answers its own generation with ALLOW. -/
theorem query_of_admits {b : Backend} {handle : StdString} {e : LiveEntry} (he : b.live handle = some e)
    (hv : e.revalidateRequired = false) (hu : e.revoked = false) (ha : b.admits e = true) (region : MemoryRegionId) :
    ∃ kind, (IBackend.queryRemoteAccess b ⟨region, handle⟩
      { remoteKeyGeneration := e.keyGeneration } kind 0 0).2.1 = .allow := by
  obtain ⟨kind, -, hk⟩ := List.any_eq_true.1 ha
  obtain ⟨hgranted, hsupported⟩ := (Bool.and_eq_true _ _).mp hk
  refine ⟨kind, (queryRemoteAccess_allow _ _ _ _ _ _).2 ⟨e, he, ?_⟩⟩
  constructor
  · exact hv
  · exact hu
  · rfl
  · simp
  · exact hgranted
  · exact hsupported

/-- A hard revoke that leaves an entry admitted or selected does not reach the backend. -/
theorem not_reaches_of_leavesAllowed {t : List (Lts.Transition (System Backend) (Option (Action Backend)))}
    {σ : System Backend} (h : (interleaved Backend).Run t σ)
    (hb : ∀ x ∈ t, Bounded x.pre.runtime ∧ Bounded x.post.runtime)
    {x : Lts.Transition (System Backend) (Option (Action Backend))} (hx : x ∈ t)
    (ha : leavesAllowed x.pre x.label = true) : ¬RevocationReaches t := by
  intro hreach
  obtain ⟨t₁, t₂, rfl, hrun, hstep, -⟩ := h.at_mem hx
  obtain ⟨-, hi⟩ := handled_run hrun fun z hz => hb z (List.mem_append_left _ hz)
  unfold leavesAllowed at ha
  split at ha
  · rename_i r hlabel
    simp only [Option.any_eq_true, Bool.and_eq_true, Bool.not_eq_true'] at ha
    obtain ⟨rec, hr, hl, b, hbk, e, he, hv, hopen⟩ := ha
    obtain ⟨hok, -, hbackends⟩ := revoke_live hr hl .hardRevoke
    -- the revocation leaves the backends as they are
    have hpost : x.post.runtime.backends.lookup rec.backend = some b := by
      rw [hlabel] at hstep
      have hexec : x.post = x.pre.exec (.atomic (.revoke r .hardRevoke)) := hstep
      rw [hexec]
      exact (congrArg (AList.lookup rec.backend) hbackends).trans hbk
    obtain ⟨hquery, hunselected⟩ := hreach t₁ x t₂ rfl r rec hlabel hr hok x List.mem_cons_self b hpost
    have hentry : entryAt x.pre.runtime.backends rec.material.key = some e := entryAt_eq_some.2 ⟨b, hbk, he⟩
    rcases (Bool.or_eq_true _ _).mp hopen with hadmits | hselects
    · have ho : x.pre.material (.record r) = some rec.material := recordMaterial_eq_some.2 ⟨rec, hr, hl, rfl⟩
      obtain ⟨kind, hallow⟩ := query_of_admits he hv (hi.unrevoked _ e hentry) hadmits rec.memoryRegionId
      refine hquery _ kind 0 0 ⟨x, by simp, rec, hr, ?_⟩ hallow
      exact (hi.agree _ _ e ho hentry hv).symm
    · cases b with
      | reference b => cases hselects
      | synthetic b => exact hunselected b rfl e.keyGeneration.value (beq_iff_eq.1 hselects)
  · cases ha

/-- Hard revocation reaches the backend in a run where no hard revoke finds the entry of its registration open, and not
where one finds it admitted or selected. -/
theorem hard_revocation_reaches (t : List (Lts.Transition (System Backend) (Option (Action Backend))))
    (σ : System Backend) (h : (interleaved Backend).Run t σ)
    (hb : ∀ x ∈ t, Bounded x.pre.runtime ∧ Bounded x.post.runtime) :
    ((∀ x ∈ t, leavesOpen x.pre x.label = false) → RevocationReaches t) ∧
      ∀ x ∈ t, leavesAllowed x.pre x.label = true → ¬RevocationReaches t := by
  constructor
  · rintro hclosed t₁ x t₂ rfl r rec hlabel hr hok y hy b hbk
    obtain ⟨rec₀, hr₀, hl, -⟩ := revoke_ok hok
    obtain rfl := Option.some.inj (hr.symm.trans hr₀)
    have hc : openAt x.pre.runtime.backends rec.material.key = false := by
      have hx := hclosed x (List.mem_append_right _ List.mem_cons_self)
      simpa [leavesOpen, hlabel, hr, hl] using hx
    have hshut := shut_run h hb hlabel hr hl hc hy
    -- its handle was issued, so it is not the empty one that a scan without a match returns
    obtain ⟨b', -, n, -, hn⟩ := hshut.issued
    have hne : rec.backendHandle ≠ [] := fun he => handleAt_ne_nil b' n (hn.trans he)
    exact denies_of_closed hbk hne hshut.closed _
  · intro x hx ha
    exact not_reaches_of_leavesAllowed h hb hx ha

open Session

/-- The transport generation rolls over, and the registration is then hard-revoked. -/
def revokedAfterRollover : List (Action Backend) :=
  registration 0 page ++
    [.atomic (.control synthetic (.synthetic .rolloverTransportGeneration)), .atomic (.revoke ⟨1⟩ .hardRevoke)]

theorem hard_revocation_reaches_rollover : ∃ t, (interleaved Backend).Run t (after revokedAfterRollover) ∧
    t.length = 9 ∧ RevocationReaches t := by
  have hr : (interleaved Backend).Run _ (after revokedAfterRollover) := ⟨{}, rfl, System.path_run _ _⟩
  exact ⟨_, hr, rfl, (hard_revocation_reaches _ _ hr (by decide +kernel)).1 (by decide +kernel)⟩

/-- The registration is hard-revoked. -/
def hardRevokedPage : List (Action Backend) :=
  registration 0 page ++ [.atomic (.revoke ⟨1⟩ .hardRevoke)]

/-- The backend still allows a write with the key that was revoked, and a simulated write with it is
made on the entry. -/
theorem key_survives_hardRevoke : ∃ t rec b, (interleaved Backend).Run t (after hardRevokedPage) ∧
    ¬RevocationReaches t ∧ (after (registration 0 page)).runtime.registrations.lookup ⟨1⟩ = some rec ∧
    (after hardRevokedPage).runtime.backends.lookup rec.backend = some (.synthetic b) ∧
    (b.queryRemoteAccess ⟨rec.memoryRegionId, rec.backendHandle⟩ (backDummyRemoteKey rec) .write 0 64).2.1 = .allow ∧
    b.bestHandle rec.remoteKey.keyGeneration.value = rec.backendHandle ∧
    (b.simulateRemote .write 0 64 rec.remoteKey.keyGeneration.value).map (fun o => o.1) = some .allow := by
  have hr : (interleaved Backend).Run _ (after hardRevokedPage) := ⟨{}, rfl, System.path_run _ _⟩
  refine ⟨_, _, _, hr, ?_, rfl, rfl, by decide +kernel, by decide +kernel, by decide +kernel⟩
  have hleft : ∃ x ∈ ({} : System Backend).trace ((setup.map .atomic) ++ hardRevokedPage),
      leavesAllowed x.pre x.label = true := by decide +kernel
  obtain ⟨x, hx, ha⟩ := hleft
  exact not_reaches_of_leavesAllowed hr (by decide +kernel) hx ha

end RdmaBuffer
