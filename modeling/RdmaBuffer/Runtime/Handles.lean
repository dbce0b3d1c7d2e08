/-
The handles of the attached backends: which live record or call in flight holds one, that no two hold the same, and
that the key of a live entry is the one its holder has.
-/
import RdmaBuffer.Runtime.InFlight
import RdmaBuffer.Runtime.Ledgers
import RdmaBuffer.Runtime.RecordStep

namespace RdmaBuffer

open Rdmabuffer Backend

/-! ## Entries -/

/-- What the backends hold under a backend id and a handle. -/
def entryAt (m : Table BackendId Backend) (k : BackendId × StdString) : Option LiveEntry :=
  (m.lookup k.1).bind fun b => b.live k.2

theorem entryAt_eq_some {m : Table BackendId Backend} {k : BackendId × StdString} {e : LiveEntry} :
    entryAt m k = some e ↔ ∃ b, m.lookup k.1 = some b ∧ b.live k.2 = some e :=
  Option.bind_eq_some_iff

/-- The class of the backend. -/
def Backend.isReference : Backend → Bool
  | .reference _ => true
  | .synthetic _ => false

/-- What is left of an entry: it is as it was, or it awaits revalidation. -/
structure LeftOver (e e' : LiveEntry) : Prop where
  revoked : e'.revoked = e.revoked
  same : e'.revalidateRequired = true ∨ e' = e

theorem LeftOver.refl (e : LiveEntry) : LeftOver e e := ⟨rfl, .inr rfl⟩

/-- Every entry of the backend, but the one that is touched, is left over from an entry it had. -/
structure Fades (b b' : Backend) (touched : Option StdString) : Prop where
  kind : b'.isReference = b.isReference
  entry : ∀ h, touched ≠ some h → ∀ e', b'.live h = some e' → ∃ e, b.live h = some e ∧ LeftOver e e'

theorem Fades.refl (b : Backend) (touched : Option StdString) : Fades b b touched :=
  ⟨rfl, fun _ _ e' he => ⟨e', he, .refl e'⟩⟩

theorem Fades.of_update {b b' : Backend} {h : StdString} {o : Option LiveEntry} (hk : b'.isReference = b.isReference)
    (hl : b'.live = Function.update b.live h o) : Fades b b' (some h) := by
  refine ⟨hk, fun h' hne e' he => ?_⟩
  rw [hl, Function.update_of_ne (by rintro rfl; exact hne rfl)] at he
  exact ⟨e', he, .refl e'⟩

/-! A method leaves the class of the backend alone. -/

theorem rotateKey_kind (b : Backend) (handle : RegisterHandle) (g : RemoteKeyGeneration) :
    (IBackend.rotateKey b handle g).1.isReference = b.isReference := by
  cases b with
  | synthetic b => rfl
  | reference b => rfl

theorem registerBuffer_kind (b : Backend) (d : BufferDescriptor) (ctx : RegistrationContext) :
    (IBackend.registerBuffer b d ctx).1.isReference = b.isReference := by
  cases b with
  | synthetic b => rfl
  | reference b => rfl

theorem deregisterBuffer_kind (b : Backend) (handle : RegisterHandle) :
    (IBackend.deregisterBuffer b handle).1.isReference = b.isReference := by
  cases b with
  | synthetic b => rfl
  | reference b => rfl

theorem rotateKey_fades (b : Backend) (handle : RegisterHandle) (g : RemoteKeyGeneration) :
    Fades b (IBackend.rotateKey b handle g).1 (some handle.handle) :=
  .of_update (rotateKey_kind b handle g) (rotateKey_spec b handle g).2

theorem deregisterBuffer_fades {b b' : Backend} {handle : RegisterHandle} {bo : RegisterOutcome}
    (h : IBackend.deregisterBuffer b handle = (b', bo)) : Fades b b' none := by
  have hkind := deregisterBuffer_kind b handle
  rw [h] at hkind
  obtain ⟨-, hl, -⟩ := deregisterBuffer_spec h
  refine ⟨hkind, fun k _ e' he => ?_⟩
  rw [hl, Function.update_apply] at he
  split at he
  · cases he
  · exact ⟨e', he, .refl e'⟩

/-- A transport rollover lets every entry await revalidation, a restart drops them, the other controls leave them. -/
theorem control_fades (c : Backend.Control) (b : Backend) : Fades b (Backend.control c b) none := by
  cases b with
  | reference b => cases c <;> exact ⟨rfl, fun _ _ e' he => ⟨e', he, .refl e'⟩⟩
  | synthetic b =>
    cases c with
    | advanceBackendGeneration => exact ⟨rfl, fun _ _ e' he => ⟨e', he, .refl e'⟩⟩
    | synthetic c =>
      cases c with
      | rolloverTransportGeneration =>
        refine ⟨rfl, fun h _ e' he => ?_⟩
        have he : ((Table.mapVals (fun _ e =>
            { e with revalidateRequired := true, keyGeneration := StrongGeneration.next e.keyGeneration })
            b.entries).lookup h).map SyntheticEntry.view = some e' := he
        rw [Table.lookup_mapVals, Option.map_map, Option.map_eq_some_iff] at he
        obtain ⟨e, hl, rfl⟩ := he
        exact ⟨e.view, by simp [live, hl], rfl, .inl rfl⟩
      | simulateBackendRestart =>
        refine ⟨rfl, fun h _ e' he => ?_⟩
        cases he
      | _ => exact ⟨rfl, fun _ _ e' he => ⟨e', he, .refl e'⟩⟩

/-- Every entry of the backends, but the one that is touched, is left over from an entry they had. -/
structure TableFades (m m' : Table BackendId Backend) (touched : Option (BackendId × StdString)) : Prop where
  kind : ∀ id b b', m.lookup id = some b → m'.lookup id = some b' → b'.isReference = b.isReference
  entry : ∀ k, touched ≠ some k → ∀ e', entryAt m' k = some e' → ∃ e, entryAt m k = some e ∧ LeftOver e e'

/-- An entry that is not touched and does not await revalidation is as it was. -/
theorem TableFades.current {m m' : Table BackendId Backend} {touched : Option (BackendId × StdString)}
    (hf : TableFades m m' touched) {k : BackendId × StdString} (hne : touched ≠ some k) {e : LiveEntry}
    (he : entryAt m' k = some e) (hv : e.revalidateRequired = false) : entryAt m k = some e := by
  obtain ⟨e₀, he₀, hleft⟩ := hf.entry k hne e he
  rcases hleft.same with hre | rfl
  · rw [hv] at hre
    cases hre
  · exact he₀

theorem TableFades.unrevoked {m m' : Table BackendId Backend} {touched : Option (BackendId × StdString)}
    (hf : TableFades m m' touched) {k : BackendId × StdString} (hne : touched ≠ some k)
    (h : ∀ e, entryAt m k = some e → e.revoked = false) {e : LiveEntry} (he : entryAt m' k = some e) :
    e.revoked = false := by
  obtain ⟨e₀, he₀, hleft⟩ := hf.entry k hne e he
  rw [hleft.revoked]
  exact h e₀ he₀

theorem TableFades.of_lookup {m m' : Table BackendId Backend} (h : ∀ id, m'.lookup id = m.lookup id)
    (touched : Option (BackendId × StdString)) : TableFades m m' touched := by
  constructor
  · intro id b b' hb hb'
    rw [h, hb] at hb'
    rw [Option.some.inj hb']
  · intro k _ e' he
    unfold entryAt at he
    rw [h] at he
    exact ⟨e', he, .refl e'⟩

theorem TableFades.put {m : Table BackendId Backend} {id : BackendId} {b b' : Backend} {touched : Option StdString}
    (hb : m.lookup id = some b) (h : Fades b b' touched) :
    TableFades m (Table.put id b' m) (touched.map fun handle => (id, handle)) := by
  constructor
  · intro id₀ b₀ b₁ hb₀ hb₁
    rcases Table.lookup_put_some hb₁ with ⟨hid, rfl⟩ | ⟨-, hb₁⟩
    · rw [hid, hb] at hb₀
      rw [← Option.some.inj hb₀]
      exact h.kind
    · rw [hb₀] at hb₁
      rw [Option.some.inj hb₁]
  · rintro ⟨id₀, handle⟩ hne e' he
    obtain ⟨b₀, hb₀, hlive⟩ := entryAt_eq_some.1 he
    have hb₀ : (Table.put id b' m).lookup id₀ = some b₀ := hb₀
    rcases Table.lookup_put_some hb₀ with ⟨hid, rfl⟩ | ⟨-, hb₀⟩
    · have hnot : touched ≠ some handle := by
        rintro rfl
        exact hne (by rw [hid]; rfl)
      obtain ⟨e, hl, hleft⟩ := h.entry handle hnot e' hlive
      exact ⟨e, entryAt_eq_some.2 ⟨b, hid ▸ hb, hl⟩, hleft⟩
    · exact ⟨e', entryAt_eq_some.2 ⟨b₀, hb₀, hlive⟩, .refl e'⟩

theorem TableFades.attach {m : Table BackendId Backend} {id : BackendId} {b : Backend} (hn : m.lookup id = none)
    (hl : b.live = fun _ => none) : TableFades m (Table.put id b m) none := by
  constructor
  · intro id₀ b₀ b₁ hb₀ hb₁
    rw [Table.lookup_put, if_neg (by rintro rfl; rw [hn] at hb₀; cases hb₀), hb₀] at hb₁
    rw [Option.some.inj hb₁]
  · rintro ⟨id₀, handle⟩ - e' he
    obtain ⟨b₀, hb₀, hlive⟩ := entryAt_eq_some.1 he
    have hb₀ : (Table.put id b m).lookup id₀ = some b₀ := hb₀
    rcases Table.lookup_put_some hb₀ with ⟨-, rfl⟩ | ⟨-, hb₀⟩
    · rw [hl] at hlive
      cases hlive
    · exact ⟨e', entryAt_eq_some.2 ⟨b₀, hb₀, hlive⟩, .refl e'⟩

/-! ## Who holds a handle -/

/-- A live record, or a client whose registration the backend has made and no one has committed. -/
inductive Holder
  | record (r : RegistrationId)
  | client (c : Nat)
  deriving DecidableEq

/-- The handle that a holder has from a backend, and the generation of its key. -/
structure Material where
  backend : BackendId
  handle : StdString
  keyGeneration : RemoteKeyGeneration

def Material.key (x : Material) : BackendId × StdString := (x.backend, x.handle)

def RegistrationRecord.material (rec : RegistrationRecord) : Material :=
  { backend := rec.backend, handle := rec.backendHandle, keyGeneration := rec.remoteKey.keyGeneration }

def recordMaterial (o : Option RegistrationRecord) : Option Material :=
  o.bind fun rec => if rec.lifecycle.isLive then some rec.material else none

def clientMaterial : Option InFlight → Option Material
  | some (.registered p bout) =>
    some { backend := p.backend, handle := bout.handle, keyGeneration := bout.keys.remoteKeyGeneration }
  | _ => none

def System.material {β : Type} (σ : System β) : Holder → Option Material
  | .record r => recordMaterial (σ.runtime.registrations.lookup r)
  | .client c => clientMaterial (σ.clients c)

theorem recordMaterial_eq_some {o : Option RegistrationRecord} {x : Material} :
    recordMaterial o = some x ↔ ∃ rec, o = some rec ∧ rec.lifecycle.isLive = true ∧ rec.material = x := by
  unfold recordMaterial
  rw [Option.bind_eq_some_iff]
  constructor
  · rintro ⟨rec, ho, hx⟩
    split at hx
    · exact ⟨rec, ho, ‹_›, Option.some.inj hx⟩
    · cases hx
  · rintro ⟨rec, ho, hl, rfl⟩
    exact ⟨rec, ho, if_pos hl⟩

/-- The holders have handles that their backends issued, no two the same, with the keys of the live entries; and no
entry is revoked. -/
structure Handled (mat : Holder → Option Material) (m : Table BackendId Backend) : Prop where
  issued : ∀ o x, mat o = some x → ∃ b, m.lookup x.backend = some b ∧ IssuedBy b x.handle
  unique : ∀ o o' x x', mat o = some x → mat o' = some x' → x.key = x'.key → o = o'
  agree : ∀ o x e, mat o = some x → entryAt m x.key = some e → e.revalidateRequired = false →
    e.keyGeneration = x.keyGeneration
  unrevoked : ∀ k e, entryAt m k = some e → e.revoked = false

/-- What a step does to the handles: some are given up, a key is rotated, a handle is issued to a client, or a client
commits what it holds to a record. -/
inductive HandleStep (mat : Holder → Option Material) (m : Table BackendId Backend) (mat' : Holder → Option Material)
    (m' : Table BackendId Backend) : Prop
  | shed (hsub : ∀ o x, mat' o = some x → mat o = some x) (ha : Advances m m') (hf : TableFades m m' none)
  | rotate (o : Holder) (x : Material) (b : Backend) (region : MemoryRegionId) (g : RemoteKeyGeneration)
      (ho : mat o = some x) (hb : m.lookup x.backend = some b)
      (hmat : mat' = Function.update mat o (some { x with keyGeneration := g }))
      (hm : m' = Table.put x.backend (IBackend.rotateKey b ⟨region, x.handle⟩ g).1 m)
  | issue (o : Holder) (id : BackendId) (b b' : Backend) (d : BufferDescriptor) (bout : BackendRegistration)
      (hb : m.lookup id = some b) (hr : Registered b d b' bout) (hroom : b.HasRoom)
      (hkind : b'.isReference = b.isReference)
      (hmat : mat' = Function.update mat o
        (some { backend := id, handle := bout.handle, keyGeneration := bout.keys.remoteKeyGeneration }))
      (hm : m' = Table.put id b' m)
  | move (o o' : Holder) (x : Material) (ho : mat o = some x)
      (hmat : mat' = Function.update (Function.update mat o none) o' (some x)) (hm : m' = m)

/-! ## What a step keeps -/

section Keep

variable {mat mat' : Holder → Option Material} {m m' : Table BackendId Backend}

theorem issued_advances {x : Material} (ha : Advances m m')
    (h : ∃ b, m.lookup x.backend = some b ∧ IssuedBy b x.handle) :
    ∃ b, m'.lookup x.backend = some b ∧ IssuedBy b x.handle := by
  obtain ⟨b, hb, hi⟩ := h
  obtain ⟨b', hb', hadv⟩ := ha _ b hb
  exact ⟨b', hb', hi.advance hadv⟩

theorem Handled.shed (h : Handled mat m) (hsub : ∀ o x, mat' o = some x → mat o = some x) (ha : Advances m m')
    (hf : TableFades m m' none) : Handled mat' m' where
  issued o x hx := issued_advances ha (h.issued o x (hsub o x hx))
  unique o o' x x' hx hx' := h.unique o o' x x' (hsub o x hx) (hsub o' x' hx')
  agree o x e hx he hv := by
    have hold := hf.current nofun he hv
    exact h.agree o x e (hsub o x hx) hold hv
  unrevoked k e he := by
    apply hf.unrevoked nofun _ he
    exact h.unrevoked k

/-- Who holds something after one holder was given it. -/
theorem update_some {o o₁ : Holder} {x x₁ : Material} (h : Function.update mat o (some x) o₁ = some x₁) :
    (o₁ = o ∧ x₁ = x) ∨ (o₁ ≠ o ∧ mat o₁ = some x₁) := by
  rw [Function.update_apply] at h
  split at h
  · exact .inl ⟨‹_›, (Option.some.inj h).symm⟩
  · exact .inr ⟨‹_›, h⟩

/-- Giving a holder a key that nobody else has keeps the keys apart. -/
theorem unique_update {o : Holder} {x : Material}
    (h : ∀ o₁ o₂ x₁ x₂, mat o₁ = some x₁ → mat o₂ = some x₂ → x₁.key = x₂.key → o₁ = o₂)
    (hx : ∀ o₁ x₁, o₁ ≠ o → mat o₁ = some x₁ → x₁.key ≠ x.key) :
    ∀ o₁ o₂ x₁ x₂, Function.update mat o (some x) o₁ = some x₁ → Function.update mat o (some x) o₂ = some x₂ →
      x₁.key = x₂.key → o₁ = o₂ := by
  intro o₁ o₂ x₁ x₂ hx₁ hx₂ hkey
  rcases update_some hx₁ with ⟨rfl, rfl⟩ | ⟨hne₁, hold₁⟩
  · rcases update_some hx₂ with ⟨rfl, rfl⟩ | ⟨hne₂, hold₂⟩
    · rfl
    · exact absurd hkey.symm (hx o₂ x₂ hne₂ hold₂)
  · rcases update_some hx₂ with ⟨rfl, rfl⟩ | ⟨hne₂, hold₂⟩
    · exact absurd hkey (hx o₁ x₁ hne₁ hold₁)
    · exact h o₁ o₂ x₁ x₂ hold₁ hold₂ hkey

/-- A holder that gave up what it had holds nothing, the others hold what they held. -/
theorem update_none_some {o o₁ : Holder} {x₁ : Material} (h : Function.update mat o none o₁ = some x₁) :
    o₁ ≠ o ∧ mat o₁ = some x₁ := by
  rw [Function.update_apply] at h
  split at h
  · cases h
  · exact ⟨‹_›, h⟩

theorem Handled.move (h : Handled mat m) {o o' : Holder} {x : Material} (ho : mat o = some x)
    (hmat : mat' = Function.update (Function.update mat o none) o' (some x)) : Handled mat' m := by
  subst hmat
  constructor
  · intro o₁ x₁ hx₁
    rcases update_some hx₁ with ⟨-, rfl⟩ | ⟨-, hold⟩
    · exact h.issued o x₁ ho
    · exact h.issued o₁ x₁ (update_none_some hold).2
  · refine unique_update ?_ ?_
    · intro o₁ o₂ x₁ x₂ hx₁ hx₂
      exact h.unique o₁ o₂ x₁ x₂ (update_none_some hx₁).2 (update_none_some hx₂).2
    · intro o₁ x₁ _ hx₁ hkey
      obtain ⟨hne, hold⟩ := update_none_some hx₁
      exact hne (h.unique o₁ o x₁ x hold ho hkey)
  · intro o₁ x₁ e hx₁
    rcases update_some hx₁ with ⟨-, rfl⟩ | ⟨-, hold⟩
    · exact h.agree o x₁ e ho
    · exact h.agree o₁ x₁ e (update_none_some hold).2
  · exact h.unrevoked

theorem entryAt_put_self {id : BackendId} {b : Backend} {handle : StdString} :
    entryAt (Table.put id b m) (id, handle) = b.live handle := by
  unfold entryAt
  rw [Table.lookup_put_self]
  rfl

theorem Handled.rotate (h : Handled mat m) {o : Holder} {x : Material} {b : Backend} {region : MemoryRegionId}
    {g : RemoteKeyGeneration} (ho : mat o = some x) (hb : m.lookup x.backend = some b) :
    Handled (Function.update mat o (some { x with keyGeneration := g }))
      (Table.put x.backend (IBackend.rotateKey b ⟨region, x.handle⟩ g).1 m) := by
  obtain ⟨-, hlive⟩ := rotateKey_spec b ⟨region, x.handle⟩ g
  have hf := TableFades.put hb (rotateKey_fades b ⟨region, x.handle⟩ g)
  have hadv : Advances m (Table.put x.backend (IBackend.rotateKey b ⟨region, x.handle⟩ g).1 m) :=
    .put hb (rotateKey_advance b _ g)
  -- the rotated entry
  have hself : ∀ e, entryAt (Table.put x.backend (IBackend.rotateKey b ⟨region, x.handle⟩ g).1 m) x.key = some e →
      ∃ e₀, entryAt m x.key = some e₀ ∧ e = { e₀ with keyGeneration := g, revalidateRequired := false } := by
    intro e he
    rw [Material.key, entryAt_put_self, hlive, Function.update_self, Option.map_eq_some_iff] at he
    obtain ⟨e₀, he₀, rfl⟩ := he
    exact ⟨e₀, entryAt_eq_some.2 ⟨b, hb, he₀⟩, rfl⟩
  have hothers : ∀ o₁ x₁, o₁ ≠ o → mat o₁ = some x₁ → x₁.key ≠ x.key :=
    fun o₁ x₁ hne hold hkey => hne (h.unique o₁ o x₁ x hold ho hkey)
  constructor
  · intro o₁ x₁ hx₁
    rcases update_some hx₁ with ⟨rfl, rfl⟩ | ⟨-, hold⟩
    · exact issued_advances hadv (x := x) (h.issued _ x ho)
    · exact issued_advances hadv (h.issued o₁ x₁ hold)
  · exact unique_update h.unique hothers
  · intro o₁ x₁ e hx₁ he hv
    rcases update_some hx₁ with ⟨rfl, rfl⟩ | ⟨hne, hold⟩
    · obtain ⟨e₀, -, rfl⟩ := hself e he
      rfl
    · have hapart : some (x.backend, x.handle) ≠ some x₁.key :=
        fun hk => hothers o₁ x₁ hne hold (Option.some.inj hk).symm
      exact h.agree o₁ x₁ e hold (hf.current hapart he hv) hv
  · intro k e he
    by_cases hk : k = x.key
    · subst hk
      obtain ⟨e₀, he₀, rfl⟩ := hself e he
      exact h.unrevoked _ e₀ he₀
    · exact hf.unrevoked (fun he => hk (Option.some.inj he).symm) (h.unrevoked k) he

/-- The next handle is none that was issued. -/
theorem issued_ne_next {b : Backend} {handle : StdString} (hroom : b.HasRoom) (hi : IssuedBy b handle) :
    handle ≠ b.handleAt b.nextSeq.toNat :=
  Ledger.issued_ne (L := b.ledger) (handleAt_injOn hroom) hi

theorem Backend.Registered.issued {b b' : Backend} {d : BufferDescriptor} {bout : BackendRegistration}
    (hr : Registered b d b' bout) (hroom : b.HasRoom) : IssuedBy b' bout.handle := by
  refine ⟨b.nextSeq.toNat, ?_, by rw [hr.handleAt, hr.handle]⟩
  rw [hr.nextSeq, hroom.toNat_succ]
  exact Nat.lt_succ_self _

theorem Handled.issue (h : Handled mat m) {o : Holder} {id : BackendId} {b b' : Backend} {d : BufferDescriptor}
    {bout : BackendRegistration} (hb : m.lookup id = some b) (hr : Registered b d b' bout) (hroom : b.HasRoom)
    (hkind : b'.isReference = b.isReference) :
    Handled (Function.update mat o
        (some { backend := id, handle := bout.handle, keyGeneration := bout.keys.remoteKeyGeneration }))
      (Table.put id b' m) := by
  have hf := TableFades.put hb (Fades.of_update hkind hr.live)
  have hadv : Advances m (Table.put id b' m) := .put hb (hr.advance_of_room hroom)
  -- nobody holds the handle that is issued
  have hfresh : ∀ o₁ x₁, mat o₁ = some x₁ → x₁.key ≠ (id, bout.handle) := by
    intro o₁ x₁ hx₁ hkey
    obtain ⟨b₁, hb₁, hi⟩ := h.issued o₁ x₁ hx₁
    obtain ⟨hid, hhandle⟩ := Prod.mk.inj hkey
    rw [hid, hb] at hb₁
    obtain rfl := Option.some.inj hb₁
    exact issued_ne_next hroom hi (hhandle.trans hr.handle)
  have hself : entryAt (Table.put id b' m) (id, bout.handle) = some d.liveEntry := by
    rw [entryAt_put_self, hr.live, hr.handle, Function.update_self]
  have hother : ∀ k, k ≠ (id, bout.handle) → some (id, b.handleAt b.nextSeq.toNat) ≠ some k := by
    intro k hk he
    exact hk (by rw [hr.handle, Option.some.inj he])
  constructor
  · intro o₁ x₁ hx₁
    rcases update_some hx₁ with ⟨rfl, rfl⟩ | ⟨-, hold⟩
    · exact ⟨b', Table.lookup_put_self _ _ _, hr.issued hroom⟩
    · exact issued_advances hadv (h.issued o₁ x₁ hold)
  · exact unique_update h.unique fun o₁ x₁ _ => hfresh o₁ x₁
  · intro o₁ x₁ e hx₁ he hv
    rcases update_some hx₁ with ⟨rfl, rfl⟩ | ⟨-, hold⟩
    · rw [Material.key, hself] at he
      rw [← Option.some.inj he, hr.keyGeneration]
      rfl
    · exact h.agree o₁ x₁ e hold (hf.current (hother _ (hfresh o₁ x₁ hold)) he hv) hv
  · intro k e he
    by_cases hk : k = (id, bout.handle)
    · subst hk
      rw [hself] at he
      rw [← Option.some.inj he]
      rfl
    · exact hf.unrevoked (hother k hk) (h.unrevoked k) he

theorem Handled.step (h : Handled mat m) (hs : HandleStep mat m mat' m') : Handled mat' m' := by
  cases hs with
  | shed hsub ha hf => exact h.shed hsub ha hf
  | rotate o x b region g ho hb hmat hm =>
    rw [hmat, hm]
    exact h.rotate ho hb
  | issue o id b b' d bout hb hr hroom hkind hmat hm =>
    rw [hmat, hm]
    exact h.issue hb hr hroom hkind
  | move o o' x ho hmat hm =>
    rw [hm]
    exact h.move ho hmat

end Keep

/-! ## The steps of the system -/

section Records

variable {m : Table RegistrationId RegistrationRecord} {r : RegistrationId} {x : Material}

theorem recordMaterial_of_dead {o : Option RegistrationRecord}
    (h : ∀ rec, o = some rec → rec.lifecycle.isLive = false) : recordMaterial o = none := by
  rw [Option.eq_none_iff_forall_ne_some]
  intro x hx
  obtain ⟨rec, ho, hl, -⟩ := recordMaterial_eq_some.1 hx
  rw [h rec ho] at hl
  cases hl

/-- A withdrawal gives up handles and gives none. -/
theorem recordMaterial_withdrawn {hit : RegistrationRecord → Bool} {lc : RegistrationLifecycle} {reason : StdString}
    (hlc : lc.isLive = false) (h : recordMaterial ((withdrawn hit lc reason m).lookup r) = some x) :
    recordMaterial (m.lookup r) = some x := by
  obtain ⟨rec, hr, hl, rfl⟩ := recordMaterial_eq_some.1 h
  rw [withdrawn, Table.lookup_mapVals, Option.map_eq_some_iff] at hr
  obtain ⟨rec₀, hr₀, he⟩ := hr
  split at he
  · rw [← he, withdraw, hlc] at hl
    cases hl
  · exact recordMaterial_eq_some.2 ⟨rec₀, hr₀, he ▸ hl, by rw [he]⟩

theorem recordMaterial_put {k : RegistrationId} {rec rec' : RegistrationRecord} (hk : m.lookup k = some rec)
    (h : recordMaterial ((Table.put k rec' m).lookup r) = some x)
    (hsame : rec'.lifecycle.isLive = true → rec.lifecycle.isLive = true ∧ rec'.material = rec.material) :
    recordMaterial (m.lookup r) = some x := by
  rw [Table.lookup_put] at h
  split at h
  · rename_i hr
    obtain ⟨rec₁, he, hl, rfl⟩ := recordMaterial_eq_some.1 h
    obtain rfl := Option.some.inj he
    obtain ⟨hlive, hm⟩ := hsame hl
    exact recordMaterial_eq_some.2 ⟨rec, hr ▸ hk, hlive, hm.symm⟩
  · exact h

theorem recordMaterial_put_dead {k : RegistrationId} {rec rec' : RegistrationRecord} (hk : m.lookup k = some rec)
    (hd : rec'.lifecycle.isLive = false) (h : recordMaterial ((Table.put k rec' m).lookup r) = some x) :
    recordMaterial (m.lookup r) = some x := by
  refine recordMaterial_put hk h fun hl => ?_
  rw [hd] at hl
  cases hl

end Records

theorem effect_fades {s s' : Rdmabuffer Backend} {op : AtomicOp Backend} (he : Effect s op s')
    (hn : ∀ r, op ≠ .rotateKey r) : TableFades s.backends s'.backends none := by
  cases he with
  | attached spec b hb h =>
    obtain ⟨hl, -⟩ := construct_spec spec
    exact .attach h (hb ▸ hl)
  | controlled id c b h => exact .put h (control_fades c b)
  | queried request rec b acct hr h =>
    rw [queryRemoteAccess_fst]
    exact .put h (.refl b none)
  | rotated k => exact absurd rfl (hn k)
  | recovered bytes state hp => exact .of_lookup (fun id => by rw [(restore_spec s state).backends]) none
  | _ => exact .of_lookup (fun _ => rfl) none

theorem effect_sheds {σ : System Backend} {s' : Rdmabuffer Backend} {op : AtomicOp Backend}
    (he : Effect σ.runtime op s') (hn : ∀ r, op ≠ .rotateKey r) :
    ∀ o x, ({ σ with runtime := s' } : System Backend).material o = some x → σ.material o = some x := by
  rintro (r | c) x hx
  · cases he with
    | domainDestroyed d de acct h => exact recordMaterial_withdrawn rfl hx
    | bufferReallocated descriptor be nextBuffer acct h hg => exact recordMaterial_withdrawn rfl hx
    | leased k env needed rec ls acct h => exact recordMaterial_put h hx fun hl => ⟨hl, rfl⟩
    | released lease ls rec acct hls h => exact recordMaterial_put h hx fun hl => ⟨hl, rfl⟩
    | hardRevoked k rec leases acct h => exact recordMaterial_put_dead h rfl hx
    | softRevoked k rec acct h hl =>
      exact recordMaterial_put_dead h (softRevoked_not_live rec) hx
    | rotated k | rotatedAlone k => exact absurd rfl (hn k)
    | recovered bytes state hp =>
      have hx : recordMaterial ((restore σ.runtime state).1.registrations.lookup r) = some x := hx
      rcases (restore_spec σ.runtime state).registration r with ⟨-, hlk⟩ | ⟨rec, -, -, hlk⟩
      · rw [hlk] at hx
        exact hx
      · rw [hlk, recordMaterial_of_dead (by rintro rec' he; cases he; rfl)] at hx
        cases hx
    | _ => exact hx
  · exact hx

theorem effect_handleStep {σ : System Backend} {s' : Rdmabuffer Backend} {op : AtomicOp Backend}
    (he : Effect σ.runtime op s') (hi : Handled σ.material σ.runtime.backends) :
    HandleStep σ.material σ.runtime.backends ({ σ with runtime := s' } : System Backend).material s'.backends := by
  by_cases hrot : ∃ r, op = .rotateKey r
  · obtain ⟨r, rfl⟩ := hrot
    cases he with
    | refused | authority => exact .shed (fun _ _ hx => hx) (.refl _) (.of_lookup (fun _ => rfl) none)
    | rotated r rec b h hl hb hh =>
      have ho : σ.material (.record r) = some rec.material := recordMaterial_eq_some.2 ⟨rec, h, hl, rfl⟩
      refine .rotate (.record r) rec.material b rec.memoryRegionId (rotated rec).remoteKey.keyGeneration ho hb ?_ rfl
      funext o
      rw [Function.update_apply]
      split
      · rename_i ho
        subst ho
        refine recordMaterial_eq_some.2 ⟨rotated rec, ?_, hl, rfl⟩
        exact Table.lookup_put_self _ _ _
      · rename_i hne
        cases o with
        | record r' =>
          have hr' : r' ≠ r := fun he => hne (he ▸ rfl)
          exact congrArg recordMaterial ((Table.lookup_put _ _ _ _).trans (if_neg hr'))
        | client c => rfl
    | rotatedAlone r rec h hl hb =>
      -- the backend of a live record is attached, and its handle is not empty
      obtain ⟨b, hb', n, -, hn⟩ := hi.issued (.record r) rec.material (recordMaterial_eq_some.2 ⟨rec, h, hl, rfl⟩)
      rcases hb with hb | hb
      · cases hb.symm.trans hb'
      · exact absurd (hn.trans hb) (handleAt_ne_nil b n)
  · have hn : ∀ r, op ≠ .rotateKey r := fun r he => hrot ⟨r, he⟩
    exact .shed (effect_sheds he hn) (effect_advances he) (effect_fades he hn)

/-- A client that moves on to anything but a registration the backend made holds nothing. -/
theorem sheds_move {σ : System Backend} {s : Rdmabuffer Backend} {c : Nat} {f : Option InFlight}
    (hf : clientMaterial f = none)
    (hr : ∀ r x, recordMaterial (s.registrations.lookup r) = some x →
      recordMaterial (σ.runtime.registrations.lookup r) = some x) :
    ∀ o x, (σ.move s c f).material o = some x → σ.material o = some x := by
  rintro (r | c') x hx
  · exact hr r x hx
  · have hx : clientMaterial (Function.update σ.clients c f c') = some x := hx
    rw [Function.update_apply] at hx
    split at hx
    · rw [hf] at hx
      cases hx
    · exact hx

/-- The registrations in flight name the backend they are for. -/
def Named (σ : System Backend) : Prop := ∀ c p, σ.HasPending c p → p.record.backend = p.backend

theorem named_step {σ σ' : System Backend} {l : Option (Action Backend)} (h : (interleaved Backend).step σ l σ')
    (hi : Named σ) : Named σ' := by
  intro c p hp
  rcases hasPending_step h hp with hold | ⟨descriptor, backend, domain, env, b, -, -, rfl⟩
  · exact hi c p hold
  · rfl

theorem committed_handleStep {σ : System Backend} (hn : Named σ) {c : Nat} {p : PendingRegistration}
    {bout : BackendRegistration} (hc : σ.clients c = some (.registered p bout)) :
    HandleStep σ.material σ.runtime.backends
      (σ.move (σ.runtime.registerCommit p bout).1 c none).material σ.runtime.backends := by
  have hclient : σ.material (.client c) =
      some { backend := p.backend, handle := bout.handle, keyGeneration := bout.keys.remoteKeyGeneration } := by
    show clientMaterial (σ.clients c) = _
    rw [hc]
    rfl
  refine .move (.client c) (.record p.record.id) _ hclient ?_ rfl
  funext o
  rw [Function.update_apply]
  split
  · rename_i ho
    subst ho
    refine recordMaterial_eq_some.2 ⟨commitRecord σ.runtime.authority p bout, ?_, rfl, ?_⟩
    · exact (registerCommit_lookup _ _ _ _).trans (if_pos rfl)
    · rw [← hn c p (.inr ⟨bout, hc⟩)]
      rfl
  · rename_i hne
    cases o with
    | record r =>
      have hr : r ≠ p.record.id := fun he => hne (he ▸ rfl)
      exact congrArg recordMaterial ((registerCommit_lookup _ _ _ _).trans (if_neg hr))
    | client c' =>
      show clientMaterial (Function.update σ.clients c none c') = _
      rw [Function.update_apply, Function.update_apply]
      by_cases hcc : c' = c
      · rw [if_pos hcc, if_pos (by rw [hcc])]
        rfl
      · rw [if_neg hcc, if_neg (by simp [hcc])]
        rfl

theorem called_handleStep {σ : System Backend} {c : Nat} {p : PendingRegistration} {b b' : Backend}
    {bo : RegisterOutcome} {bout : BackendRegistration} (hc : σ.clients c = some (.registering p))
    (hb : σ.runtime.backends.lookup p.backend = some b)
    (he : IBackend.registerBuffer b p.descriptor p.ctx = (b', bo, bout)) (hin : b.InBounds) (hin' : b'.InBounds) :
    HandleStep σ.material σ.runtime.backends
      (σ.move { σ.runtime with backends := Table.put p.backend b' σ.runtime.backends } c
        (if bo.ok then some (.registered p bout) else none)).material
      (Table.put p.backend b' σ.runtime.backends) := by
  have hkind := registerBuffer_kind b p.descriptor p.ctx
  rw [he] at hkind
  rcases registerBuffer_spec he with ⟨ho, rfl⟩ | ⟨ho, hr⟩
  · rw [ho, if_neg Bool.false_ne_true]
    exact .shed (sheds_move rfl fun _ _ hx => hx) (.put hb (.refl b')) (.put hb (.refl b' none))
  · rw [ho, if_pos rfl]
    refine .issue (.client c) p.backend b b' p.descriptor bout hb hr (hr.room hin hin') hkind ?_ rfl
    funext o
    rw [Function.update_apply]
    split
    · rename_i ho
      subst ho
      show clientMaterial (Function.update σ.clients c _ c) = _
      rw [Function.update_self]
      rfl
    · rename_i hne
      cases o with
      | record r => rfl
      | client c' =>
        show clientMaterial (Function.update σ.clients c _ c') = _
        rw [Function.update_of_ne (by rintro rfl; exact hne rfl)]
        rfl

theorem deregisterFinish_sheds (s : Rdmabuffer Backend) (d : PendingDeregistration) (refusal : Option RegisterOutcome)
    (r : RegistrationId) (x : Material)
    (h : recordMaterial ((s.deregisterFinish d refusal).1.registrations.lookup r) = some x) :
    recordMaterial (s.registrations.lookup r) = some x := by
  unfold deregisterFinish at h
  split at h
  · exact h
  · rename_i bo rec hk
    exact recordMaterial_put_dead hk rfl h
  · exact h
  · have h : recordMaterial ((s.registrations.erase d.registration).lookup r) = some x := h
    rw [Table.lookup_erase_eq] at h
    split at h
    · cases h
    · exact h

theorem deregisterFinish_backends (s : Rdmabuffer Backend) (d : PendingDeregistration)
    (refusal : Option RegisterOutcome) : (s.deregisterFinish d refusal).1.backends = s.backends := by
  unfold deregisterFinish
  split <;> rfl

/-- Every section does one of these to the handles. -/
theorem section_handleStep {σ σ' : System Backend} {a : Action Backend} (hs : SectionStep σ a σ')
    (hb : Bounded σ.runtime) (hb' : Bounded σ'.runtime) (hn : Named σ) (hi : Handled σ.material σ.runtime.backends) :
    HandleStep σ.material σ.runtime.backends σ'.material σ'.runtime.backends := by
  have hsame := TableFades.of_lookup (m := σ.runtime.backends) (fun _ => rfl) none
  cases hs with
  | idle => exact .shed (fun _ _ hx => hx) (.refl _) hsame
  | atomic op s he => exact effect_handleStep he hi
  | begun | vanished | deregisterSkipped =>
    exact .shed (sheds_move rfl fun _ _ hx => hx) (.refl _) hsame
  | called c p b b' bo bout hc hbk he =>
    exact called_handleStep hc hbk he (hb.lookup hbk)
      (hb'.lookup (Table.lookup_put_self _ _ _))
  | committed c p bout hc => exact committed_handleStep hn hc
  | deregisterBegun c r rec hc h =>
    exact .shed (sheds_move rfl fun _ _ hx => recordMaterial_put_dead h rfl hx) (.refl _) hsame
  | deregisterCalled c d b b' bo hc hv hbk he =>
    exact .shed (sheds_move rfl fun _ _ hx => hx) (.put hbk (deregisterBuffer_advance he))
      (.put hbk (deregisterBuffer_fades he))
  | deregisterFinished c d refusal hc =>
    refine .shed (sheds_move rfl (deregisterFinish_sheds σ.runtime d refusal)) ?_ ?_
    · show Advances _ (σ.runtime.deregisterFinish d refusal).1.backends
      rw [deregisterFinish_backends]
      exact .refl _
    · exact .of_lookup (fun id => congrArg (AList.lookup id) (deregisterFinish_backends σ.runtime d refusal)) none

theorem handleStep {σ σ' : System Backend} {l : Option (Action Backend)} (h : (interleaved Backend).step σ l σ')
    (hb : Bounded σ.runtime) (hb' : Bounded σ'.runtime) (hn : Named σ) (hi : Handled σ.material σ.runtime.backends) :
    HandleStep σ.material σ.runtime.backends σ'.material σ'.runtime.backends := by
  cases l with
  | none =>
    obtain ⟨hr, hc⟩ := h
    have hbk := Table.lookup_perm hr.backends
    refine .shed ?_ ?_ (.of_lookup (fun id => (hbk id).symm) none)
    · rintro (r | c) x hx
      · show recordMaterial (σ.runtime.registrations.lookup r) = some x
        rw [Table.lookup_perm hr.registrations]
        exact hx
      · show clientMaterial (σ.clients c) = some x
        rw [← hc]
        exact hx
    · intro id b hid
      rw [hbk] at hid
      exact ⟨b, hid, .refl b⟩
  | some a =>
    obtain rfl : σ' = σ.exec a := h
    exact section_handleStep (σ.exec_cases a) hb hb' hn hi

theorem handled_init : Handled ({} : System Backend).material ({} : Rdmabuffer Backend).backends := by
  have hnone : ∀ o, ({} : System Backend).material o = none := by
    rintro (r | c) <;> rfl
  constructor
  · intro o x hx
    rw [hnone] at hx
    cases hx
  · intro o o' x x' hx
    rw [hnone] at hx
    cases hx
  · intro o x e hx
    rw [hnone] at hx
    cases hx
  · intro k e he
    cases he

theorem handled_run {t : List (Lts.Transition (System Backend) (Option (Action Backend)))} {σ : System Backend}
    (h : (interleaved Backend).Run t σ) (hb : ∀ x ∈ t, Bounded x.pre.runtime ∧ Bounded x.post.runtime) :
    Named σ ∧ Handled σ.material σ.runtime.backends := by
  refine h.inv_of (I := fun σ => Named σ ∧ Handled σ.material σ.runtime.backends)
    (C := fun x => Bounded x.pre.runtime ∧ Bounded x.post.runtime) ?_ ?_ hb
  · rintro _ rfl
    refine ⟨?_, handled_init⟩
    rintro c p (hp | ⟨bout, hp⟩) <;> cases hp
  · intro σ l σ' hs hc hi
    exact ⟨named_step hs hi.1, hi.2.step (handleStep hs hc.1 hc.2 hi.1 hi.2)⟩

end RdmaBuffer
