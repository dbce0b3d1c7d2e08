/-
The handles in the records, whatever their lifecycle, and with the clients whose registration a backend has made: each
was issued by its backend, no two are the same, and a step writes to the entry of a handle only where it rotates the
key of the record that has it.
-/
import RdmaBuffer.Runtime.Execution
import RdmaBuffer.Runtime.Handles

namespace RdmaBuffer

open Rdmabuffer Backend

/-- The backend and the handle in the record, unless the handle was cleared. -/
def RegistrationRecord.writtenKey (rec : RegistrationRecord) : Option (BackendId × StdString) :=
  if rec.backendHandle = [] then none else some (rec.backend, rec.backendHandle)

theorem RegistrationRecord.writtenKey_eq_some {rec : RegistrationRecord} {k : BackendId × StdString} :
    rec.writtenKey = some k ↔ rec.backendHandle ≠ [] ∧ k = (rec.backend, rec.backendHandle) := by
  unfold writtenKey
  split
  · rename_i h; simp [h]
  · rename_i h; simp [h, eq_comm]

def System.writtenKey {β : Type} (σ : System β) : Holder → Option (BackendId × StdString)
  | .record r => (σ.runtime.registrations.lookup r).bind RegistrationRecord.writtenKey
  | .client c => (clientMaterial (σ.clients c)).map Material.key

theorem writtenKey_of_lookup {β : Type} {σ : System β} {r : RegistrationId} {rec : RegistrationRecord}
    (hr : σ.runtime.registrations.lookup r = some rec) (hh : rec.backendHandle ≠ []) :
    σ.writtenKey (.record r) = some (rec.backend, rec.backendHandle) := by
  simp [System.writtenKey, hr, RegistrationRecord.writtenKey_eq_some, hh]

/-- Every handle that is written down was issued, and none is written down twice; no entry has the empty handle. -/
structure Apart (σ : System Backend) : Prop where
  issued : ∀ o k, σ.writtenKey o = some k → ∃ b, σ.runtime.backends.lookup k.1 = some b ∧ IssuedBy b k.2
  unique : ∀ o o' k, σ.writtenKey o = some k → σ.writtenKey o' = some k → o = o'
  unnamed : ∀ id, entryAt σ.runtime.backends (id, []) = none

/-! ## The backends along a step -/

/-- The entry a step writes to, if it writes to one: that of a record whose key it rotates, or that of a new handle. -/
inductive Touches (σ : System Backend) (l : Option (Action Backend)) : Option (BackendId × StdString) → Prop
  | nothing : Touches σ l none
  | rotated (r : RegistrationId) (rec : RegistrationRecord) (hl : l = some (.atomic (.rotateKey r)))
      (hr : σ.runtime.registrations.lookup r = some rec) (hlive : rec.lifecycle.isLive = true)
      (hh : rec.backendHandle ≠ []) : Touches σ l (some (rec.backend, rec.backendHandle))
  | issued (id : BackendId) (b : Backend) (hb : σ.runtime.backends.lookup id = some b) (hroom : b.HasRoom) :
      Touches σ l (some (id, b.handleAt b.nextSeq.toNat))

theorem Touches.ne_unnamed {σ : System Backend} {l : Option (Action Backend)}
    {touched : Option (BackendId × StdString)} (ht : Touches σ l touched) (id : BackendId) :
    touched ≠ some (id, []) := by
  cases ht with
  | nothing => nofun
  | rotated r rec hl hr hlive hh => exact fun he => hh (Prod.mk.inj (Option.some.inj he)).2
  | issued id b hb hroom => exact fun he => handleAt_ne_nil b _ (Prod.mk.inj (Option.some.inj he)).2

/-- What a step does to the backends: their ledgers advance, and of the entries that are left only one is written to. -/
structure BackendStep (σ : System Backend) (l : Option (Action Backend)) (m' : Table BackendId Backend) : Prop where
  advances : Advances σ.runtime.backends m'
  fades : ∃ touched, Touches σ l touched ∧ TableFades σ.runtime.backends m' touched

theorem BackendStep.same {σ : System Backend} {l : Option (Action Backend)} {m' : Table BackendId Backend}
    (h : ∀ id, m'.lookup id = σ.runtime.backends.lookup id) : BackendStep σ l m' := by
  refine ⟨fun id b hb => ⟨b, (h id).trans hb, .refl b⟩, none, .nothing, .of_lookup h none⟩

theorem effect_backendStep {σ : System Backend} {s' : Rdmabuffer Backend} {op : AtomicOp Backend}
    (he : Effect σ.runtime op s') : BackendStep σ (some (.atomic op)) s'.backends := by
  refine ⟨effect_advances he, ?_⟩
  by_cases hrot : ∃ r, op = .rotateKey r
  · obtain ⟨r, rfl⟩ := hrot
    cases he with
    | refused | authority => exact ⟨none, .nothing, .of_lookup (fun _ => rfl) none⟩
    | rotated r rec b h hl hb hh => exact ⟨_, .rotated r rec rfl h hl hh, .put hb (rotateKey_fades b _ _)⟩
    | rotatedAlone => exact ⟨none, .nothing, .of_lookup (fun _ => rfl) none⟩
  · exact ⟨none, .nothing, effect_fades he fun r he => hrot ⟨r, he⟩⟩

theorem section_backendStep {σ σ' : System Backend} {a : Action Backend} (hs : SectionStep σ a σ')
    (hb : Bounded σ.runtime) (hb' : Bounded σ'.runtime) : BackendStep σ (some a) σ'.runtime.backends := by
  cases hs with
  | idle | begun | vanished | committed | deregisterBegun | deregisterSkipped => exact .same fun _ => rfl
  | atomic op s he => exact effect_backendStep he
  | called c p b b' bo bout hc hbk he =>
    have hin' : b'.InBounds := hb'.lookup (Table.lookup_put_self _ _ _)
    have hadv : Advances σ.runtime.backends (Table.put p.backend b' σ.runtime.backends) :=
      .put hbk (registerBuffer_advance he (hb.lookup hbk) hin')
    have hkind := registerBuffer_kind b p.descriptor p.ctx
    rw [he] at hkind
    refine ⟨hadv, ?_⟩
    rcases registerBuffer_spec he with ⟨-, rfl⟩ | ⟨-, hr⟩
    · exact ⟨none, .nothing, .put hbk (.refl b' none)⟩
    · exact ⟨_, .issued p.backend b hbk (hr.room (hb.lookup hbk) hin'), .put hbk (Fades.of_update hkind hr.live)⟩
  | deregisterCalled c d b b' bo hc hv hbk he =>
    exact ⟨.put hbk (deregisterBuffer_advance he), none, .nothing, .put hbk (deregisterBuffer_fades he)⟩
  | deregisterFinished c d refusal hc =>
    exact .same fun id => congrArg (AList.lookup id) (deregisterFinish_backends σ.runtime d refusal)

theorem backendStep {σ σ' : System Backend} {l : Option (Action Backend)} (h : (interleaved Backend).step σ l σ')
    (hb : Bounded σ.runtime) (hb' : Bounded σ'.runtime) : BackendStep σ l σ'.runtime.backends := by
  cases l with
  | none => exact .same fun id => (Table.lookup_perm h.1.backends id).symm
  | some a =>
    obtain rfl : σ' = σ.exec a := h
    exact section_backendStep (σ.exec_cases a) hb hb'

/-! ## The handles along a step -/

/-- A handle in a record was in it before, or a client commits it. -/
theorem writtenKey_record_step {σ σ' : System Backend} {l : Option (Action Backend)}
    (h : (interleaved Backend).step σ l σ') {r : RegistrationId} {k : BackendId × StdString}
    (hk : σ'.writtenKey (.record r) = some k) :
    σ.writtenKey (.record r) = some k ∨ ∃ c p bout, l = some (.registerCommit c) ∧
      σ.clients c = some (.registered p bout) ∧ p.record.id = r ∧ k = (p.record.backend, bout.handle) := by
  have hs := recordStep h r
  simp only [System.writtenKey] at hk ⊢
  generalize σ.runtime.registrations.lookup r = o, σ'.runtime.registrations.lookup r = o' at hs hk
  cases hs with
  | keep | leases | destroyed | reallocated | hardRevoked | softRevoked | rotated | deregistering | failed =>
    exact .inl hk
  | recovered bytes state rec => cases hk
  | committed c p bout o hl hc hid =>
    exact .inr ⟨c, p, bout, hl, hc, hid, (RegistrationRecord.writtenKey_eq_some.1 hk).2⟩
  | removed => cases hk

theorem registerCommit_client (σ : System Backend) (c : Nat) :
    (σ.exec (.registerCommit c)).writtenKey (.client c) = none := by
  simp only [System.writtenKey, System.exec]
  split
  · simp [System.move, clientMaterial]
  · rename_i hc
    rcases hf : σ.clients c with _ | f
    · rfl
    · cases f with
      | registered p bout => exact absurd hf (hc p bout)
      | _ => rfl

/-- A client that moves on to anything but a registration its backend made has no handle, the others keep theirs. -/
theorem move_client {σ : System Backend} {s : Rdmabuffer Backend} {c c' : Nat} {f : Option InFlight}
    {k : BackendId × StdString} (hf : clientMaterial f = none) (hk : (σ.move s c' f).writtenKey (.client c) = some k) :
    σ.writtenKey (.client c) = some k := by
  have hk : (clientMaterial (Function.update σ.clients c' f c)).map Material.key = some k := hk
  rw [Function.update_apply] at hk
  split at hk
  · rw [hf] at hk
    cases hk
  · exact hk

/-- A client has the handle of the registration its backend makes until it commits it. -/
theorem writtenKey_client_step {σ σ' : System Backend} {l : Option (Action Backend)}
    (h : (interleaved Backend).step σ l σ') (hb : Bounded σ.runtime) (hb' : Bounded σ'.runtime) {c : Nat}
    {k : BackendId × StdString} (hk : σ'.writtenKey (.client c) = some k) :
    (σ.writtenKey (.client c) = some k ∧ l ≠ some (.registerCommit c)) ∨
      (l = some (.registerCall c) ∧ ∃ id b b' d bout, σ.runtime.backends.lookup id = some b ∧ Registered b d b' bout ∧
        b.HasRoom ∧ σ'.runtime.backends = Table.put id b' σ.runtime.backends ∧ k = (id, bout.handle)) := by
  cases l with
  | none =>
    obtain ⟨-, hcl⟩ := h
    simp only [System.writtenKey, hcl] at hk ⊢
    exact .inl ⟨hk, nofun⟩
  | some a =>
    obtain rfl : σ' = σ.exec a := h
    by_cases ha : a = .registerCommit c
    · rw [ha, registerCommit_client] at hk
      cases hk
    · have hne : some a ≠ some (.registerCommit c) := fun he => ha (Option.some.inj he)
      generalize σ.exec a = σ', σ.exec_cases a = hs at hk hb'
      cases hs with
      | idle | atomic => exact .inl ⟨hk, hne⟩
      | begun | vanished | committed | deregisterBegun | deregisterSkipped | deregisterCalled
        | deregisterFinished => exact .inl ⟨move_client rfl hk, hne⟩
      | called c' p b b' bo bout hc hbk he =>
        rcases registerBuffer_spec he with ⟨ho, -⟩ | ⟨ho, hr⟩
        · exact .inl ⟨move_client (by rw [ho]; rfl) hk, hne⟩
        · have hin' : b'.InBounds := hb'.lookup (Table.lookup_put_self _ _ _)
          by_cases hcc : c = c'
          · subst hcc
            have hk : (clientMaterial (Function.update σ.clients c _ c)).map Material.key = some k := hk
            rw [Function.update_self, ho, if_pos rfl] at hk
            exact .inr ⟨rfl, p.backend, b, b', p.descriptor, bout, hbk, hr, hr.room (hb.lookup hbk) hin', rfl,
              (Option.some.inj hk).symm⟩
          · have hk : (clientMaterial (Function.update σ.clients c' _ c)).map Material.key = some k := hk
            rw [Function.update_of_ne hcc] at hk
            exact .inl ⟨hk, hne⟩

/-- A handle that someone has after a step was there before, or the step issued it. -/
inductive KeyOrigin (σ : System Backend) (l : Option (Action Backend)) (m' : Table BackendId Backend) :
    Holder → BackendId × StdString → Prop
  | kept (o : Holder) (k : BackendId × StdString) (hk : σ.writtenKey o = some k)
      (hn : ∀ c, l = some (.registerCommit c) → o ≠ .client c) : KeyOrigin σ l m' o k
  | committed (c : Nat) (p : PendingRegistration) (bout : BackendRegistration) (k : BackendId × StdString)
      (hl : l = some (.registerCommit c)) (hc : σ.clients c = some (.registered p bout))
      (hk : σ.writtenKey (.client c) = some k) : KeyOrigin σ l m' (.record p.record.id) k
  | issued (c : Nat) (id : BackendId) (b b' : Backend) (d : BufferDescriptor) (bout : BackendRegistration)
      (hl : l = some (.registerCall c)) (hb : σ.runtime.backends.lookup id = some b) (hr : Registered b d b' bout)
      (hroom : b.HasRoom) (hm : m' = Table.put id b' σ.runtime.backends) :
      KeyOrigin σ l m' (.client c) (id, bout.handle)

theorem keyOrigin {σ σ' : System Backend} {l : Option (Action Backend)} (h : (interleaved Backend).step σ l σ')
    (hb : Bounded σ.runtime) (hb' : Bounded σ'.runtime) (hn : Named σ) {o : Holder} {k : BackendId × StdString}
    (hk : σ'.writtenKey o = some k) : KeyOrigin σ l σ'.runtime.backends o k := by
  cases o with
  | record r =>
    rcases writtenKey_record_step h hk with hold | ⟨c, p, bout, hl, hc, hid, hkey⟩
    · exact .kept _ k hold fun _ _ => nofun
    · subst hid
      refine .committed c p bout k hl hc ?_
      rw [hkey, hn c p (.inr ⟨bout, hc⟩)]
      simp [System.writtenKey, hc, clientMaterial, Material.key]
  | client c =>
    rcases writtenKey_client_step h hb hb' hk with ⟨hold, hne⟩ | ⟨hl, id, b, b', d, bout, hbk, hr, hroom, hm, rfl⟩
    · refine .kept _ k hold ?_
      rintro c' hl ⟨⟩
      exact hne hl
    · exact .issued c id b b' d bout hl hbk hr hroom hm

/-- The handle that a backend issues next is none that is written down. -/
theorem Apart.next_unwritten {σ : System Backend} (hi : Apart σ) {id : BackendId} {b : Backend}
    (hb : σ.runtime.backends.lookup id = some b) (hroom : b.HasRoom) (o : Holder) :
    σ.writtenKey o ≠ some (id, b.handleAt b.nextSeq.toNat) := by
  intro hk
  obtain ⟨b₀, hb₀, hissued⟩ := hi.issued o _ hk
  obtain rfl := Option.some.inj (hb.symm.trans hb₀)
  exact issued_ne_next hroom hissued rfl

/-- No step writes a handle down that is written down elsewhere. -/
theorem apart_unique {σ σ' : System Backend} {l : Option (Action Backend)} (h : (interleaved Backend).step σ l σ')
    (hb : Bounded σ.runtime) (hb' : Bounded σ'.runtime) (hn : Named σ) (hi : Apart σ) (o o' : Holder)
    (k : BackendId × StdString) (hk : σ'.writtenKey o = some k) (hk' : σ'.writtenKey o' = some k) : o = o' := by
  cases keyOrigin h hb hb' hn hk with
  | kept _ _ hold hnot =>
    cases keyOrigin h hb hb' hn hk' with
    | kept _ _ hold' => exact hi.unique o o' k hold hold'
    | committed c p bout _ hl hc hold' => exact absurd (hi.unique o (.client c) k hold hold') (hnot c hl)
    | issued c id b b' d bout hl hbk hr hroom hm =>
      exact absurd (hr.handle ▸ hold) (hi.next_unwritten hbk hroom o)
  | committed c p bout _ hl hc hold =>
    cases keyOrigin h hb hb' hn hk' with
    | kept _ _ hold' hnot => exact absurd (hi.unique o' (.client c) k hold' hold) (hnot c hl)
    | committed c' p' bout' _ hl' hc' =>
      cases hl.symm.trans hl'
      cases hc.symm.trans hc'
      rfl
    | issued c' id b b' d bout' hl' => cases hl.symm.trans hl'
  | issued c id b b' d bout hl hbk hr hroom hm =>
    generalize hkey : (id, bout.handle) = k' at hk'
    cases keyOrigin h hb hb' hn hk' with
    | kept _ _ hold' =>
      subst hkey
      exact absurd (hr.handle ▸ hold') (hi.next_unwritten hbk hroom o')
    | committed c' p' bout' _ hl' => cases hl.symm.trans hl'
    | issued c' id' b₀ b₀' d' bout' hl' =>
      cases hl.symm.trans hl'
      rfl

theorem apart_step {σ σ' : System Backend} {l : Option (Action Backend)} (h : (interleaved Backend).step σ l σ')
    (hb : Bounded σ.runtime) (hb' : Bounded σ'.runtime) (hn : Named σ) (hi : Apart σ) : Apart σ' where
  issued o k hk := by
    have hold : ∀ o', σ.writtenKey o' = some k →
        ∃ b, σ'.runtime.backends.lookup k.1 = some b ∧ IssuedBy b k.2 := by
      intro o' hk'
      obtain ⟨b, hbk, hissued⟩ := hi.issued o' k hk'
      obtain ⟨b', hbk', hadv⟩ := (backendStep h hb hb').advances _ b hbk
      exact ⟨b', hbk', hissued.advance hadv⟩
    cases keyOrigin h hb hb' hn hk with
    | kept _ _ hk' => exact hold o hk'
    | committed c p bout _ hl hc hk' => exact hold (.client c) hk'
    | issued c id b b' d bout hl hbk hr hroom hm =>
      exact ⟨b', by rw [hm]; exact Table.lookup_put_self _ _ _, hr.issued hroom⟩
  unique := apart_unique h hb hb' hn hi
  unnamed id := by
    obtain ⟨touched, ht, hf⟩ := (backendStep h hb hb').fades
    rw [Option.eq_none_iff_forall_ne_some]
    intro e he
    obtain ⟨e₀, he₀, -⟩ := hf.entry (id, []) (ht.ne_unnamed id) e he
    rw [hi.unnamed] at he₀
    cases he₀

theorem apart_init : Apart {} := by
  constructor
  · rintro (r | c) k hk <;> cases hk
  · rintro (r | c) o' k hk <;> cases hk
  · exact fun id => rfl

theorem apart_run {t : List (Lts.Transition (System Backend) (Option (Action Backend)))} {σ : System Backend}
    (h : (interleaved Backend).Run t σ) (hb : ∀ x ∈ t, Bounded x.pre.runtime ∧ Bounded x.post.runtime) :
    Named σ ∧ Apart σ := by
  refine h.inv_of (I := fun σ => Named σ ∧ Apart σ)
    (C := fun x => Bounded x.pre.runtime ∧ Bounded x.post.runtime) ?_ ?_ hb
  · rintro _ rfl
    refine ⟨?_, apart_init⟩
    rintro c p (hp | ⟨bout, hp⟩) <;> cases hp
  · intro σ l σ' hs hc hi
    exact ⟨named_step hs hi.1, apart_step hs hc.1 hc.2 hi.1 hi.2⟩

/-- A step that does not rotate the key of a record does not write to its entry. -/
theorem Touches.ne {σ : System Backend} {l : Option (Action Backend)} {touched : Option (BackendId × StdString)}
    (ht : Touches σ l touched) (hi : Apart σ) {r : RegistrationId} {rec : RegistrationRecord}
    (hr : σ.runtime.registrations.lookup r = some rec)
    (hl : rec.lifecycle.isLive = true → l ≠ some (.atomic (.rotateKey r))) :
    touched ≠ some (rec.backend, rec.backendHandle) := by
  cases ht with
  | nothing => nofun
  | rotated r' rec' hl' hr' hlive hh' =>
    intro he
    have hkey := Option.some.inj he
    have hh : rec.backendHandle ≠ [] := fun hn => hh' ((Prod.mk.inj hkey).2.trans hn)
    have hsame := hi.unique (.record r) (.record r') _ (writtenKey_of_lookup hr hh)
      (hkey ▸ writtenKey_of_lookup hr' hh')
    cases hsame
    obtain rfl := Option.some.inj (hr.symm.trans hr')
    exact hl hlive hl'
  | issued id b hb hroom =>
    intro he
    obtain ⟨rfl, hh⟩ := Prod.mk.inj (Option.some.inj he)
    have hne : rec.backendHandle ≠ [] := hh ▸ handleAt_ne_nil b _
    obtain ⟨b₀, hb₀, hissued⟩ := hi.issued _ _ (writtenKey_of_lookup hr hne)
    obtain rfl := Option.some.inj (hb.symm.trans hb₀)
    exact issued_ne_next hroom hissued hh.symm

/-! ## Sequential clients -/

/-- The first section of a call, and the last, leave the backends alone. -/
theorem exec_backends (σ : System Backend) {a : Action Backend} (ha : ∀ op, a ≠ .atomic op)
    (hr : ∀ c, a ≠ .registerCall c) (hd : ∀ c, a ≠ .deregisterCall c) :
    (σ.exec a).runtime.backends = σ.runtime.backends := by
  generalize σ.exec a = σ', σ.exec_cases a = hs
  cases hs with
  | idle | begun | committed | deregisterBegun => rfl
  | atomic op => exact absurd rfl (ha op)
  | vanished c | called c => exact absurd rfl (hr c)
  | deregisterSkipped c | deregisterCalled c => exact absurd rfl (hd c)
  | deregisterFinished c d refusal => exact deregisterFinish_backends σ.runtime d refusal

/-- Between the sections of an operation the backends are those before it or those after it. -/
theorem actions_backends {s : Rdmabuffer Backend} {op : Op Backend}
    {x : Lts.Transition (System Backend) (Option (Action Backend))} (hx : x ∈ (idle s).trace op.actions) :
    (x.pre.runtime.backends = s.backends ∨ x.pre.runtime.backends = (op.run s).backends) ∧
      (x.post.runtime.backends = s.backends ∨ x.post.runtime.backends = (op.run s).backends) := by
  have hend : ((idle s).run op.actions).runtime.backends = (op.run s).backends := by
    rw [run_actions]
    rfl
  -- an operation of one section, or of a first section, a call and a last section
  have hone : ∀ σ : System Backend, ∀ a, x ∈ σ.trace [a] → x.pre = σ ∧ x.post = σ.exec a := by
    intro σ a hx
    rw [List.mem_singleton.1 hx]
    exact ⟨rfl, rfl⟩
  have hcons : ∀ σ : System Backend, ∀ a as, x ∈ σ.trace (a :: as) →
      (x.pre = σ ∧ x.post = σ.exec a) ∨ x ∈ (σ.exec a).trace as := by
    intro σ a as hx
    rcases List.mem_cons.1 hx with rfl | hx
    · exact .inl ⟨rfl, rfl⟩
    · exact .inr hx
  have hthree : ∀ a₁ a₂ a₃ : Action Backend, op.actions = [a₁, a₂, a₃] →
      ((idle s).exec a₁).runtime.backends = s.backends →
      ((((idle s).exec a₁).exec a₂).exec a₃).runtime.backends = (((idle s).exec a₁).exec a₂).runtime.backends →
      (x.pre.runtime.backends = s.backends ∨ x.pre.runtime.backends = (op.run s).backends) ∧
        (x.post.runtime.backends = s.backends ∨ x.post.runtime.backends = (op.run s).backends) := by
    intro a₁ a₂ a₃ he hfirst hlast
    rw [he] at hx hend
    have hcall : (((idle s).exec a₁).exec a₂).runtime.backends = (op.run s).backends := hlast.symm.trans hend
    rcases hcons _ _ _ hx with ⟨hpre, hpost⟩ | hx
    · rw [hpre, hpost]
      exact ⟨.inl rfl, .inl hfirst⟩
    · rcases hcons _ _ _ hx with ⟨hpre, hpost⟩ | hx
      · rw [hpre, hpost]
        exact ⟨.inl hfirst, .inr hcall⟩
      · obtain ⟨hpre, hpost⟩ := hone _ _ hx
        rw [hpre, hpost]
        exact ⟨.inr hcall, .inr hend⟩
  cases op with
  | atomic op =>
    obtain ⟨hpre, hpost⟩ := hone _ _ hx
    rw [hpre, hpost]
    exact ⟨.inl rfl, .inr rfl⟩
  | registerBuffer descriptor backend domain env =>
    refine hthree _ _ _ rfl ?_ ?_
    · exact exec_backends (idle s) (by simp) (by simp) (by simp)
    · apply exec_backends <;> simp
  | deregister registration =>
    refine hthree _ _ _ rfl ?_ ?_
    · exact exec_backends (idle s) (by simp) (by simp) (by simp)
    · apply exec_backends <;> simp

/-- The sections of an operation in bounds are in bounds. -/
theorem SectionOf.bounded {y : Lts.Transition (Rdmabuffer Backend) (Option (Op Backend))}
    {x : Lts.Transition (System Backend) (Option (Action Backend))} (h : SectionOf y x)
    (hstep : (sequential Backend).step y.pre y.label y.post) (hb : Bounded y.pre ∧ Bounded y.post) :
    Bounded x.pre.runtime ∧ Bounded x.post.runtime := by
  obtain ⟨u, l, v⟩ := y
  cases l with
  | none =>
    obtain rfl : x = ⟨idle u, none, idle v⟩ := h
    exact hb
  | some op =>
    obtain rfl : v = op.run u := hstep
    have hbetween : ∀ m : Table BackendId Backend, m = u.backends ∨ m = (op.run u).backends →
        ∀ e ∈ m.entries, e.2.InBounds := by
      rintro m (rfl | rfl)
      · exact hb.1
      · exact hb.2
    have hx : x ∈ (idle u).trace op.actions := h
    obtain ⟨hpre, hpost⟩ := actions_backends hx
    exact ⟨hbetween _ hpre, hbetween _ hpost⟩

theorem apart_sequential {s : Rdmabuffer Backend} {t : List (Lts.Transition (Rdmabuffer Backend) (Option (Op Backend)))}
    (h : (sequential Backend).Run t s) (hb : ∀ x ∈ t, Bounded x.pre ∧ Bounded x.post) : Apart (idle s) := by
  obtain ⟨t', h', hsec⟩ := sequential_run h
  refine (apart_run h' fun x hx => ?_).2
  obtain ⟨y, hy, hyx⟩ := hsec x hx
  exact hyx.bounded (h.step_mem hy) (hb y hy)

end RdmaBuffer
