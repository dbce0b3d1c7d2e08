/-
The lifecycles a registration goes through. `can_transition` says which changes are allowed, and nothing asks it: the
operations agree with it except where a domain is destroyed over a live registration, where a recovery or a commit
replaces a record that may not become what it brings, and where a recovered record is deregistered.
-/
import RdmaBuffer.Registry.Access
import RdmaBuffer.Runtime.Draining
import RdmaBuffer.Runtime.Execution

namespace RdmaBuffer

open Rdmabuffer

/-! ## The changes of a step -/

/-- A change of lifecycle, if it is one, is in the table. -/
def Permitted (old new : RegistrationLifecycle) : Prop := new = old ∨ canTransition old new = true

instance (old new : RegistrationLifecycle) : Decidable (Permitted old new) :=
  inferInstanceAs (Decidable (new = old ∨ canTransition old new = true))

section

variable {β : Type} [Environment β]

/-- A revoke that is not refused makes the record REVOKING before it decides what it becomes. -/
def passesRevoking (l : Option (Action β)) (r : RegistrationId) (rec : RegistrationRecord) : Bool :=
  match l with
  | some (.atomic (.revoke registration _)) => registration == r && rec.lifecycle.isLive
  | _ => false

/-- The lifecycles that a step assigns to the record `rec` of `r`, in their order, where it leaves `rec'`. A record
that is removed by its deregistration is DEREGISTERED first. -/
def assigned (l : Option (Action β)) (r : RegistrationId) (rec : RegistrationRecord) :
    Option RegistrationRecord → List RegistrationLifecycle
  | some rec' => if passesRevoking l r rec then [.revoking, rec'.lifecycle] else [rec'.lifecycle]
  | none => if rec.lifecycle = .deregistering then [.deregistered] else []

/-- Every change of the lifecycle of an existing record that the step makes is in the table. -/
def LegalStep (x : Lts.Transition (System β) (Option (Action β))) : Prop :=
  ∀ r rec, x.pre.runtime.registrations.lookup r = some rec →
    List.IsChain Permitted
      (rec.lifecycle :: assigned x.label r rec (x.post.runtime.registrations.lookup r))

variable [IBackend β]

/-! ## The steps that break the table -/

/-- The lifecycles on the way out, from which nothing may become REVALIDATION_REQUIRED. -/
def retiring : RegistrationLifecycle → Bool
  | .revoking | .revoked | .deregistering | .failed => true
  | _ => false

/-- The step changes a lifecycle outside the table: a destroyed domain takes a live registration with it, a recovery
replaces a retiring record, a REVALIDATION_REQUIRED record is deregistered, or a registration commits over a record
that is not live. -/
def breaksTable (σ : System β) : Option (Action β) → Bool
  | some (.atomic (.destroyProtectionDomain d)) =>
    (σ.runtime.domains.lookup d).isSome && σ.runtime.registrations.entries.any fun e => inDomain d e.2
  | some (.atomic (.recover file)) =>
    (AtomicOp.recover (β := β) file).restores.any fun state => state.registrations.any fun rec =>
      (σ.runtime.registrations.lookup rec.id).any fun old => retiring old.lifecycle
  | some (.deregisterBegin c r) =>
    (σ.clients c).isNone && (σ.runtime.registrations.lookup r).any fun rec =>
      rec.leaseCount == 0 && rec.lifecycle == .revalidationRequired
  | some (.registerCommit c) =>
    match σ.clients c with
    | some (.registered p _) =>
      (σ.runtime.registrations.lookup p.record.id).any fun old => !old.lifecycle.isLive
    | _ => false
  | _ => false

/-! ## The lifecycles of stored records -/

/-- No record of the table is UNREGISTERED, REGISTERING or DEREGISTERED. -/
def Stored (s : Rdmabuffer β) : Prop :=
  ∀ r rec, s.registrations.lookup r = some rec →
    rec.lifecycle ≠ .unregistered ∧ rec.lifecycle ≠ .registering ∧ rec.lifecycle ≠ .deregistered

theorem stored_step {σ σ' : System β} {l : Option (Action β)} (h : (interleaved β).step σ l σ')
    (hi : Stored σ.runtime) : Stored σ'.runtime := by
  intro r rec' hr'
  have hs := recordStep h r
  rw [hr'] at hs
  generalize ho : σ.runtime.registrations.lookup r = o at hs
  cases hs with
  | keep => exact hi r rec' ho
  | leases rec | rotated rec => exact hi r rec ho
  | softRevoked rec =>
    rcases softRevoked_lifecycle rec with hl | hl <;> rw [hl] <;> exact ⟨nofun, nofun, nofun⟩
  | destroyed | reallocated | hardRevoked | recovered | committed | deregistering | failed =>
    exact ⟨nofun, nofun, nofun⟩

theorem stored_run {t : List (Lts.Transition (System β) (Option (Action β)))} {σ : System β}
    (h : (interleaved β).Run t σ) : Stored σ.runtime := by
  refine h.inv (I := fun σ => Stored σ.runtime) ?_ fun _ _ _ hs hi => stored_step hs hi
  rintro _ rfl r rec hr
  cases hr

/-! ## A step that breaks the table -/

omit [IBackend β] in
/-- A step outside a revoke that leaves the record in a lifecycle the table does not permit is not legal. -/
theorem not_legal {x : Lts.Transition (System β) (Option (Action β))} {r : RegistrationId}
    {rec : RegistrationRecord} (hr : x.pre.runtime.registrations.lookup r = some rec) (rec' : RegistrationRecord)
    (hr' : x.post.runtime.registrations.lookup r = some rec') (hp : passesRevoking x.label r rec = false)
    (hn : ¬Permitted rec.lifecycle rec'.lifecycle) : ¬LegalStep x := by
  intro h
  have hc := h r rec hr
  rw [hr', assigned, hp, if_neg Bool.false_ne_true, List.isChain_cons_cons] at hc
  exact hn hc.1

theorem not_permitted_revoked {l : RegistrationLifecycle} (h : l.isLive = true) : ¬Permitted l .revoked := by
  cases l with
  | active | registered => decide
  | _ => cases h

theorem not_permitted_revalidation {l : RegistrationLifecycle} (h : retiring l = true) :
    ¬Permitted l .revalidationRequired := by
  cases l with
  | revoking | revoked | deregistering | failed => decide
  | _ => cases h

theorem not_legal_destroyProtectionDomain {σ : System β} {d : ProtectionDomainId}
    (hd : (σ.runtime.domains.lookup d).isSome = true)
    (ha : (σ.runtime.registrations.entries.any fun e => inDomain d e.2) = true) :
    ¬LegalStep ⟨σ, some (.atomic (.destroyProtectionDomain d)), σ.exec (.atomic (.destroyProtectionDomain d))⟩ := by
  obtain ⟨de, hd⟩ := Option.isSome_iff_exists.1 hd
  obtain ⟨⟨r, rec⟩, hm, hhit⟩ := List.any_eq_true.1 ha
  have hr := Table.mem_entries.1 hm
  have hlive : rec.lifecycle.isLive = true := (Bool.and_eq_true_iff.1 hhit).2
  refine not_legal hr (withdraw .revoked (lit "protection domain destroyed") rec) ?_ rfl
    (not_permitted_revoked hlive)
  show (σ.runtime.destroyProtectionDomain d).1.registrations.lookup r = _
  unfold destroyProtectionDomain
  simp only [hd]
  show (withdrawn (inDomain d) _ _ σ.runtime.registrations).lookup r = _
  rw [withdrawn, Table.lookup_mapVals, hr, Option.map_some, if_pos hhit]

theorem not_legal_recover {σ : System β} {file : Option Bytes} {state : PersistableState}
    (hres : (AtomicOp.recover (β := β) file).restores = some state)
    (ha : (state.registrations.any fun rec =>
      (σ.runtime.registrations.lookup rec.id).any fun old => retiring old.lifecycle) = true) :
    ¬LegalStep ⟨σ, some (.atomic (.recover file)), σ.exec (.atomic (.recover file))⟩ := by
  obtain ⟨rec, hm, ha⟩ := List.any_eq_true.1 ha
  obtain ⟨old, hr, hret⟩ := (Option.any_eq_true _ _).1 ha
  rcases (run_restores (s := σ.runtime) hres).registration rec.id with ⟨hnot, -⟩ | ⟨rec₁, -, -, hr'⟩
  · exact absurd rfl (hnot rec hm)
  · exact not_legal hr (recoveredRecord rec₁) hr' rfl (not_permitted_revalidation hret)

theorem not_legal_deregisterBegin {σ : System β} {c : Nat} {r : RegistrationId} {rec : RegistrationRecord}
    (hc : σ.clients c = none) (hr : σ.runtime.registrations.lookup r = some rec) (hn : rec.leaseCount = 0)
    (hl : rec.lifecycle = .revalidationRequired) :
    ¬LegalStep ⟨σ, some (.deregisterBegin c r), σ.exec (.deregisterBegin c r)⟩ := by
  have hnot : ¬Permitted .revalidationRequired .deregistering := by decide
  refine not_legal hr { rec with lifecycle := .deregistering } ?_ rfl (by rw [hl]; exact hnot)
  simp only [System.exec, hc, deregisterBegin_accepts hr hn (by rw [hl]; rfl)]
  exact Table.lookup_put_self _ _ _

theorem not_legal_registerCommit {σ : System β} (hi : Stored σ.runtime) {c : Nat} {p : PendingRegistration}
    {bout : BackendRegistration} (hc : σ.clients c = some (.registered p bout)) {old : RegistrationRecord}
    (hr : σ.runtime.registrations.lookup p.record.id = some old) (hl : old.lifecycle.isLive = false) :
    ¬LegalStep ⟨σ, some (.registerCommit c), σ.exec (.registerCommit c)⟩ := by
  refine not_legal hr (commitRecord σ.runtime.authority p bout) (committed_lookup hc) rfl ?_
  · obtain ⟨-, hreg, -⟩ := hi _ _ hr
    show ¬Permitted old.lifecycle .active
    cases hlife : old.lifecycle with
    | active | registered => rw [hlife] at hl; cases hl
    | registering => exact absurd hlife hreg
    | _ => decide

/-! ## A step that keeps the table -/

theorem permitted_of_live {l : RegistrationLifecycle} (h : l.isLive = true) :
    Permitted l .revoking ∧ Permitted l .active ∧ Permitted l .stale := by
  cases l with
  | active | registered => decide
  | _ => cases h

theorem permitted_deregistering {l : RegistrationLifecycle} (h : deregisterable l = true)
    (hne : l ≠ .revalidationRequired) : Permitted l .deregistering := by
  cases l with
  | active | registered | revoked | stale => decide
  | revalidationRequired => exact absurd rfl hne
  | _ => cases h

omit [IBackend β] [Environment β] in
theorem Stored.permitted_revalidation {s : Rdmabuffer β} (hi : Stored s) {r : RegistrationId} {rec : RegistrationRecord}
    (hr : s.registrations.lookup r = some rec) (hret : retiring rec.lifecycle = false) :
    Permitted rec.lifecycle .revalidationRequired := by
  obtain ⟨hun, hreg, hdereg⟩ := hi r rec hr
  cases hlife : rec.lifecycle with
  | active | registered | stale | revalidationRequired => decide
  | unregistered => exact absurd hlife hun
  | registering => exact absurd hlife hreg
  | deregistered => exact absurd hlife hdereg
  | _ => rw [hlife] at hret; cases hret

omit [IBackend β] in
/-- A recovery that keeps the table replaces no retiring record. -/
theorem not_retiring_of_keeps {σ : System β} {bytes : Bytes} {state : PersistableState}
    (hb : breaksTable σ (some (.atomic (.recover (some bytes)))) = false) (hp : Persistence.parse bytes = .ok state)
    {new rec : RegistrationRecord} (hm : new ∈ state.registrations)
    (hr : σ.runtime.registrations.lookup new.id = some rec) : retiring rec.lifecycle = false := by
  by_contra hret
  have hmem : (state.registrations.any fun rec =>
      (σ.runtime.registrations.lookup rec.id).any fun old => retiring old.lifecycle) = true :=
    List.any_eq_true.2 ⟨new, hm, by rw [hr]; simpa using hret⟩
  rw [breaksTable, restores_of_parse hp, Option.any_some, hmem] at hb
  cases hb

omit [IBackend β] in
/-- A commit that keeps the table replaces only a live record. -/
theorem live_of_keeps {σ : System β} {c : Nat} {p : PendingRegistration} {bout : BackendRegistration}
    (hb : breaksTable σ (some (.registerCommit c)) = false) (hc : σ.clients c = some (.registered p bout))
    {rec : RegistrationRecord} (hr : σ.runtime.registrations.lookup p.record.id = some rec) :
    rec.lifecycle.isLive = true := by
  simp only [breaksTable, hc] at hb
  rw [hr, Option.any_some] at hb
  simpa using hb

omit [IBackend β] in
/-- A destruction that keeps the table is of a domain that is not known, and changes nothing. -/
theorem unchanged_of_keeps {σ : System β} {d : ProtectionDomainId}
    (hb : breaksTable σ (some (.atomic (.destroyProtectionDomain d))) = false) {r : RegistrationId}
    {rec : RegistrationRecord} (hr : σ.runtime.registrations.lookup r = some rec) (hit : inDomain d rec = true) :
    (σ.runtime.destroyProtectionDomain d).1 = σ.runtime := by
  have hmem : (σ.runtime.registrations.entries.any fun e => inDomain d e.2) = true :=
    List.any_eq_true.2 ⟨⟨r, rec⟩, Table.mem_entries.2 hr, hit⟩
  have hdom : σ.runtime.domains.lookup d = none := by
    rw [breaksTable, hmem, Bool.and_true] at hb
    simpa using hb
  unfold destroyProtectionDomain
  simp only [hdom]

omit [IBackend β] in
theorem passesRevoking_iff {l : Option (Action β)} {r : RegistrationId} {rec : RegistrationRecord} :
    passesRevoking l r rec = true ↔
      (∃ mode, l = some (.atomic (.revoke r mode))) ∧ rec.lifecycle.isLive = true := by
  constructor
  · intro h
    unfold passesRevoking at h
    split at h
    · rename_i k mode
      simp only [Bool.and_eq_true, beq_iff_eq] at h
      obtain ⟨rfl, hl⟩ := h
      exact ⟨⟨mode, rfl⟩, hl⟩
    · cases h
  · rintro ⟨⟨mode, rfl⟩, hl⟩
    simp [passesRevoking, hl]

omit [IBackend β] in
theorem chain_assigned {l : Option (Action β)} {r : RegistrationId} {rec rec' : RegistrationRecord}
    (hp : passesRevoking l r rec = false) (h : Permitted rec.lifecycle rec'.lifecycle) :
    List.IsChain Permitted (rec.lifecycle :: assigned l r rec (some rec')) := by
  rw [assigned, hp, if_neg Bool.false_ne_true]
  exact List.isChain_cons_cons.2 ⟨h, .singleton _⟩

omit [IBackend β] in
/-- A revoke takes a live record through REVOKING, as the table has it. -/
theorem legal_revoke {s : Rdmabuffer β} {r : RegistrationId} {rec : RegistrationRecord}
    (hr : s.registrations.lookup r = some rec) (hl : rec.lifecycle.isLive = true) (mode : RevocationMode) :
    List.IsChain Permitted (rec.lifecycle ::
      assigned (β := β) (some (.atomic (.revoke r mode))) r rec ((s.revoke r mode).1.registrations.lookup r)) := by
  obtain ⟨hfirst, -⟩ := permitted_of_live hl
  have hpass : passesRevoking (β := β) (some (.atomic (.revoke r mode))) r rec = true :=
    passesRevoking_iff.2 ⟨⟨mode, rfl⟩, hl⟩
  have hsecond : Permitted .revoking (revoked mode rec).lifecycle := by
    cases mode with
    | hardRevoke => exact (by decide : Permitted .revoking .revoked)
    | softRevoke =>
      show Permitted .revoking (softRevoked rec).lifecycle
      rcases softRevoked_lifecycle rec with hl | hl <;> rw [hl] <;> decide
  obtain ⟨-, hregs, -⟩ := revoke_live hr hl mode
  rw [hregs, Table.lookup_put_self, assigned, if_pos hpass]
  exact List.isChain_cons_cons.2 ⟨hfirst, List.isChain_cons_cons.2 ⟨hsecond, .singleton _⟩⟩

/-- A step that does not break the table changes lifecycles only as it has them. -/
theorem legal_step {σ σ' : System β} {l : Option (Action β)} (h : (interleaved β).step σ l σ')
    (hi : Stored σ.runtime) (hd : Draining σ) (hb : breaksTable σ l = false) : LegalStep ⟨σ, l, σ'⟩ := by
  intro r rec hr
  have hr : σ.runtime.registrations.lookup r = some rec := hr
  show List.IsChain Permitted (rec.lifecycle :: assigned l r rec (σ'.runtime.registrations.lookup r))
  cases hp : passesRevoking l r rec with
  | true =>
    obtain ⟨⟨mode, rfl⟩, hl⟩ := passesRevoking_iff.1 hp
    obtain rfl : σ' = σ.exec (.atomic (.revoke r mode)) := h
    exact legal_revoke hr hl mode
  | false =>
    have hs := recordStep h r
    rw [hr] at hs
    generalize ho' : σ'.runtime.registrations.lookup r = o' at hs
    cases hs with
    | keep | leases | rotated => exact chain_assigned hp (.inl rfl)
    | hardRevoked _ hl hlive | softRevoked _ hl hlive =>
      rw [passesRevoking_iff.2 ⟨⟨_, hl⟩, hlive⟩] at hp
      cases hp
    | destroyed d rec hl hit =>
      subst hl
      obtain rfl : σ' = σ.exec (.atomic (.destroyProtectionDomain d)) := h
      have ho' : (σ.runtime.destroyProtectionDomain d).1.registrations.lookup r = _ := ho'
      rw [unchanged_of_keeps hb hr hit, hr] at ho'
      exact chain_assigned hp (.inl (congrArg RegistrationRecord.lifecycle (Option.some.inj ho').symm))
    | reallocated descriptor rec hl hit =>
      have hlive : rec.lifecycle.isLive = true := by
        obtain ⟨-, hreg, -⟩ := hi r rec hr
        simpa [onBuffer, hreg] using (Bool.and_eq_true_iff.1 hit).2
      obtain ⟨-, -, hstale⟩ := permitted_of_live hlive
      exact chain_assigned hp hstale
    | recovered bytes state rec₀ _ hl hparse hm hid =>
      subst hl
      exact chain_assigned hp (hi.permitted_revalidation hr (not_retiring_of_keeps hb hparse hm (hid ▸ hr)))
    | committed c p bout _ hl hc hid =>
      subst hl
      obtain ⟨-, hactive, -⟩ := permitted_of_live (live_of_keeps hb hc (hid ▸ hr))
      exact chain_assigned hp hactive
    | deregistering c rec hl hc hdl hn =>
      subst hl
      have hne : rec.lifecycle ≠ .revalidationRequired := by
        simpa [breaksTable, hc, hr, hn] using hb
      exact chain_assigned hp (permitted_deregistering hdl hne)
    | failed c d bo rec hl hc hid =>
      -- the deregistration finds the record as it left it
      obtain ⟨rec₀, hr₀, hlife, -⟩ := hd.record c d (.inr ⟨_, hc⟩)
      rw [hid, hr] at hr₀
      obtain rfl := Option.some.inj hr₀
      apply chain_assigned hp
      rw [hlife]
      exact .inr rfl
    | removed =>
      rw [assigned]
      split
      · rename_i hlife
        rw [hlife]
        exact List.isChain_cons_cons.2 ⟨.inr rfl, .singleton _⟩
      · exact .singleton _

/-! ## The run -/

omit [IBackend β] in
/-- As long as the table is kept no record takes the place of one that is being deregistered. -/
theorem not_arrives_of_keeps {σ : System β} {l : Option (Action β)} (hd : Draining σ) (hb : breaksTable σ l = false)
    {c : Nat} {d : PendingDeregistration} {rec' : RegistrationRecord} (hc : σ.HasDeregistration c d) :
    ¬Arrives σ l d.registration rec' := by
  obtain ⟨rec, hr, hlife, -⟩ := hd.record c d hc
  rintro (⟨c', p, bout, rfl, hcl, hid, -⟩ | ⟨bytes, state, rec₀, rfl, hparse, hm, hid, -⟩)
  · have hlive := live_of_keeps hb hcl (hid ▸ hr)
    rw [hlife] at hlive
    cases hlive
  · have hret := not_retiring_of_keeps hb hparse hm (hid ▸ hr)
    rw [hlife] at hret
    cases hret

theorem draining_of_keeps {t : List (Lts.Transition (System β) (Option (Action β)))} {σ : System β}
    (h : (interleaved β).Run t σ) (hb : ∀ x ∈ t, breaksTable x.pre x.label = false) : Draining σ := by
  refine h.inv_of (I := Draining) (C := fun x => breaksTable x.pre x.label = false) ?_ ?_ hb
  · rintro _ rfl
    exact draining_init
  · intro σ l σ' hs hc hi
    exact draining_step hs (fun c d rec' hcd => not_arrives_of_keeps hi hc hcd) hi

/-- A step that breaks the table is not legal. -/
theorem not_legal_step {σ σ' : System β} {l : Option (Action β)} (h : (interleaved β).step σ l σ')
    (hi : Stored σ.runtime) (hb : breaksTable σ l = true) : ¬LegalStep ⟨σ, l, σ'⟩ := by
  unfold breaksTable at hb
  split at hb
  · rename_i d
    obtain rfl : σ' = σ.exec (.atomic (.destroyProtectionDomain d)) := h
    obtain ⟨hd, ha⟩ := Bool.and_eq_true_iff.1 hb
    exact not_legal_destroyProtectionDomain hd ha
  · rename_i file
    obtain rfl : σ' = σ.exec (.atomic (.recover file)) := h
    obtain ⟨state, hres, ha⟩ := (Option.any_eq_true _ _).1 hb
    exact not_legal_recover hres ha
  · rename_i c r
    obtain rfl : σ' = σ.exec (.deregisterBegin c r) := h
    obtain ⟨hc, ha⟩ := Bool.and_eq_true_iff.1 hb
    obtain ⟨rec, hr, hrec⟩ := (Option.any_eq_true _ _).1 ha
    simp only [Bool.and_eq_true, beq_iff_eq] at hrec
    exact not_legal_deregisterBegin (Option.isNone_iff_eq_none.1 hc) hr hrec.1 hrec.2
  · rename_i c
    obtain rfl : σ' = σ.exec (.registerCommit c) := h
    split at hb
    · rename_i p bout hc
      obtain ⟨old, hr, hl⟩ := (Option.any_eq_true _ _).1 hb
      exact not_legal_registerCommit hi hc hr (by simpa using hl)
    · cases hb
  · cases hb

/-- The lifecycles of a run change as the table has them exactly if none of its steps breaks it. -/
theorem lifecycles_legal_iff (t : List (Lts.Transition (System β) (Option (Action β)))) (σ : System β)
    (h : (interleaved β).Run t σ) : (∀ x ∈ t, LegalStep x) ↔ ∀ x ∈ t, breaksTable x.pre x.label = false := by
  constructor
  · intro hl x hx
    obtain ⟨t₁, t₂, -, hrun, hs, -⟩ := h.at_mem hx
    by_contra hb
    exact not_legal_step hs (stored_run hrun) (by simpa using hb) (hl x hx)
  · intro hb x hx
    obtain ⟨t₁, t₂, rfl, hrun, hs, -⟩ := h.at_mem hx
    have hd := draining_of_keeps hrun fun y hy => hb y (List.mem_append_left _ hy)
    exact legal_step hs (stored_run hrun) hd (hb x hx)

end

open Session

/-- The page is registered and leased, its registration revoked, and the lease released. -/
def leasedRevoked : List (Action Backend) :=
  registration 0 page ++
    [.atomic (.acquireLease ⟨1⟩ envelope 0x08), .atomic (.revoke ⟨1⟩ .softRevoke), .atomic (.releaseLease ⟨1⟩)]

theorem lifecycles_legal_iff_revoked : ∃ t, (interleaved Backend).Run t (after leasedRevoked) ∧ t.length = 10 ∧
    ∀ x ∈ t, LegalStep x := by
  have hr : (interleaved Backend).Run _ (after leasedRevoked) := ⟨{}, rfl, System.path_run _ _⟩
  exact ⟨_, hr, rfl, (lifecycles_legal_iff _ _ hr).2 (by decide +kernel)⟩

/-- The registered page, before its domain is destroyed. -/
def committedPage : System Backend := after (registration 0 page)

/-- A destroyed domain takes the registration of the page from ACTIVE to REVOKED at once. -/
theorem destroyed_not_legal : ∃ t σ, (interleaved Backend).Run t σ ∧ (¬∀ x ∈ t, LegalStep x) ∧
    (committedPage.runtime.registrations.lookup ⟨1⟩).map (·.lifecycle) = some .active ∧
    (σ.runtime.registrations.lookup ⟨1⟩).map (·.lifecycle) = some .revoked ∧
    canTransition .active .revoked = false := by
  have hr : (interleaved Backend).Run _ committedPage := ⟨{}, rfl, System.path_run _ _⟩
  have hs := Lts.Path.single (M := interleaved Backend) (s := committedPage)
    (l := some (.atomic (.destroyProtectionDomain ⟨1⟩))) rfl
  refine ⟨_, _, hr.append hs, fun hl => ?_, by decide +kernel, by decide +kernel, rfl⟩
  have hx := hl _ (List.mem_append_right _ (List.mem_singleton_self _))
  exact not_legal_destroyProtectionDomain (by decide +kernel) (by decide +kernel) hx

end RdmaBuffer
