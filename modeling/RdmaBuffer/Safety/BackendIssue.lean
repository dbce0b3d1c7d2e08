/-
What a synthetic backend issues: the sequence number of a registration decides its region, and the region its handle and
its keys, so that none of them comes twice, and a handle that is no longer live never is again.
-/
import RdmaBuffer.Safety.KeyCopies

namespace RdmaBuffer

open Backend

/-! ## The registrations of a run -/

/-- The registration that the transition made. -/
def registrationMade (x : Lts.Transition SyntheticBackend SyntheticAction) : Option BackendRegistration :=
  match x.label with
  | .call (.registerBuffer buffer ctx) =>
    let (_, outcome, r) := x.pre.registerBuffer buffer ctx
    if outcome.ok then some r else none
  | _ => none

/-- The registrations ever made, in order. -/
def made (t : List (Lts.Transition SyntheticBackend SyntheticAction)) : List BackendRegistration :=
  t.filterMap registrationMade

/-- The action ends the registration under the handle, if there is one. -/
def Drops (h : StdString) : SyntheticAction → Prop
  | .call (.deregisterBuffer handle) | .call (.abortRegistration handle) => handle.handle = h
  | .control .simulateBackendRestart => True
  | _ => False

/-- Nothing that the run issued was issued twice; no registration met a live entry under its handle; and a handle whose
registration has ended is not registered. -/
structure NeverReissued (t : List (Lts.Transition SyntheticBackend SyntheticAction)) (b : SyntheticBackend) : Prop where
  regions : ((made t).map (·.memoryRegionId)).Nodup
  handles : ((made t).map (·.handle)).Nodup
  remoteKeys : ((made t).map (·.keys.remoteKeyId)).Nodup
  localKeys : ((made t).map (·.keys.localKeyId)).Nodup
  fresh : ∀ x ∈ t, ∀ r, registrationMade x = some r → x.pre.entries.lookup r.handle = none
  dead : ∀ t₁ x t₂, t = t₁ ++ x :: t₂ → ∀ r ∈ made t₁, Drops r.handle x.label →
    ∀ handle : RegisterHandle, handle.handle = r.handle → ∀ key kind offset length,
      (b.queryRemoteAccess handle key kind offset length).2.1 = .rejectNotRegistered

/-! ## One step -/

/-- The registration is the one that the region makes. -/
structure MadeFor (region : MemoryRegionId) (r : BackendRegistration) : Prop where
  memoryRegion : r.memoryRegionId = region
  handle : r.handle = SyntheticBackend.makeHandle region
  remoteKey : r.keys.remoteKeyId = ⟨region.value * 3 + 1⟩
  localKey : r.keys.localKeyId = ⟨region.value * 3 + 2⟩

/-- A step makes the next registration of the sequence, or it makes none. -/
inductive IssueStep (b : SyntheticBackend) (a : SyntheticAction) : Prop
  | issues (r : BackendRegistration) (hr : registrationMade ⟨b, a, a.exec b⟩ = some r)
      (hmade : MadeFor (b.regionAt b.nextSeq) r) (hnext : (a.exec b).nextSeq = b.nextSeq + 1)
      (hregion : (a.exec b).regionAt = b.regionAt)
      (hold : ∀ h ≠ r.handle, (a.exec b).entries.lookup h ≠ none → b.entries.lookup h ≠ none)
  | issuesNone (hr : registrationMade ⟨b, a, a.exec b⟩ = none) (hnext : (a.exec b).nextSeq = b.nextSeq)
      (hregion : (a.exec b).regionAt = b.regionAt)
      (hold : ∀ h, (a.exec b).entries.lookup h ≠ none → b.entries.lookup h ≠ none)

/-- An entry of a handle that no registration was made under was there before. -/
theorem lookup_ne_none_of_step {b : SyntheticBackend} {a : SyntheticAction} {h : StdString}
    (hne : ∀ buffer ctx, a = .call (.registerBuffer buffer ctx) → h ≠ SyntheticBackend.makeHandle (b.regionAt b.nextSeq))
    (hlive : (a.exec b).entries.lookup h ≠ none) : b.entries.lookup h ≠ none := by
  obtain ⟨e', he'⟩ := Option.ne_none_iff_exists'.1 hlive
  cases entryStep he' with
  | kept he => rw [he]; exact Option.some_ne_none _
  | registered buffer ctx ha hh he => exact absurd hh (hne buffer ctx ha)
  | revalidated handle e ha hh hl he => rw [hl]; exact Option.some_ne_none _
  | rotated handle g e ha hh hl he => rw [hl]; exact Option.some_ne_none _
  | rolledOver e ha hl he => rw [hl]; exact Option.some_ne_none _

theorem issueStep_registerBuffer (b : SyntheticBackend) (buffer : BufferDescriptor) (ctx : RegistrationContext) :
    IssueStep b (.call (.registerBuffer buffer ctx)) := by
  by_cases hreason : b.canRegister buffer = []
  · have hreg : b.registerBuffer buffer ctx =
        ({ b with
            nextSeq := b.nextSeq + 1
            entries := Table.put (SyntheticBackend.makeHandle (b.regionAt b.nextSeq))
              { ctx := ctx, reg := b.makeRegistration (b.regionAt b.nextSeq) buffer ctx, keyGeneration := ⟨1⟩ } b.entries
            regionHandle := Table.put (b.regionAt b.nextSeq)
              (SyntheticBackend.makeHandle (b.regionAt b.nextSeq)) b.regionHandle },
          { ok := true, code := lit "REGISTERED", message := lit "Synthetic registration committed." },
          b.makeRegistration (b.regionAt b.nextSeq) buffer ctx) := if_neg (not_not_intro hreason)
    have hexec : SyntheticAction.exec b (.call (.registerBuffer buffer ctx)) = (b.registerBuffer buffer ctx).1 := rfl
    refine .issues (b.makeRegistration (b.regionAt b.nextSeq) buffer ctx) ?_ ⟨rfl, rfl, rfl, rfl⟩ ?_ ?_ ?_
    · simp only [registrationMade, hreg, if_true]
    · rw [hexec, hreg]
    · rw [hexec, hreg]
      rfl
    · intro h hne
      exact lookup_ne_none_of_step fun _ _ _ => hne
  · have hreg : b.registerBuffer buffer ctx =
        (b, { ok := false, code := b.canRegister buffer
              message := lit "Synthetic backend rejects registration: " ++ b.canRegister buffer }, {}) := if_pos hreason
    have hexec : SyntheticAction.exec b (.call (.registerBuffer buffer ctx)) = b := congrArg Prod.fst hreg
    refine .issuesNone ?_ ?_ ?_ ?_
    · simp only [registrationMade, hreg, Bool.false_eq_true, if_false]
    · rw [hexec]
    · rw [hexec]
    · rw [hexec]
      exact fun h hlive => hlive

theorem issueStep (b : SyntheticBackend) (a : SyntheticAction) : IssueStep b a := by
  cases a with
  | control c =>
    refine .issuesNone rfl ?_ ?_ fun h => lookup_ne_none_of_step fun _ _ ha => by cases ha
    · cases c <;> rfl
    · cases c <;> rfl
  | call c =>
    -- only a registration touches the sequence and the seed
    have hkept : (∀ buffer ctx, c ≠ .registerBuffer buffer ctx) →
        (SyntheticAction.exec b (.call c)).nextSeq = b.nextSeq ∧ (SyntheticAction.exec b (.call c)).seed = b.seed := by
      intro hne
      cases c with
      | registerBuffer buffer ctx => exact absurd rfl (hne buffer ctx)
      | _ =>
        simp only [SyntheticAction.exec, BackendCall.run, IBackend.deregisterBuffer, IBackend.queryRegistration,
          IBackend.queryRemoteAccess, IBackend.revalidate, IBackend.abortRegistration, IBackend.rotateKey,
          SyntheticBackend.deregisterBuffer, SyntheticBackend.queryRegistration, SyntheticBackend.queryRemoteAccess,
          SyntheticBackend.revalidate, SyntheticBackend.abortRegistration, SyntheticBackend.rotateKey]
        split <;> exact ⟨rfl, rfl⟩
    cases c with
    | registerBuffer buffer ctx => exact issueStep_registerBuffer b buffer ctx
    | _ =>
      obtain ⟨hnext, hseed⟩ := hkept fun _ _ hc => by cases hc
      refine .issuesNone rfl hnext ?_ fun h => lookup_ne_none_of_step fun _ _ ha => by cases ha
      funext n
      unfold SyntheticBackend.regionAt
      rw [hseed]

/-! ## What a run has issued -/

/-- The regions of the run are those of the sequence numbers it has used, in order, and every live entry is under the
handle of one of its registrations. -/
structure Issued (t : List (Lts.Transition SyntheticBackend SyntheticAction)) (b : SyntheticBackend) : Prop where
  next : b.nextSeq = UInt64.ofNat ((made t).length + 1)
  regions : (made t).map (·.memoryRegionId) =
    (List.range (made t).length).map fun n => b.regionAt (UInt64.ofNat (n + 1))
  shape : ∀ r ∈ made t, MadeFor r.memoryRegionId r
  live : ∀ h, b.entries.lookup h ≠ none → ∃ r ∈ made t, r.handle = h

theorem made_snoc (t : List (Lts.Transition SyntheticBackend SyntheticAction))
    (x : Lts.Transition SyntheticBackend SyntheticAction) : made (t ++ [x]) = made t ++ (registrationMade x).toList := by
  unfold made
  rw [List.filterMap_append]
  cases hx : registrationMade x <;> simp [hx]

theorem issued_step {t : List (Lts.Transition SyntheticBackend SyntheticAction)} {b : SyntheticBackend}
    (a : SyntheticAction) (hi : Issued t b) : Issued (t ++ [⟨b, a, a.exec b⟩]) (a.exec b) := by
  cases issueStep b a with
  | issues r hr hmade hnext hregion hold =>
    have hsnoc : made (t ++ [⟨b, a, a.exec b⟩]) = made t ++ [r] := by rw [made_snoc, hr, Option.toList_some]
    constructor
    · rw [hsnoc, hnext, hi.next, List.length_append, List.length_singleton]
      exact (UInt64.ofNat_add _ 1).symm
    · rw [hsnoc, hregion, List.map_append, hi.regions, List.length_append, List.length_singleton, List.range_succ,
        List.map_append]
      simp only [List.map_cons, List.map_nil, hmade.memoryRegion, hi.next]
    · intro r' hr'
      rw [hsnoc, List.mem_append, List.mem_singleton] at hr'
      rcases hr' with hr' | rfl
      · exact hi.shape r' hr'
      · rw [hmade.memoryRegion]
        exact hmade
    · intro h hlive
      rw [hsnoc]
      by_cases hh : h = r.handle
      · exact ⟨r, by simp, hh.symm⟩
      · obtain ⟨r', hr', hh'⟩ := hi.live h (hold h hh hlive)
        exact ⟨r', List.mem_append_left _ hr', hh'⟩
  | issuesNone hr hnext hregion hold =>
    have hsnoc : made (t ++ [⟨b, a, a.exec b⟩]) = made t := by
      rw [made_snoc, hr, Option.toList_none, List.append_nil]
    constructor
    · rw [hsnoc, hnext, hi.next]
    · rw [hsnoc, hregion, hi.regions]
    · rw [hsnoc]
      exact hi.shape
    · rw [hsnoc]
      exact fun h hlive => hi.live h (hold h hlive)

theorem issued_run {t : List (Lts.Transition SyntheticBackend SyntheticAction)} {b : SyntheticBackend}
    (h : syntheticBackend.Run t b) : Issued t b := by
  refine h.trace_inv (I := Issued) (C := fun _ _ => True) ?_ ?_ fun _ _ _ _ => trivial
  · rintro _ ⟨seed, rfl⟩
    exact ⟨rfl, rfl, fun r hr => absurd hr List.not_mem_nil, fun h hlive => absurd rfl hlive⟩
  · rintro t b a _ rfl - hi
    exact issued_step a hi

/-! ## Nothing twice -/

theorem makeHandle_injective : Function.Injective SyntheticBackend.makeHandle :=
  fun _ _ h => StrongId.value_inj.1 (toHex_inj (List.append_cancel_left h))

theorem regionAt_injOn (b : SyntheticBackend) {n m : Nat} (hn : n < 2 ^ 57) (hm : m < 2 ^ 57)
    (h : b.regionAt (UInt64.ofNat n) = b.regionAt (UInt64.ofNat m)) : n = m := by
  have hword : ∀ {k : Nat}, k < 2 ^ 57 → (UInt64.ofNat k).toNat = k := fun hk =>
    UInt64.toNat_ofNat_of_lt' (lt_trans hk (by decide))
  have heq := synthetic_handle_inj b ((hword hn).symm ▸ hn) ((hword hm).symm ▸ hm)
    (congrArg SyntheticBackend.makeHandle h)
  rw [← hword hn, ← hword hm, heq]

variable {t : List (Lts.Transition SyntheticBackend SyntheticAction)} {b : SyntheticBackend}

theorem Issued.regions_nodup (hi : Issued t b) (hlen : (made t).length < 2 ^ 57) :
    ((made t).map (·.memoryRegionId)).Nodup := by
  rw [hi.regions]
  refine List.Nodup.map_on ?_ List.nodup_range
  intro n hn m hm h
  rw [List.mem_range] at hn hm
  have := regionAt_injOn b (by omega) (by omega) h
  omega

/-- What an injective function of the region decides does not come twice either. -/
theorem Issued.nodup_of_region {α : Type} (hi : Issued t b) (hlen : (made t).length < 2 ^ 57)
    {f : BackendRegistration → α} {g : MemoryRegionId → α} (hg : Function.Injective g)
    (hf : ∀ r ∈ made t, f r = g r.memoryRegionId) : ((made t).map f).Nodup := by
  have hregions := (hi.regions_nodup hlen).map hg
  rw [List.map_map] at hregions
  rw [List.map_congr_left hf]
  exact hregions

/-- A key id that is three times the region and a bit is that of no other region. -/
theorem key_injective {kind : IdKind} (k : UInt64) :
    Function.Injective fun region : MemoryRegionId => (⟨region.value * 3 + k⟩ : StrongId kind) := by
  intro r r' h
  have hvalue := UInt64.add_left_inj k |>.1 (StrongId.value_inj.2 h)
  exact StrongId.value_inj.1 (UInt64.mul_injective (d := 0xAAAAAAAAAAAAAAAB) rfl hvalue)

theorem Issued.handles_nodup (hi : Issued t b) (hlen : (made t).length < 2 ^ 57) :
    ((made t).map (·.handle)).Nodup :=
  hi.nodup_of_region hlen makeHandle_injective fun r hr => (hi.shape r hr).handle

/-- A registration finds no live entry under its handle. -/
theorem fresh_of_nodup (hi : Issued t b) {r : BackendRegistration} (hnodup : ((made t ++ [r]).map (·.handle)).Nodup) :
    b.entries.lookup r.handle = none := by
  by_contra hlive
  obtain ⟨r', hr', hh⟩ := hi.live _ hlive
  rw [List.map_append, List.nodup_append] at hnodup
  exact hnodup.2.2 _ (List.mem_map_of_mem hr') _ (List.mem_singleton_self _) hh

/-! ## Ended registrations -/

/-- The run ended the registration `r` after it made it. -/
def Dropped (r : BackendRegistration) (t : List (Lts.Transition SyntheticBackend SyntheticAction)) : Prop :=
  ∃ t₁ x t₂, t = t₁ ++ x :: t₂ ∧ r ∈ made t₁ ∧ Drops r.handle x.label

theorem Dropped.made {r : BackendRegistration} (h : Dropped r t) : r ∈ made t := by
  obtain ⟨t₁, x, t₂, rfl, hr, -⟩ := h
  unfold RdmaBuffer.made at hr ⊢
  rw [List.filterMap_append]
  exact List.mem_append_left _ hr

theorem dropped_snoc {r : BackendRegistration} {x : Lts.Transition SyntheticBackend SyntheticAction}
    (h : Dropped r (t ++ [x])) : Dropped r t ∨ (r ∈ made t ∧ Drops r.handle x.label) := by
  obtain ⟨t₁, y, t₂, ht, hr, hd⟩ := h
  rcases List.eq_nil_or_concat t₂ with rfl | ⟨t₃, z, rfl⟩
  · obtain ⟨rfl, hx⟩ := List.append_inj' ht rfl
    obtain rfl := List.singleton_inj.1 hx
    exact .inr ⟨hr, hd⟩
  · have ht' : t ++ [x] = (t₁ ++ y :: t₃) ++ [z] := by rw [ht]; simp
    obtain ⟨rfl, -⟩ := List.append_inj' ht' rfl
    exact .inl ⟨t₁, y, t₃, rfl, hr, hd⟩

/-- The action that drops a handle leaves no entry under it. -/
theorem lookup_of_drops {a : SyntheticAction} {h : StdString} (hd : Drops h a) : (a.exec b).entries.lookup h = none := by
  cases a with
  | control c =>
    cases c with
    | simulateBackendRestart => rfl
    | _ => cases hd
  | call c =>
    cases c with
    | deregisterBuffer handle =>
      obtain rfl : handle.handle = h := hd
      show (b.deregisterBuffer handle).1.entries.lookup _ = none
      unfold SyntheticBackend.deregisterBuffer
      split
      · rename_i hnone
        exact hnone
      · exact AList.lookup_erase _ _
    | abortRegistration handle =>
      obtain rfl : handle.handle = h := hd
      show (b.abortRegistration handle).1.entries.lookup _ = none
      unfold SyntheticBackend.abortRegistration
      split
      · rename_i hnone
        exact hnone
      · exact AList.lookup_erase _ _
    | _ => cases hd

/-- While no handle has come twice, there is no entry under that of a registration that has ended. -/
theorem lookup_of_dropped (h : syntheticBackend.Run t b) (hnodup : ((made t).map (·.handle)).Nodup) :
    ∀ r, Dropped r t → b.entries.lookup r.handle = none := by
  obtain ⟨b₀, h₀, hp⟩ := h
  induction hp with
  | nil =>
    rintro r ⟨t₁, x, t₂, ht, -⟩
    exact absurd ht.symm (by simp)
  | @snoc u v t a hp hs ih =>
    obtain rfl : v = a.exec u := hs
    intro r hr
    rw [made_snoc, List.map_append] at hnodup
    rcases dropped_snoc hr with hdropped | ⟨-, hd⟩
    · by_contra hlive
      have hgone := ih (List.nodup_append.1 hnodup).1 r hdropped
      cases issueStep u a with
      | issues r' hr' hmade hnext hregion hold =>
        -- the step would have to issue the handle again
        refine hold r.handle (fun heq => ?_) hlive hgone
        rw [hr'] at hnodup
        exact (List.nodup_append.1 hnodup).2.2 _ (List.mem_map_of_mem hdropped.made) _ (List.mem_singleton_self _) heq
      | issuesNone hr' hnext hregion hold => exact hold r.handle hlive hgone
    · exact lookup_of_drops hd

/-- Handles and keys are never reissued by a backend. -/
theorem never_reissued (h : syntheticBackend.Run t b) (hlen : (made t).length < 2 ^ 57) : NeverReissued t b := by
  have hi := issued_run h
  have hnodup := hi.handles_nodup hlen
  refine ⟨hi.regions_nodup hlen, hnodup, ?_, ?_, ?_, ?_⟩
  · exact hi.nodup_of_region hlen (key_injective 1) fun r hr => (hi.shape r hr).remoteKey
  · exact hi.nodup_of_region hlen (key_injective 2) fun r hr => (hi.shape r hr).localKey
  · intro x hx r hr
    obtain ⟨t₁, t₂, rfl, hrun, -, -⟩ := h.at_mem hx
    refine fresh_of_nodup (issued_run hrun) ?_
    have hsplit : made (t₁ ++ x :: t₂) = (made t₁ ++ [r]) ++ made t₂ := by
      unfold made
      rw [List.filterMap_append, List.filterMap_cons_some hr, List.append_assoc, List.singleton_append]
    rw [hsplit, List.map_append] at hnodup
    exact (List.nodup_append.1 hnodup).1
  · intro t₁ x t₂ ht r hr hd handle hh key kind offset length
    have hgone := lookup_of_dropped h hnodup r ⟨t₁, x, t₂, ht, hr, hd⟩
    unfold SyntheticBackend.queryRemoteAccess
    rw [hh, hgone]

namespace Session

/-- A page is registered, the backend restarts, and the page is registered again. -/
theorem restarted_never_reissued :
    NeverReissued (Lts.trace SyntheticAction.exec id (.new 0x52444D41)
      [.call (.registerBuffer page {}), .control .simulateBackendRestart, .call (.registerBuffer page {})])
      (afterCalls [.call (.registerBuffer page {}), .control .simulateBackendRestart, .call (.registerBuffer page {})]) :=
  never_reissued (calls_run _) (by decide +kernel)

end Session

end RdmaBuffer
