/-
The two copies of the key generation in an entry of the synthetic backend: `query_registration` reports one,
`query_remote_access` compares with the other. A transport rollover moves only the second, and a `revalidate` of the
entry brings it back into use as it is: the reported keys are accepted as long as none meets copies that differ.
-/
import RdmaBuffer.Backend.Calls
import RdmaBuffer.Backend.View
import RdmaBuffer.Runtime.Execution

namespace RdmaBuffer

open Backend

/-! ## The law -/

/-- The keys the backend reports for a live entry that awaits no revalidation are accepted for what the entry grants
and the backend supports, and its key generation locates a registration. -/
structure KeysAccepted (b : SyntheticBackend) : Prop where
  queried : ∀ handle e, b.entries.lookup handle.handle = some e → e.revalidateRequired = false →
    ∀ kind (offset length : UInt64), accessHas e.reg.grantedAccess (intrinsicRight kind) = true →
      (Backend.synthetic b).supports kind = true → offset.toNat + length.toNat ≤ e.reg.registeredLength.toNat →
      (b.queryRemoteAccess handle (b.queryRegistration handle).2.2.keys kind offset length).2.1 = .allow
  simulated : ∀ h e, b.entries.lookup h = some e → e.revalidateRequired = false → ∀ kind offset length o,
    b.simulateRemote kind offset length e.keyGeneration.value = some o → o.1 ≠ .rejectStaleKey

/-- The keys the backend reports for the entry of the handle are refused as stale, whatever they are used for. -/
def KeyRefused (b : SyntheticBackend) (handle : RegisterHandle) : Prop :=
  (∃ e, b.entries.lookup handle.handle = some e ∧ e.revalidateRequired = false) ∧
    ∀ kind offset length,
      (b.queryRemoteAccess handle (b.queryRegistration handle).2.2.keys kind offset length).2.1 = .rejectStaleKey

/-- The call revalidates an entry whose two copies of the key generation differ. -/
def revalidatesApart (b : SyntheticBackend) : SyntheticAction → Bool
  | .call (.revalidate handle) =>
    (b.entries.lookup handle.handle).any fun e => e.reg.keys.remoteKeyGeneration != e.keyGeneration
  | _ => false

/-! ## One step -/

/-- Where an entry after a step comes from. -/
inductive EntryStep (b : SyntheticBackend) (a : SyntheticAction) (h : StdString) (e' : SyntheticEntry) : Prop
  | kept (he : b.entries.lookup h = some e')
  | registered (buffer : BufferDescriptor) (ctx : RegistrationContext) (ha : a = .call (.registerBuffer buffer ctx))
      (hh : h = SyntheticBackend.makeHandle (b.regionAt b.nextSeq))
      (he : e' = { ctx := ctx, reg := b.makeRegistration (b.regionAt b.nextSeq) buffer ctx, keyGeneration := ⟨1⟩ })
  | revalidated (handle : RegisterHandle) (e : SyntheticEntry) (ha : a = .call (.revalidate handle))
      (hh : handle.handle = h) (hl : b.entries.lookup h = some e) (he : e' = { e with revalidateRequired := false })
  | rotated (handle : RegisterHandle) (g : RemoteKeyGeneration) (e : SyntheticEntry)
      (ha : a = .call (.rotateKey handle g)) (hh : handle.handle = h) (hl : b.entries.lookup h = some e)
      (he : e' =
        { e with
          keyGeneration := g
          reg := { e.reg with keys := { e.reg.keys with remoteKeyGeneration := g } }
          revalidateRequired := false })
  | rolledOver (e : SyntheticEntry) (ha : a = .control .rolloverTransportGeneration) (hl : b.entries.lookup h = some e)
      (he : e' = { e with revalidateRequired := true, keyGeneration := e.keyGeneration.next })

theorem entry_erase {m : Table StdString SyntheticEntry} {k h : StdString} {e : SyntheticEntry}
    (he : (m.erase k).lookup h = some e) : m.lookup h = some e := by
  rw [Table.lookup_erase_eq] at he
  split at he
  · cases he
  · exact he

theorem entryStep {b : SyntheticBackend} {a : SyntheticAction} {h : StdString} {e' : SyntheticEntry}
    (he : (a.exec b).entries.lookup h = some e') : EntryStep b a h e' := by
  cases a with
  | control c =>
    cases c with
    | rolloverTransportGeneration =>
      simp only [SyntheticAction.exec, SyntheticBackend.Control.run, SyntheticBackend.rolloverTransportGeneration,
        Table.lookup_mapVals, Option.map_eq_some_iff] at he
      obtain ⟨e, hl, rfl⟩ := he
      exact .rolledOver e rfl hl rfl
    | simulateBackendRestart => cases he
    | _ => exact .kept he
  | call c =>
    cases c with
    | registerBuffer buffer ctx =>
      change (b.registerBuffer buffer ctx).1.entries.lookup h = some e' at he
      unfold SyntheticBackend.registerBuffer at he
      dsimp only at he
      split at he
      · exact .kept he
      · rcases Table.lookup_put_some he with ⟨hh, hput⟩ | ⟨-, he⟩
        · exact .registered buffer ctx rfl hh hput
        · exact .kept he
    | deregisterBuffer handle =>
      change (b.deregisterBuffer handle).1.entries.lookup h = some e' at he
      unfold SyntheticBackend.deregisterBuffer at he
      split at he
      · exact .kept he
      · exact .kept (entry_erase he)
    | queryRegistration handle =>
      change (b.queryRegistration handle).1.entries.lookup h = some e' at he
      unfold SyntheticBackend.queryRegistration at he
      split at he <;> exact .kept he
    | queryRemoteAccess handle key kind offset length =>
      change (b.queryRemoteAccess handle key kind offset length).1.entries.lookup h = some e' at he
      unfold SyntheticBackend.queryRemoteAccess at he
      split at he <;> exact .kept he
    | revalidate handle =>
      change (b.revalidate handle).1.entries.lookup h = some e' at he
      unfold SyntheticBackend.revalidate at he
      split at he
      · exact .kept he
      · rename_i e hl
        rcases Table.lookup_put_some he with ⟨rfl, hput⟩ | ⟨-, he⟩
        · exact .revalidated handle e rfl rfl hl hput
        · exact .kept he
    | abortRegistration handle =>
      change (b.abortRegistration handle).1.entries.lookup h = some e' at he
      unfold SyntheticBackend.abortRegistration at he
      split at he
      · exact .kept he
      · exact .kept (entry_erase he)
    | rotateKey handle g =>
      change (b.rotateKey handle g).1.entries.lookup h = some e' at he
      unfold SyntheticBackend.rotateKey at he
      split at he
      · exact .kept he
      · rename_i e hl
        rcases Table.lookup_put_some he with ⟨rfl, hput⟩ | ⟨-, he⟩
        · exact .rotated handle g e rfl rfl hl hput
        · exact .kept he

/-- Entries are under the handle they return, and none is revoked. -/
structure EntriesFiled (b : SyntheticBackend) : Prop where
  handle : ∀ h e, b.entries.lookup h = some e → e.reg.handle = h
  named : ∀ h e, b.entries.lookup h = some e → h ≠ []
  unrevoked : ∀ h e, b.entries.lookup h = some e → e.revoked = false

/-- The two copies agree in every entry that awaits no revalidation. -/
def CopiesAgree (b : SyntheticBackend) : Prop :=
  ∀ h e, b.entries.lookup h = some e → e.revalidateRequired = false → e.reg.keys.remoteKeyGeneration = e.keyGeneration

theorem entriesFiled_step {b : SyntheticBackend} (a : SyntheticAction) (hi : EntriesFiled b) :
    EntriesFiled (a.exec b) := by
  constructor
  · intro h e' he'
    cases entryStep he' with
    | kept he => exact hi.handle h e' he
    | registered buffer ctx ha hh he => rw [he, hh]; rfl
    | revalidated handle e ha hh hl he => rw [he]; exact hi.handle h e hl
    | rotated handle g e ha hh hl he => rw [he]; exact hi.handle h e hl
    | rolledOver e ha hl he => rw [he]; exact hi.handle h e hl
  · intro h e' he'
    cases entryStep he' with
    | kept he => exact hi.named h e' he
    | registered buffer ctx ha hh he => rw [hh]; exact List.cons_ne_nil _ _
    | revalidated handle e ha hh hl he => exact hi.named h e hl
    | rotated handle g e ha hh hl he => exact hi.named h e hl
    | rolledOver e ha hl he => exact hi.named h e hl
  · intro h e' he'
    cases entryStep he' with
    | kept he => exact hi.unrevoked h e' he
    | registered buffer ctx ha hh he => rw [he]
    | revalidated handle e ha hh hl he => rw [he]; exact hi.unrevoked h e hl
    | rotated handle g e ha hh hl he => rw [he]; exact hi.unrevoked h e hl
    | rolledOver e ha hl he => rw [he]; exact hi.unrevoked h e hl

theorem copiesAgree_step {b : SyntheticBackend} {a : SyntheticAction} (hc : revalidatesApart b a = false)
    (hi : CopiesAgree b) : CopiesAgree (a.exec b) := by
  intro h e' he' hv
  cases entryStep he' with
  | kept he => exact hi h e' he hv
  | registered buffer ctx ha hh he => rw [he]; rfl
  | revalidated handle e ha hh hl he =>
    rw [he]
    subst ha hh
    simpa [revalidatesApart, hl] using hc
  | rotated handle g e ha hh hl he => rw [he]
  | rolledOver e ha hl he =>
    rw [he] at hv
    cases hv

/-- Reported keys of the wrong generation are refused as stale. -/
theorem queryEntry_stale {b : SyntheticBackend} {e : SyntheticEntry} (hr : e.revoked = false)
    (hv : e.revalidateRequired = false) (hk : e.reg.keys.remoteKeyGeneration ≠ e.keyGeneration) (kind : OperationKind)
    (offset length : UInt64) : (b.queryEntry e e.reg.keys kind offset length).1 = .rejectStaleKey := by
  unfold SyntheticBackend.queryEntry
  rw [hv, hr, if_neg Bool.false_ne_true, if_neg Bool.false_ne_true, if_pos (bne_iff_ne.2 hk)]

/-- Reported keys of the right generation are not. -/
theorem queryEntry_fresh {b : SyntheticBackend} {e : SyntheticEntry}
    (hk : e.reg.keys.remoteKeyGeneration = e.keyGeneration) (kind : OperationKind) (offset length : UInt64) :
    (b.queryEntry e e.reg.keys kind offset length).1 ≠ .rejectStaleKey := by
  unfold SyntheticBackend.queryEntry
  rw [hk, bne_self_eq_false]
  cases kind <;> grind

theorem queryRegistration_keys {b : SyntheticBackend} {handle : RegisterHandle} {e : SyntheticEntry}
    (he : b.entries.lookup handle.handle = some e) : (b.queryRegistration handle).2.2.keys = e.reg.keys := by
  unfold SyntheticBackend.queryRegistration
  rw [he]

theorem queryRemoteAccess_entry {b : SyntheticBackend} (handle : RegisterHandle) {e : SyntheticEntry}
    (he : b.entries.lookup handle.handle = some e) (key : BackendKey) (kind : OperationKind) (offset length : UInt64) :
    (b.queryRemoteAccess handle key kind offset length).2 = b.queryEntry e key kind offset length := by
  unfold SyntheticBackend.queryRemoteAccess
  rw [he]

theorem keysAccepted_of_agree {b : SyntheticBackend} (hf : EntriesFiled b) (hi : CopiesAgree b) : KeysAccepted b := by
  constructor
  · intro handle e he hv kind offset length hg hs hlen
    rw [queryRegistration_keys he, queryRemoteAccess_entry handle he, synthetic_queryEntry_allow]
    exact ⟨hv, hf.unrevoked _ e he, hi _ e he hv, hlen, hg, hs⟩
  · intro h e he hv kind offset length o ho
    have hne := bestHandle_ne_nil hf.named he (hf.unrevoked h e he) hv
    obtain ⟨e', he', hr', hv'⟩ := bestHandle_spec rfl hne
    -- the scan ends at an entry whose own keys the simulated query presents
    have hown : b.entries.lookup e'.reg.handle = some e' := by rw [hf.handle _ e' he', he']
    have hquery := queryRemoteAccess_entry ⟨e'.reg.memoryRegionId, e'.reg.handle⟩ hown e'.reg.keys kind offset length
    have hfresh := queryEntry_fresh (b := b) (hi _ e' he' hv') kind offset length
    unfold SyntheticBackend.simulateRemote at ho
    simp only [List.isEmpty_eq_false_iff.2 hne, Bool.false_eq_true, if_false, he', hquery] at ho
    split at ho
    · rw [← Option.some.inj ho]
      exact hfresh
    · split at ho
      · cases ho
      · rename_i hallow _
        rw [← Option.some.inj ho]
        exact hfresh

/-- A revalidation of copies that differ leaves an entry whose reported keys are refused. -/
theorem keyRefused_of_apart {b : SyntheticBackend} (hf : EntriesFiled b) {a : SyntheticAction}
    (ha : revalidatesApart b a = true) : ∃ handle, KeyRefused (a.exec b) handle := by
  unfold revalidatesApart at ha
  split at ha
  · rename_i handle
    obtain ⟨e, he, hk⟩ := (Option.any_eq_true _ _).1 ha
    have hput : (SyntheticAction.exec b (.call (.revalidate handle))).entries.lookup handle.handle =
        some { e with revalidateRequired := false } := by
      show (b.revalidate handle).1.entries.lookup _ = _
      unfold SyntheticBackend.revalidate
      rw [he]
      exact Table.lookup_put_self _ _ _
    refine ⟨handle, ⟨_, hput, rfl⟩, fun kind offset length => ?_⟩
    rw [queryRegistration_keys hput, queryRemoteAccess_entry handle hput]
    exact queryEntry_stale (e := { e with revalidateRequired := false }) (hf.unrevoked _ e he) rfl (bne_iff_ne.1 hk)
      kind offset length
  · cases ha

/-! ## The whole run -/

theorem entriesFiled_run {b : SyntheticBackend} {t : List (Lts.Transition SyntheticBackend SyntheticAction)}
    (h : syntheticBackend.Run t b) : EntriesFiled b := by
  refine h.inv ?_ ?_
  · rintro _ ⟨seed, rfl⟩
    constructor <;> · intro h e he; cases he
  · rintro b a _ rfl hi
    exact entriesFiled_step a hi

/-- In every state of a run in which no `revalidate` meets an entry whose copies of the key generation differ, the keys
the backend reports are the keys it accepts; and every `revalidate` that does leaves an entry whose keys it refuses. -/
theorem keys_accepted {b : SyntheticBackend} {t : List (Lts.Transition SyntheticBackend SyntheticAction)}
    (h : syntheticBackend.Run t b) :
    ((∀ x ∈ t, revalidatesApart x.pre x.label = false) → KeysAccepted b ∧ ∀ x ∈ t, KeysAccepted x.post) ∧
      ∀ x ∈ t, revalidatesApart x.pre x.label = true → ∃ handle, KeyRefused x.post handle := by
  have hagree : ∀ {t b}, syntheticBackend.Run t b → (∀ x ∈ t, revalidatesApart x.pre x.label = false) →
      KeysAccepted b := by
    intro t b h hc
    refine keysAccepted_of_agree (entriesFiled_run h) (h.inv_of (I := CopiesAgree)
      (C := fun x => revalidatesApart x.pre x.label = false) ?_ ?_ hc)
    · rintro _ ⟨seed, rfl⟩ h e he
      cases he
    · rintro b a _ rfl hc hi
      exact copiesAgree_step hc hi
  constructor
  · intro hc
    refine ⟨hagree h hc, fun x hx => ?_⟩
    obtain ⟨t₁, ⟨t₂, rfl⟩, hrun⟩ := h.upto hx
    exact hagree hrun fun y hy => hc y (List.mem_append_left _ hy)
  · intro x hx ha
    obtain ⟨t₁, t₂, -, hrun, hstep, -⟩ := h.at_mem hx
    rw [show x.post = x.label.exec x.pre from hstep]
    exact keyRefused_of_apart (entriesFiled_run hrun) ha

/-! ## A rollover between registration and revalidation -/

namespace Session

def afterCalls (actions : List SyntheticAction) : SyntheticBackend :=
  actions.foldl SyntheticAction.exec (.new 0x52444D41)

theorem calls_run (actions : List SyntheticAction) :
    syntheticBackend.Run (Lts.trace SyntheticAction.exec id (.new 0x52444D41) actions) (afterCalls actions) :=
  ⟨.new 0x52444D41, ⟨0x52444D41, rfl⟩, .of_trace (fun _ _ => rfl) _ _⟩

/-- The page is registered, the transport rolls over, and the registration is revalidated. -/
def rolledOver : List SyntheticAction :=
  [.call (.registerBuffer page {}), .control .rolloverTransportGeneration, .call (.revalidate firstHandle)]

/-- The same with a rotation of the key before it is revalidated once more. -/
def rolledAndRotated : List SyntheticAction :=
  [.call (.registerBuffer page {}), .control .rolloverTransportGeneration, .call (.rotateKey firstHandle ⟨3⟩),
    .call (.revalidate firstHandle)]

/-- After the revalidation the reported key is refused, and no registration is found under the key generation. -/
theorem reported_key_refused :
    ∃ t, syntheticBackend.Run t (afterCalls rolledOver) ∧ ¬KeysAccepted (afterCalls rolledOver) ∧
      ((afterCalls rolledOver).queryRemoteAccess firstHandle
        ((afterCalls rolledOver).queryRegistration firstHandle).2.2.keys .write 0 64).2.1 = .rejectStaleKey ∧
      ((afterCalls rolledOver).simulateRemote .write 0 64 2).map (·.1) = some .rejectStaleKey := by
  have hq : ((afterCalls rolledOver).queryRemoteAccess firstHandle
      ((afterCalls rolledOver).queryRegistration firstHandle).2.2.keys .write 0 64).2.1 = .rejectStaleKey := by
    decide +kernel
  refine ⟨_, calls_run rolledOver, fun h => ?_, hq, by decide +kernel⟩
  have hallow := h.queried firstHandle _ rfl rfl .write 0 64 (by decide +kernel) rfl (by decide +kernel)
  rw [hq] at hallow
  cases hallow

theorem reported_key_accepted :
    KeysAccepted (afterCalls rolledAndRotated) ∧ ∃ e,
      (afterCalls rolledAndRotated).entries.lookup firstHandle.handle = some e ∧ e.revalidateRequired = false ∧
      accessHas e.reg.grantedAccess .remoteWrite = true ∧ e.keyGeneration = ⟨3⟩ :=
  ⟨((keys_accepted (calls_run rolledAndRotated)).1 (by decide +kernel)).1, _, rfl, rfl, by decide +kernel, rfl⟩

end Session

end RdmaBuffer
