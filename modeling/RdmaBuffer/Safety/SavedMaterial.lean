/-
Key material in the saved file. The records are saved without it, but the key histories take the keys as they
are: two runtimes that differ in nothing but material save the same bytes exactly when their keys have the same
opaque values.
-/
import RdmaBuffer.Persistence.Acceptance
import RdmaBuffer.Registry.Save
import RdmaBuffer.Runtime.Execution

namespace RdmaBuffer

open Codec Persistence Rdmabuffer

/-- A record without the material of its backend. -/
def RegistrationRecord.withoutMaterial (rec : RegistrationRecord) : RegistrationRecord :=
  { rec with
    backendHandle := []
    memoryRegionId := {}
    localKey := { rec.localKey with opaqueValue := 0 }
    remoteKey := { rec.remoteKey with opaqueValue := 0 } }

section

variable {β : Type}

/-- A runtime without the material in its records. -/
def withoutMaterial (s : Rdmabuffer β) : Rdmabuffer β :=
  { s with registrations := Table.mapVals (fun _ rec => rec.withoutMaterial) s.registrations }

@[simp] theorem withoutMaterial_authority (s : Rdmabuffer β) : (withoutMaterial s).authority = s.authority := rfl

@[simp] theorem withoutMaterial_backends (s : Rdmabuffer β) : (withoutMaterial s).backends = s.backends := rfl

@[simp] theorem withoutMaterial_domains (s : Rdmabuffer β) : (withoutMaterial s).domains = s.domains := rfl

@[simp] theorem withoutMaterial_buffers (s : Rdmabuffer β) : (withoutMaterial s).buffers = s.buffers := rfl

@[simp] theorem withoutMaterial_acct (s : Rdmabuffer β) : (withoutMaterial s).acct = s.acct := rfl

/-- The opaque values of the remote and local keys, in the order of the table. -/
def opaqueValues (s : Rdmabuffer β) : List (UInt64 × UInt64) :=
  s.registrations.entries.map fun e => (e.2.remoteKey.opaqueValue, e.2.localKey.opaqueValue)

/-! ## What two such runtimes share -/

theorem map_eq_of_withoutMaterial {α : Type} {f : RegistrationRecord → α} (hf : ∀ rec, f rec.withoutMaterial = f rec)
    {s s' : Rdmabuffer β} (h : withoutMaterial s = withoutMaterial s') :
    (s.registrations.entries.map fun e => f e.2) = s'.registrations.entries.map fun e => f e.2 := by
  have he := congrArg (fun s => s.registrations.entries.map fun e => f e.2) h
  simpa [withoutMaterial, Table.mapVals, Function.comp_def, hf] using he

/-- Two lists that agree under `f` and under `g` agree under both together. -/
theorem map_prod_eq {α γ δ : Type} {f : α → γ} {g : α → δ} : ∀ {as bs : List α}, as.map f = bs.map f →
    as.map g = bs.map g → (as.map fun a => (f a, g a)) = bs.map fun a => (f a, g a)
  | [], [], _, _ => rfl
  | [], _ :: _, h, _ => by cases h
  | _ :: _, [], h, _ => by cases h
  | a :: as, b :: bs, hf, hg => by
    simp only [List.map_cons, List.cons.injEq] at hf hg ⊢
    exact ⟨by rw [hf.1, hg.1], map_prod_eq hf.2 hg.2⟩

variable [IBackend β]

/-- The saved states differ in the key histories only. -/
theorem persistableState_eq {s s' : Rdmabuffer β} (h : withoutMaterial s = withoutMaterial s') :
    s.persistableState =
      { s'.persistableState with
        remoteKeyHistory := s.persistableState.remoteKeyHistory
        localKeyHistory := s.persistableState.localKeyHistory } := by
  have hrecords := map_eq_of_withoutMaterial (f := logicalRecord) (fun rec => rfl) h
  have hreasons := map_eq_of_withoutMaterial (f := fun rec => rec.invalidationReason) (fun rec => rfl) h
  have hbuffers : s.buffers = s'.buffers := by
    simpa using congrArg Rdmabuffer.buffers h
  have hdomains : s.domains = s'.domains := by
    simpa using congrArg Rdmabuffer.domains h
  have hbackends : s.backends = s'.backends := by
    simpa using congrArg Rdmabuffer.backends h
  have hacct : s.acct = s'.acct := by
    simpa using congrArg Rdmabuffer.acct h
  have hauthority : s.authority = s'.authority := by
    simpa using congrArg Rdmabuffer.authority h
  unfold persistableState backendSummaries
  rw [hrecords, hreasons, hbuffers, hdomains, hbackends, hacct, hauthority]

/-- The histories are the keys without opaque values, and the opaque values. -/
theorem histories_eq {s s' : Rdmabuffer β} (h : withoutMaterial s = withoutMaterial s')
    (ho : opaqueValues s = opaqueValues s') :
    s.persistableState.remoteKeyHistory = s'.persistableState.remoteKeyHistory ∧
      s.persistableState.localKeyHistory = s'.persistableState.localKeyHistory := by
  have hkeys := map_eq_of_withoutMaterial
    (f := fun rec => (rec.withoutMaterial.remoteKey, rec.withoutMaterial.localKey)) (fun rec => rfl) h
  have hpairs := map_prod_eq hkeys ho
  constructor
  · have := congrArg (List.map fun p => { p.1.1 with opaqueValue := p.2.1 }) hpairs
    rw [List.map_map, List.map_map] at this
    exact this
  · have := congrArg (List.map fun p => { p.1.2 with opaqueValue := p.2.2 }) hpairs
    rw [List.map_map, List.map_map] at this
    exact this

/-- Key histories of one length can be told apart in the file. -/
theorem histories_of_encodeFields {p : PersistableState} {rks : List RemoteKey} {lks : List LocalKey}
    (hr : rks.length = p.remoteKeyHistory.length) (hl : lks.length = p.localKeyHistory.length)
    (he : encodeFields { p with remoteKeyHistory := rks, localKeyHistory := lks } = encodeFields p) :
    rks = p.remoteKeyHistory ∧ lks = p.localKeyHistory := by
  unfold encodeFields at he
  have hremote := List.append_cancel_left (List.append_cancel_left (List.append_cancel_left
    (List.append_cancel_left (List.append_cancel_left he))))
  obtain ⟨hrks, hlocal⟩ := encodeList_append_inj (v := id) hr
    (fun a _ b _ x y hw => encodeRemoteKey_append_inj.1 hw) hremote
  obtain ⟨hlks, -⟩ := encodeList_append_inj (v := id) hl
    (fun a _ b _ x y hw => Exact.append_inj decodeLocalKey hw) hlocal
  simp only [List.map_id] at hrks hlks
  exact ⟨hrks, hlks⟩

theorem opaqueValues_of_histories {s s' : Rdmabuffer β}
    (hr : s.persistableState.remoteKeyHistory = s'.persistableState.remoteKeyHistory)
    (hl : s.persistableState.localKeyHistory = s'.persistableState.localKeyHistory) :
    opaqueValues s = opaqueValues s' := by
  have hremote := congrArg (List.map fun k => k.opaqueValue) hr
  have hlocal := congrArg (List.map fun k => k.opaqueValue) hl
  simp only [persistableState, List.map_map] at hremote hlocal
  exact map_prod_eq hremote hlocal

theorem saveBlob_eq_iff {s s' : Rdmabuffer β} (h : withoutMaterial s = withoutMaterial s') :
    saveBlob s = saveBlob s' ↔ opaqueValues s = opaqueValues s' := by
  have hstate := persistableState_eq h
  constructor
  · intro hb
    unfold saveBlob at hb
    rw [serialize_eq, serialize_eq] at hb
    have he := List.append_cancel_left (sealed_injective hb)
    rw [hstate] at he
    have hlen : s.registrations.entries.length = s'.registrations.entries.length := by
      have := congrArg List.length (map_eq_of_withoutMaterial (f := fun rec => rec.id) (fun rec => rfl) h)
      rwa [List.length_map, List.length_map] at this
    obtain ⟨hr, hl⟩ := histories_of_encodeFields (by simp [persistableState, hlen])
      (by simp [persistableState, hlen]) he
    exact opaqueValues_of_histories hr hl
  · intro ho
    obtain ⟨hr, hl⟩ := histories_eq h ho
    rw [saveBlob, saveBlob, hstate, hr, hl]

/-- Two runtimes that differ in the material of their records only save the same bytes exactly when the keys of
their records have the same opaque values. -/
theorem saves_alike_iff (s s' : Rdmabuffer β) (h : withoutMaterial s = withoutMaterial s') :
    saveBlob s = saveBlob s' ↔ opaqueValues s = opaqueValues s' :=
  saveBlob_eq_iff h

end

open Session

/-- The page, registered. -/
def registeredPage : Rdmabuffer Backend := afterOps [.registerBuffer page synthetic ⟨1⟩ envelope]

/-- The same runtime with another handle for the page. -/
def movedPage : Rdmabuffer Backend :=
  { registeredPage with
    registrations := Table.mapVals (fun _ rec => { rec with backendHandle := lit "moved" })
      registeredPage.registrations }

theorem saves_alike_moved : saveBlob registeredPage = saveBlob movedPage := by
  apply (saves_alike_iff registeredPage movedPage ?_).2
  · decide
  · rfl

/-- Two runtimes that differ in the key material of a registration only save different bytes. -/
theorem key_material_saved : withoutMaterial registeredPage = withoutMaterial (withoutMaterial registeredPage) ∧
    saveBlob registeredPage ≠ saveBlob (withoutMaterial registeredPage) := by
  have h : withoutMaterial registeredPage = withoutMaterial (withoutMaterial registeredPage) := rfl
  refine ⟨h, ?_⟩
  intro he
  have := (saveBlob_eq_iff h).1 he
  revert this
  decide

end RdmaBuffer
