/-
A save that is interrupted or fails. The old file is removed before the new one takes its place, so that nothing is lost
exactly if there was no file, or the save ends before it removes one, or the removal fails.
-/
import RdmaBuffer.Backend.Attached
import RdmaBuffer.Registry.SaveFile

namespace RdmaBuffer

open Rdmabuffer FileOp

variable {β : Type} [IBackend β]

/-- A failed save leaves the content of the path, which at every point is the old one or the whole new one. -/
structure SaveAtomic (s : Rdmabuffer β) (files : Files StdString Bytes) (path : StdString) (faults : SaveFaults) :
    Prop where
  failed : (s.save files path faults).2.ok = false → (s.save files path faults).1 path = files path
  points : ∀ m ∈ s.savePoints files path faults, m path = files path ∨ m path = some s.saveBlob

theorem ne_tmpPath (path : StdString) : path ≠ tmpPath path := by
  intro h
  have hlen := congrArg List.length h
  rw [tmpPath, List.length_append] at hlen
  have hpos : 0 < (lit ".tmp").length := by decide
  omega

section

variable (blob : Bytes) (path : StdString) (faults : SaveFaults)

/-- The operations while the temporary file is written. -/
def draftOps : List (FileOp StdString Bytes) := [.put (tmpPath path) []] ++ faults.drafts.map (.put (tmpPath path))

/-- The operations up to the temporary file being complete. -/
def writtenOps : List (FileOp StdString Bytes) := draftOps path faults ++ [.put (tmpPath path) blob]

theorem draftOps_unnamed : ∀ op ∈ draftOps path faults, ¬op.Names path := by
  intro op hop
  simp only [draftOps, List.mem_append, List.mem_singleton, List.mem_map] at hop
  rcases hop with rfl | ⟨draft, -, rfl⟩
  · exact ne_tmpPath path
  · exact ne_tmpPath path

theorem writtenOps_unnamed : ∀ op ∈ writtenOps blob path faults, ¬op.Names path := by
  intro op hop
  rcases List.mem_append.1 hop with hop | hop
  · exact draftOps_unnamed path faults op hop
  · obtain rfl := List.mem_singleton.1 hop
    exact ne_tmpPath path

/-- Once it is written the temporary file is the whole serialization. -/
theorem run_writtenOps (files : Files StdString Bytes) :
    run files (writtenOps blob path faults) (tmpPath path) = some blob := by
  rw [writtenOps, run_append]
  exact Function.update_self _ _ _

end

section

variable {blob : Bytes} {path : StdString} {faults : SaveFaults} {files : Files StdString Bytes}

theorem saveScript_closed (h : faults.opens = false) :
    saveScript blob path faults = ([], { err := lit "IO_ERROR_OPEN" }) := by
  simp [saveScript, h]

theorem saveScript_torn (ho : faults.opens = true) (hw : faults.writes = false) :
    saveScript blob path faults = (draftOps path faults, { err := lit "IO_ERROR_WRITE" }) := by
  simp [saveScript, ho, hw, draftOps]

theorem saveScript_written (ho : faults.opens = true) (hw : faults.writes = true) :
    saveScript blob path faults =
      (writtenOps blob path faults ++ (if faults.removes then [.remove path] else []) ++
          (if faults.renames then [.rename (tmpPath path) path] else []),
        { ok := faults.renames, err := if faults.renames then [] else lit "IO_ERROR_WRITE" }) := by
  rcases hr : faults.removes <;> rcases hn : faults.renames <;> simp [saveScript, ho, hw, hr, hn, writtenOps, draftOps]

end

/-- A script leaves the path alone, or ends with the renaming, when it reaches a point where the old file is gone only
if there was none. -/
theorem saveAtomic_of_script {s : Rdmabuffer β} {files : Files StdString Bytes} {path : StdString} {faults : SaveFaults}
    {ops : List (FileOp StdString Bytes)} {result : SaveResult} (h : saveScript s.saveBlob path faults = (ops, result))
    (hfail : result.ok = false → run files ops path = files path)
    (hpoints : ∀ m ∈ points files ops, m path = files path ∨ m path = some s.saveBlob) :
    SaveAtomic s files path faults := by
  constructor
  · unfold save
    rw [h]
    exact hfail
  · unfold savePoints
    rw [h]
    exact hpoints

/-- With the temporary file complete and the path as it was, or free, the rest of the script loses nothing. -/
theorem saveAtomic_written {s : Rdmabuffer β} {files : Files StdString Bytes} {path : StdString} {faults : SaveFaults}
    (ho : faults.opens = true) (hw : faults.writes = true)
    (hkeep : files path = none ∨ faults.removes = false) : SaveAtomic s files path faults := by
  obtain ⟨hrun, hpoints⟩ := points_of_not_names (writtenOps_unnamed s.saveBlob path faults) files
  have htmp := run_writtenOps s.saveBlob path faults files
  -- the files once the old one is removed, or could not be
  have hremoved : ∀ ops : List (FileOp StdString Bytes), ops = (if faults.removes then [.remove path] else []) →
      (run (run files (writtenOps s.saveBlob path faults)) ops path = files path ∧
        run (run files (writtenOps s.saveBlob path faults)) ops (tmpPath path) = some s.saveBlob) ∧
      ∀ m ∈ points (run files (writtenOps s.saveBlob path faults)) ops, m path = files path := by
    rintro ops rfl
    split
    · rename_i hr
      have hnone : files path = none := hkeep.resolve_right (by simp [hr])
      have hself : ∀ m : Files StdString Bytes, (FileOp.remove path).apply m path = files path := by
        intro m
        rw [hnone]
        exact Function.update_self _ _ _
      refine ⟨⟨hself _, ?_⟩, fun m hm => ?_⟩
      · exact (Function.update_of_ne (ne_tmpPath path).symm _ _).trans htmp
      · obtain rfl := List.mem_singleton.1 hm
        exact hself _
    · exact ⟨⟨hrun, htmp⟩, fun m hm => by cases hm⟩
  obtain ⟨⟨hpath, hblob⟩, hmid⟩ := hremoved _ rfl
  refine saveAtomic_of_script (saveScript_written ho hw) (fun hok => ?_) fun m hm => ?_
  · have hok : faults.renames = false := hok
    rw [hok, if_neg Bool.false_ne_true, List.append_nil, run_append]
    exact hpath
  · rw [points_append, points_append, List.mem_append, List.mem_append] at hm
    rcases hm with (hm | hm) | hm
    · exact .inl (hpoints m hm)
    · exact .inl (hmid m hm)
    · by_cases hn : faults.renames = true
      · rw [if_pos hn] at hm
        obtain rfl := List.mem_singleton.1 hm
        rw [run_append]
        exact .inr ((Function.update_self _ _ _).trans hblob)
      · rw [if_neg hn] at hm
        cases hm

/-- A save loses nothing exactly if there was no file, it ends before it removes one, or the removal fails. -/
theorem save_atomic_iff (s : Rdmabuffer β) (files : Files StdString Bytes) (path : StdString) (faults : SaveFaults) :
    SaveAtomic s files path faults ↔
      files path = none ∨ faults.opens = false ∨ faults.writes = false ∨ faults.removes = false := by
  constructor
  · intro h
    by_contra hnot
    simp only [not_or, Bool.not_eq_false] at hnot
    obtain ⟨hold, ho, hw, hr⟩ := hnot
    -- the point where the old file is gone and the new one is not there yet
    have hmem : (FileOp.remove path).apply (run files (writtenOps s.saveBlob path faults)) ∈
        s.savePoints files path faults := by
      unfold savePoints
      rw [saveScript_written ho hw, hr, if_pos rfl, points_append, points_append]
      exact List.mem_append_left _ (List.mem_append_right _ (List.mem_singleton.2 rfl))
    have hgone : (FileOp.remove path).apply (run files (writtenOps s.saveBlob path faults)) path = none :=
      Function.update_self _ _ _
    rcases h.points _ hmem with hp | hp
    · exact hold (hp.symm.trans hgone)
    · rw [hgone] at hp
      cases hp
  · intro h
    rcases ho : faults.opens
    · exact saveAtomic_of_script (saveScript_closed ho) (fun _ => rfl) fun m hm => by cases hm
    · rcases hw : faults.writes
      · obtain ⟨hrun, hpoints⟩ := points_of_not_names (draftOps_unnamed path faults) files
        exact saveAtomic_of_script (saveScript_torn ho hw) (fun _ => hrun) fun m hm => .inl (hpoints m hm)
      · refine saveAtomic_written ho hw (h.imp_right fun h => ?_)
        simpa [ho, hw] using h

/-- A save whose renaming fails answers that it failed, and the old file is gone; and where nothing fails there is a
point without either file. -/
theorem save_loses_old : ∃ files : Files StdString Bytes, files (lit "state") = some [1] ∧
    ¬SaveAtomic ({} : Rdmabuffer Backend) files (lit "state") { renames := false } ∧
    ¬SaveAtomic ({} : Rdmabuffer Backend) files (lit "state") {} := by
  refine ⟨fun _ => some [1], rfl, fun h => ?_, fun h => ?_⟩
  · have hlost : (none : Option Bytes) = some [1] := h.failed rfl
    cases hlost
  · rcases h.points _ (.tail _ (.tail _ (.head _))) with hp | hp
    · have hp : (none : Option Bytes) = some [1] := hp
      cases hp
    · have hp : (none : Option Bytes) = some _ := hp
      cases hp

end RdmaBuffer
