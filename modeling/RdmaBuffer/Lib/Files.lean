/-
Files as a map from paths to contents, the operations that change it, and the maps a script of them passes through.
A script whose operations do not name a path passes only through maps that agree on it.
-/
import Mathlib.Data.List.Basic
import Mathlib.Logic.Function.Basic

/-- The files that exist, with their contents. -/
abbrev Files (P C : Type) := P → Option C

/-- An operation that succeeds. -/
inductive FileOp (P C : Type)
  | put (path : P) (content : C)
  | remove (path : P)
  | rename (source target : P)

namespace FileOp

variable {P C : Type}

/-- The paths whose files the operation changes. -/
def Names : FileOp P C → P → Prop
  | put path _, p => p = path
  | remove path, p => p = path
  | rename source target, p => p = source ∨ p = target

variable [DecidableEq P]

def apply (files : Files P C) : FileOp P C → Files P C
  | put path content => Function.update files path (some content)
  | remove path => Function.update files path none
  | rename source target => Function.update (Function.update files source none) target (files source)

theorem apply_of_not_names {op : FileOp P C} {files : Files P C} {p : P} (h : ¬op.Names p) :
    op.apply files p = files p := by
  cases op with
  | put path content => exact Function.update_of_ne h _ _
  | remove path => exact Function.update_of_ne h _ _
  | rename source target =>
    have hs : p ≠ source := fun he => h (.inl he)
    have ht : p ≠ target := fun he => h (.inr he)
    exact (Function.update_of_ne ht _ _).trans (Function.update_of_ne hs _ _)

/-- The files after a script. -/
def run (files : Files P C) (ops : List (FileOp P C)) : Files P C := ops.foldl apply files

/-- The files after each operation of a script. -/
def points (files : Files P C) : List (FileOp P C) → List (Files P C)
  | [] => []
  | op :: ops => op.apply files :: points (op.apply files) ops

theorem points_append (files : Files P C) (ops ops' : List (FileOp P C)) :
    points files (ops ++ ops') = points files ops ++ points (run files ops) ops' := by
  induction ops generalizing files with
  | nil => rfl
  | cons op ops ih =>
    rw [List.cons_append, points, points, ih, List.cons_append]
    rfl

theorem run_append (files : Files P C) (ops ops' : List (FileOp P C)) :
    run files (ops ++ ops') = run (run files ops) ops' := List.foldl_append

/-- A script passes a path by that none of its operations names. -/
theorem points_of_not_names {ops : List (FileOp P C)} {p : P} (h : ∀ op ∈ ops, ¬op.Names p) (files : Files P C) :
    run files ops p = files p ∧ ∀ m ∈ points files ops, m p = files p := by
  induction ops generalizing files with
  | nil => exact ⟨rfl, fun m hm => by cases hm⟩
  | cons op ops ih =>
    have hop : op.apply files p = files p := apply_of_not_names (h op (by simp))
    obtain ⟨hrun, hpoints⟩ := ih (fun op hm => h op (by simp [hm])) (op.apply files)
    refine ⟨hrun.trans hop, fun m hm => ?_⟩
    rcases List.mem_cons.1 hm with rfl | hm
    · exact hop
    · exact (hpoints m hm).trans hop

end FileOp
