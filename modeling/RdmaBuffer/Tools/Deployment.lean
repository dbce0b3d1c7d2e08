/-
The coordinator with the workers that it creates: processes that take turns in any order, and connections that carry
bytes in their order and cut them anywhere.
-/
import Mathlib.Logic.Hydra
import RdmaBuffer.Tools.Coordinator
import RdmaBuffer.Tools.History
import RdmaBuffer.Tools.Worker

namespace RdmaBuffer

namespace Tools

/-! ## Processes -/

/-- What is left of a process, and what it has seen. -/
structure Process where
  program : Tool Nat
  history : History := {}
  killed : Bool := false

namespace Process

/-- It returned or was killed; its connections are gone then. -/
def ended (p : Process) : Bool :=
  match p.program with
  | .ret _ => true
  | .call _ _ => p.killed

/-- The process once its call returned. -/
def next (p : Process) {e : SysCall} (k : e.Answer → Tool Nat) (r : e.Answer) : Process :=
  { p with program := k r, history := p.history.after e r }

def kill (p : Process) : Process := { p with killed := true }

end Process

/-- The workers are numbered as they were created, and so are the connections that they open. -/
structure Deployment where
  coordinator : Process
  workers : List Process := []
  backlog : List Socket := []

/-! ## Answers -/

/-- What recv returns where `read` of `sent` was received: bytes that follow, or the end of what was sent by a side that is
gone. Else it waits. -/
inductive Received (sent read : Bytes) (gone : Prop) {n : Nat} : Option (Chunk n) → Prop
  | bytes (x : Chunk n) (h : read ++ x.bytes <+: sent) : Received sent read gone (some x)
  | eof (h : gone) (hall : read = sent) : Received sent read gone none

namespace Deployment

/-- The worker's side of its connection is gone. -/
def WorkerGone (p : Process) (i : Socket) : Prop := p.ended = true ∨ i ∈ p.history.closed

/-- The coordinator's side of a connection is gone. -/
def CoordinatorGone (σ : Deployment) (i : Socket) : Prop := WorkerGone σ.coordinator i

/-- What the coordinator may be answered: the network and the files are there, and a process is created. -/
def CoordinatorAnswer (σ : Deployment) : (e : SysCall) → e.Answer → Prop
  | .socket, r => r = true
  | .listen _, r => r = true
  | .accept, r => ∃ c, σ.backlog.head? = some c ∧ r = some c
  | .connect _ _, _ => False
  | .recv s _, r => ∃ p, σ.workers[s]? = some p ∧
      Received (p.history.sent s) (σ.coordinator.history.received s) (WorkerGone p s) r
  | .send s _, r => ∃ p, σ.workers[s]? = some p ∧ (r = none → WorkerGone p s)
  | .closesocket _, _ => True
  | .createProcess _, r => r = .ok σ.workers.length
  | .terminateProcess _, _ => True
  | .fopen _, _ => True
  | .fputs _ _, _ => True
  | .sleep, _ => False

/-- Where the coordinator listens. -/
def Listens (σ : Deployment) (host port : StdString) : Prop :=
  host = lit "127.0.0.1" ∧ σ.coordinator.history.listening.map intToStr = some port ∧ σ.coordinator.ended = false

/-- What worker `i` may be answered. -/
def WorkerAnswer (σ : Deployment) (i : Nat) (p : Process) : (e : SysCall) → e.Answer → Prop
  | .socket, r => r = true
  | .connect host port, r => (Listens σ host port → r = some i) ∧ (¬Listens σ host port → r = none)
  | .recv s _, r => s = i ∧ Received (σ.coordinator.history.sent s) (p.history.received s) (σ.CoordinatorGone s) r
  | .send s _, r => s = i ∧ (r = none → σ.CoordinatorGone s)
  | .closesocket _, _ => True
  | .fputs _ _, _ => True
  | _, _ => False

/-! ## Steps -/

/-- The workers after a call of the coordinator. -/
def employ (workers : List Process) : SysCall → List Process
  | .createProcess argv => workers ++ [{ program := worker argv }]
  | .terminateProcess h => workers.modify h Process.kill
  | _ => workers

/-- The coordinator's call `e` was answered `r`. -/
def coordinated (σ : Deployment) (e : SysCall) (k : e.Answer → Tool Nat) (r : e.Answer) : Deployment :=
  { coordinator := σ.coordinator.next k r
    workers := employ σ.workers e
    backlog := if e matches .accept then σ.backlog.tail else σ.backlog }

/-- The call `e` of worker `i` was answered `r`. -/
def worked (σ : Deployment) (i : Nat) (p : Process) (e : SysCall) (k : e.Answer → Tool Nat) (r : e.Answer) :
    Deployment :=
  { σ with
    workers := σ.workers.set i (p.next k r)
    backlog := match e, r with
      | .connect _ _, some c => σ.backlog ++ [c]
      | _, _ => σ.backlog }

/-- One process takes a step: the coordinator, without a label, or a worker. -/
inductive Step (σ : Deployment) : Option Nat → Deployment → Prop
  | coordinator {e : SysCall} {k : e.Answer → Tool Nat} {r : e.Answer} (hp : σ.coordinator.program = .call e k)
      (ha : σ.CoordinatorAnswer e r) : Step σ none (σ.coordinated e k r)
  | worker {i : Nat} {p : Process} {e : SysCall} {k : e.Answer → Tool Nat} {r : e.Answer}
      (hi : σ.workers[i]? = some p) (hk : p.killed = false) (hp : p.program = .call e k)
      (ha : σ.WorkerAnswer i p e r) : Step σ (some i) (σ.worked i p e k r)

end Deployment

/-- The coordinator plays its scenario. -/
def deployment (args : Args) : Lts Deployment (Option Nat) where
  init σ := σ = { coordinator := { program := coordinator { args with scenario := true } } }
  step := Deployment.Step

/-! ## Every run ends -/

namespace Deployment

/-- What is left of the coordinator, and of the workers. -/
def left (σ : Deployment) : Tool Nat × Multiset (Tool Nat) := (σ.coordinator.program, (σ.workers.map (·.program) : List _))

/-- The coordinator goes on, whatever becomes of the workers, or one of the workers does. -/
def Descends : Tool Nat × Multiset (Tool Nat) → Tool Nat × Multiset (Tool Nat) → Prop :=
  Prod.Lex Program.Next (Relation.CutExpand Program.Next)

theorem descends_wf : WellFounded Descends := WellFounded.prod_lex Program.next_wf Program.next_wf.cutExpand

theorem coe_middle {α : Type} (l₁ l₂ : List α) (a : α) :
    ((l₁ ++ a :: l₂ : List α) : Multiset α) = {a} + ((l₁ ++ l₂ : List α) : Multiset α) := by
  rw [Multiset.singleton_add, Multiset.cons_coe, Multiset.coe_eq_coe]
  exact List.perm_middle

theorem split_at {α : Type} {l : List α} {i : Nat} {a : α} (h : l[i]? = some a) :
    ∃ l₁ l₂, l = l₁ ++ a :: l₂ ∧ l₁.length = i := by
  obtain ⟨hlt, rfl⟩ := List.getElem?_eq_some_iff.1 h
  refine ⟨l.take i, l.drop (i + 1), ?_, List.length_take_of_le hlt.le⟩
  rw [← List.drop_eq_getElem_cons hlt, List.take_append_drop]

theorem Step.descends {σ σ' : Deployment} {l : Option Nat} (h : Step σ l σ') : Descends σ'.left σ.left := by
  cases h with
  | coordinator hp ha => exact .left _ _ ⟨_, _, _, hp, rfl⟩
  | @worker i p e k r hi hk hp ha =>
    obtain ⟨l₁, l₂, hworkers, rfl⟩ := split_at hi
    have hset : (l₁ ++ p :: l₂).set l₁.length (p.next k r) = l₁ ++ p.next k r :: l₂ := by simp
    unfold left worked
    rw [hworkers, hset, List.map_append, List.map_append, List.map_cons, List.map_cons, coe_middle, coe_middle]
    exact .right _ (Relation.cutExpand_single_add ⟨_, _, _, hp, rfl⟩ _)

end Deployment

end Tools

end RdmaBuffer
