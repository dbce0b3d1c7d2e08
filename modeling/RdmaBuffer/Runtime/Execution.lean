/-
Running lists of operations and of actions, sequential clients as interleaved clients that never
overlap, and the session the examples of this development start from.
-/
import RdmaBuffer.Backend.Attached
import RdmaBuffer.Runtime.System

namespace RdmaBuffer

open Rdmabuffer Lts

section Embedding

variable {β : Type} [IBackend β] [Environment β]

/-- The system after a list of actions. -/
def System.run (σ : System β) (as : List (Action β)) : System β := as.foldl System.exec σ

def System.trace (σ : System β) (as : List (Action β)) : List (Transition (System β) (Option (Action β))) :=
  Lts.trace System.exec some σ as

theorem System.path_run (σ : System β) (as : List (Action β)) : (interleaved β).Path σ (σ.trace as) (σ.run as) :=
  Path.of_trace (fun _ _ => rfl) σ as

/-- The runtime after a list of operations. -/
def Rdmabuffer.run (s : Rdmabuffer β) (ops : List (Op β)) : Rdmabuffer β := ops.foldl Op.run s

def Rdmabuffer.trace (s : Rdmabuffer β) (ops : List (Op β)) : List (Transition (Rdmabuffer β) (Option (Op β))) :=
  Lts.trace Op.run some s ops

theorem Rdmabuffer.path_run (s : Rdmabuffer β) (ops : List (Op β)) : (sequential β).Path s (s.trace ops) (s.run ops) :=
  Path.of_trace (fun _ _ => rfl) s ops

/-! ## Sequential clients never overlap -/

/-- A runtime with no call in flight. -/
def idle (s : Rdmabuffer β) : System β := { runtime := s }

/-- An operation as the sections of a single client. -/
def Op.actions : Op β → List (Action β)
  | .atomic op => [.atomic op]
  | .registerBuffer descriptor backend domain env =>
    [.registerBegin 0 descriptor backend domain env, .registerCall 0, .registerCommit 0]
  | .deregister registration => [.deregisterBegin 0 registration, .deregisterCall 0, .deregisterFinish 0]

/-- An operation run to completion is its sections run by one client with no other in between. -/
theorem run_actions (s : Rdmabuffer β) (op : Op β) : (idle s).run op.actions = idle (op.run s) := by
  cases op with
  | atomic op => rfl
  | registerBuffer descriptor backend domain env =>
    simp only [System.run, Op.actions, List.foldl_cons, List.foldl_nil, Op.run, registerBuffer, System.exec, idle]
    rcases s.registerBegin descriptor backend domain env with ⟨s₁, _ | p⟩
    · rfl
    · simp only [System.move, Function.update_self]
      rcases s₁.registerCall p with ⟨s₂, _ | bout⟩
      · simp
      · simp
  | deregister registration =>
    simp only [System.run, Op.actions, List.foldl_cons, List.foldl_nil, Op.run, deregister, System.exec, idle]
    rcases s.deregisterBegin registration with ⟨s₁, _ | d⟩
    · rfl
    · simp [System.move]

/-- The transition is one of the sections of the operation. -/
def SectionOf (y : Transition (Rdmabuffer β) (Option (Op β))) (x : Transition (System β) (Option (Action β))) : Prop :=
  match y.label with
  | none => x = ⟨idle y.pre, none, idle y.post⟩
  | some op => x ∈ (idle y.pre).trace op.actions

/-- Every sequential run is an interleaved run, of the sections of its operations. -/
theorem sequential_path {s s' : Rdmabuffer β} {t : List (Transition (Rdmabuffer β) (Option (Op β)))}
    (h : (sequential β).Path s t s') :
    ∃ t', (interleaved β).Path (idle s) t' (idle s') ∧ ∀ x ∈ t', ∃ y ∈ t, SectionOf y x := by
  induction h with
  | nil => exact ⟨[], .nil, by simp⟩
  | @snoc u v t l hp hstep ih =>
    obtain ⟨t₁, h₁, hsec⟩ := ih
    have hlast : ∃ t₂, (interleaved β).Path (idle u) t₂ (idle v) ∧ ∀ x ∈ t₂, SectionOf ⟨u, l, v⟩ x := by
      cases l with
      | none => exact ⟨[⟨idle u, none, idle v⟩], .single ⟨hstep, rfl⟩, fun x hx => List.mem_singleton.1 hx⟩
      | some op =>
        obtain rfl : v = op.run u := hstep
        refine ⟨(idle u).trace op.actions, ?_, fun x hx => hx⟩
        rw [← run_actions]
        exact (idle u).path_run op.actions
    obtain ⟨t₂, h₂, hsec₂⟩ := hlast
    refine ⟨t₁ ++ t₂, h₁.append h₂, fun x hx => ?_⟩
    rcases List.mem_append.1 hx with hx | hx
    · obtain ⟨y, hy, hyx⟩ := hsec x hx
      exact ⟨y, List.mem_append_left _ hy, hyx⟩
    · exact ⟨⟨u, l, v⟩, by simp, hsec₂ x hx⟩

theorem sequential_run {s : Rdmabuffer β} {t : List (Transition (Rdmabuffer β) (Option (Op β)))}
    (h : (sequential β).Run t s) :
    ∃ t', (interleaved β).Run t' (idle s) ∧ ∀ x ∈ t', ∃ y ∈ t, SectionOf y x := by
  obtain ⟨s₀, rfl, hp⟩ := h
  obtain ⟨t', hp', hsec⟩ := sequential_path hp
  exact ⟨t', ⟨idle {}, rfl, hp'⟩, hsec⟩

end Embedding

/-! ## A session -/

namespace Session

/-- The authority a session is under. -/
def snapshot : AuthoritySnapshot :=
  { coordinatorEpoch := ⟨1⟩, workerBoot := ⟨1⟩, worker := ⟨1⟩, owner := ⟨1⟩, ownerGeneration := ⟨1⟩
    workerGeneration := ⟨1⟩, policyGeneration := ⟨1⟩, node := ⟨1⟩, process := ⟨1⟩ }

/-- The envelope that is current under it. -/
def envelope : AuthorityEnvelope :=
  { coordinatorEpoch := ⟨1⟩, workerBoot := ⟨1⟩, owner := ⟨1⟩, ownerGeneration := ⟨1⟩, workerGeneration := ⟨1⟩
    node := ⟨1⟩, process := ⟨1⟩ }

def synthetic : BackendId := ⟨0x53594E54⟩

/-- The handle of the first registration with the synthetic backend of a session. -/
def firstHandle : RegisterHandle :=
  ⟨{}, SyntheticBackend.makeHandle ((SyntheticBackend.new 0x52444D41).regionAt 1)⟩

/-- A pinned page, registered for remote reads and writes. -/
def page : BufferDescriptor :=
  { id := ⟨1⟩, generation := ⟨1⟩, domain := .hostPinned, base := { address := 0x10000, kind := .virtual }
    byteLength := 4096, alignment := 4096, requestedAccess := 0x0C }

/-- Authority, a synthetic backend, a protection domain and the page. -/
def setup : List (AtomicOp Backend) :=
  [.setAuthority snapshot, .addBackend (some (.synthetic 0x52444D41)), .createProtectionDomain ⟨1⟩ ⟨1⟩,
    .createBuffer page]

/-- The sections of a registration of the descriptor by client `c`. -/
def registration (c : Nat) (descriptor : BufferDescriptor) : List (Action Backend) :=
  [.registerBegin c descriptor synthetic ⟨1⟩ envelope, .registerCall c, .registerCommit c]

/-- A write of 64 bytes through registration `r`. -/
def write (r : RegistrationId) : RemoteAccessRequest :=
  { sourceRegistration := r, length := 64, kind := .write, requiredRights := 0x08, authority := envelope }

/-- The system after the setup and the given actions. -/
def after (as : List (Action Backend)) : System Backend := System.run {} (setup.map .atomic ++ as)

/-- The runtime after the setup and the given operations. -/
def afterOps (ops : List (Op Backend)) : Rdmabuffer Backend := Rdmabuffer.run {} (setup.map .atomic ++ ops)

theorem run_after (as : List (Action Backend)) :
    ∃ t, (interleaved Backend).Run t (after as) :=
  ⟨_, {}, rfl, System.path_run _ _⟩

end Session

end RdmaBuffer
