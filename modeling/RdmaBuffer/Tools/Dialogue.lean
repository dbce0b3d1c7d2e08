/-
The dialogues of the scenario: what each worker asks and what the coordinator answers, turn by turn, and the contracts
under which both keep to them.
-/
import RdmaBuffer.Lib.Turns
import RdmaBuffer.Tools.Conduct
import RdmaBuffer.Tools.Worker

namespace RdmaBuffer

namespace Tools

open Protocol Wire

/-! ## The frames -/

/-- The workers by their number: A, B and the fresh one. -/
def role : Nat → StdString
  | 0 => lit "register-hold"
  | 1 => lit "access"
  | _ => lit "register-fresh"

/-- What workers A and A' register. -/
def registration : Bytes := encodeRegister workerBuffer 1 0

/-- The access that worker B asks for under what worker A has registered. -/
def accessCommand : Command :=
  .access (afterA registration).regA.value 0 4 1 (accessMask .remoteWrite) 1 (afterA registration).keygenA.value

def access : Bytes := accessCommand.encode

/-- The arguments behind the role. -/
def extra : Nat → List StdString
  | 1 => [intToStr (afterA registration).regA.value, intToStr 1, intToStr (afterA registration).keygenA.value, lit "1"]
  | _ => []

/-- The command line of worker `i`. -/
def argv (args : Args) (i : Nat) : List StdString :=
  [args.workerExe, lit "127.0.0.1", intToStr args.port, role i] ++ extra i

def hello (i : Nat) : Command := .hello (role i)

def request : Nat → Command
  | 1 => accessCommand
  | _ => .register workerBuffer 1 0

def welcome : Nat → Command
  | 0 => .helloAck 1 1 1
  | 1 => .helloAck 2 1 1
  | _ => .helloAck 3 2 1

def reply : Nat → Command
  | 0 => .registerAck (resultA registration).ok (resultA registration).registration.value (afterA registration).keygenA.value
      (resultA registration).explanation
  | 1 => .accessAck (UInt8.ofNat (decisionB registration access).outcome.ctorIdx) (decisionB registration access).explanation
  | _ => .registerAck (resultFresh registration access registration).ok
      (resultFresh registration access registration).registration.value 0
      (resultFresh registration access registration).explanation

def helloFrame (i : Nat) : Frame := ⟨.hello, 1, (hello i).encode⟩

def requestFrame (i : Nat) : Frame :=
  match i with
  | 1 => ⟨.requestAccess, 3, (request i).encode⟩
  | _ => ⟨.registerBuffer, 2, (request i).encode⟩

def welcomeFrame (i : Nat) : Frame :=
  match i with
  | 0 => ⟨.helloAck, 1, (welcome i).encode⟩
  | 1 => ⟨.helloAck, 3, (welcome i).encode⟩
  | _ => ⟨.helloAck, 5, (welcome i).encode⟩

def replyFrame (i : Nat) : Frame :=
  match i with
  | 0 => ⟨.registerBufferAck, 2, (reply i).encode⟩
  | 1 => ⟨.requestAccessAck, 4, (reply i).encode⟩
  | _ => ⟨.registerBufferAck, 6, (reply i).encode⟩

/-! ## What the runtime decides -/

/-- The scenario as the runtime plays it. -/
structure Played : Prop where
  registered : (resultA registration).ok = true
  allowed : (decisionB registration access).outcome = .allow
  staleBoot : ((afterA registration).bump.accessB access).2.2.outcome = .rejectStaleBoot
  oldAuthority : (afterB registration access).loseA.2.outcome = .rejectStaleEpoch
  fresh : (resultFresh registration access registration).ok = true

theorem played : Played where
  registered := by decide +kernel
  allowed := by decide +kernel
  staleBoot := by decide +kernel
  oldAuthority := by decide +kernel
  fresh := by decide +kernel

/-- The runtime as the scenario leaves it. -/
def afterFresh : Served := ((afterLoss registration access).registerFresh registration).1

section

attribute [local irreducible] Served.registerA Served.accessB Served.loseA Served.registerFresh registration access

theorem registerA_played : Served.registerA {} registration = (afterA registration, resultA registration) := rfl

theorem accessB_played : (afterA registration).bump.accessB access =
    (afterB registration access, decisionB registration access, ((afterA registration).bump.accessB access).2.2) := rfl

theorem loseA_played : (afterB registration access).loseA.1 = afterLoss registration access := rfl

theorem registerFresh_played : (afterLoss registration access).registerFresh registration =
    (afterFresh, resultFresh registration access registration) := rfl

end

theorem hello_bounded : ∀ i, (hello i).Bounded
  | 0 => (by decide : (hello 0).Bounded)
  | 1 => (by decide : (hello 1).Bounded)
  | _ + 2 => (by decide : (hello 2).Bounded)

theorem request_bounded : ∀ i, (request i).Bounded
  | 0 => trivial
  | 1 => trivial
  | _ + 2 => trivial

theorem welcome_bounded : ∀ i, (welcome i).Bounded
  | 0 => trivial
  | 1 => trivial
  | _ + 2 => trivial

theorem reply_bounded : ∀ i, (reply i).Bounded
  | 0 => (by decide +kernel : (reply 0).Bounded)
  | 1 => (by decide +kernel : (reply 1).Bounded)
  | _ + 2 => (by decide +kernel : (reply 2).Bounded)

theorem helloFrame_valid (i : Nat) : (helloFrame i).Valid := ⟨nofun, nofun, length_encode_le (hello_bounded i)⟩

theorem requestFrame_valid : ∀ i, (requestFrame i).Valid
  | 0 => ⟨nofun, nofun, length_encode_le (request_bounded 0)⟩
  | 1 => ⟨nofun, nofun, length_encode_le (request_bounded 1)⟩
  | i + 2 => ⟨nofun, nofun, length_encode_le (request_bounded (i + 2))⟩

theorem payload_register : ∀ {i : Nat}, i ≠ 1 → (requestFrame i).payload = registration
  | 0, _ => rfl
  | _ + 2, _ => rfl

theorem payload_access : (requestFrame 1).payload = access := rfl

theorem welcomeFrame_valid : ∀ i, (welcomeFrame i).Valid
  | 0 => ⟨nofun, nofun, length_encode_le (welcome_bounded 0)⟩
  | 1 => ⟨nofun, nofun, length_encode_le (welcome_bounded 1)⟩
  | i + 2 => ⟨nofun, nofun, length_encode_le (welcome_bounded (i + 2))⟩

theorem replyFrame_valid : ∀ i, (replyFrame i).Valid
  | 0 => ⟨nofun, nofun, length_encode_le (reply_bounded 0)⟩
  | 1 => ⟨nofun, nofun, length_encode_le (reply_bounded 1)⟩
  | i + 2 => ⟨nofun, nofun, length_encode_le (reply_bounded (i + 2))⟩

/-! ## The dialogues -/

/-- Worker `i` introduces itself and is welcomed, asks and is answered. -/
def dialogue (i : Nat) : Dialogue UInt8 where
  asks := [(helloFrame i).encode, (requestFrame i).encode]
  answers := [(welcomeFrame i).encode, (replyFrame i).encode]
  asks_length := rfl
  asks_ne := by
    simp [(helloFrame_valid i).encode_ne_nil, (requestFrame_valid i).encode_ne_nil]
  answers_ne := by
    simp [(welcomeFrame_valid i).encode_ne_nil, (replyFrame_valid i).encode_ne_nil]

/-! ## Contracts -/

/-- What the coordinator calls. -/
def Hosts (args : Args) (w : History) : SysCall → Prop
  | .socket | .fopen _ | .fputs _ _ => True
  | .listen port => port = args.port
  | .createProcess words =>
      words = argv args w.spawned.length ∧ w.spawned.length = w.accepted.length ∧ w.listening = some args.port
  | .accept => w.spawned.length = w.accepted.length + 1
  | .recv s n => 0 < n ∧ s < w.accepted.length ∧ (dialogue s).Listening (w.sent s) (w.received s)
  | .send s bs => s < w.accepted.length ∧ (dialogue s).Answering (w.sent s) (w.received s) bs
  | .closesocket s => s < w.accepted.length ∧ (dialogue s).Answered (w.sent s) (w.received s)
  | .terminateProcess h => h = 0 ∧ 0 ∈ w.closed
  | .connect _ _ | .sleep => False

/-- What it is answered then. -/
def Hosted (w : History) : (e : SysCall) → e.Answer → Prop
  | .socket, r => r = true
  | .listen _, r => r = true
  | .createProcess _, r => r = .ok w.spawned.length
  | .accept, r => r = some w.accepted.length
  | .recv s _, r => ∃ x, r = some x ∧ (dialogue s).Heeds (w.sent s) (w.received s ++ x.bytes)
  | .send _ _, r => r ≠ none
  | _, _ => True

/-- What worker `i` calls. -/
def Visits (args : Args) (i : Nat) (w : History) : SysCall → Prop
  | .socket | .fputs _ _ => True
  | .connect host port => host = lit "127.0.0.1" ∧ port = intToStr args.port ∧ w.connected = []
  | .recv s n => 0 < n ∧ s = i ∧ w.connected = [i] ∧ (dialogue i).Awaiting (w.sent i) (w.received i)
  | .send s bs => s = i ∧ w.connected = [i] ∧ (dialogue i).Asking (w.sent i) (w.received i) bs
  | .sleep => i = 0 ∧ w.connected = [i] ∧ (dialogue i).Asked (w.sent i) (w.received i)
  | _ => False

def Visited (i : Nat) (w : History) : (e : SysCall) → e.Answer → Prop
  | .socket, r => r = true
  | .connect _ _, r => r = some i
  | .recv s _, r => ∃ x, r = some x ∧ (dialogue s).Hears (w.sent s) (w.received s ++ x.bytes)
  | .send _ _, r => r ≠ none
  | _, _ => True

abbrev hosting (args : Args) : Program.Contract SysCall.Answer History := watching (Hosts args) Hosted

abbrev visiting (args : Args) (i : Nat) : Program.Contract SysCall.Answer History := watching (Visits args i) (Visited i)

/-! ## Frames in their turn -/

/-- The question of turn `k`, and its answer. -/
structure Turn (i k : Nat) (q a : Frame) : Prop where
  lt : k < (dialogue i).turns
  ask_valid : q.Valid
  answer_valid : a.Valid
  ask : told (dialogue i).asks (k + 1) = told (dialogue i).asks k ++ q.encode
  answer : told (dialogue i).answers (k + 1) = told (dialogue i).answers k ++ a.encode

theorem turn_hello (i : Nat) : Turn i 0 (helloFrame i) (welcomeFrame i) where
  lt := Nat.zero_lt_two
  ask_valid := helloFrame_valid i
  answer_valid := welcomeFrame_valid i
  ask := told_succ Nat.zero_lt_two
  answer := told_succ Nat.zero_lt_two

theorem turn_request (i : Nat) : Turn i 1 (requestFrame i) (replyFrame i) where
  lt := Nat.one_lt_two
  ask_valid := requestFrame_valid i
  answer_valid := replyFrame_valid i
  ask := told_succ Nat.one_lt_two
  answer := told_succ Nat.one_lt_two

section

variable {args : Args} {i k : Nat} {q a : Frame} {w : History}

/-- The coordinator receives the question. -/
theorem recvFrame_hosting {Q : Except StdString Frame → History → Prop} (ht : Turn i k q a) (hi : i < w.accepted.length)
    (hsent : w.sent i = told (dialogue i).answers k) (hgot : w.received i = told (dialogue i).asks k)
    (hQ : Q (.ok q) (w.receive i q.encode)) : (recvFrame i).Meets (hosting args) Q w := by
  refine recvFrame_due ht.ask_valid ?_ ?_ hQ
  · intro got n hp hne hn
    refine ⟨hn, hi, k, ht.lt, hsent, ?_⟩
    rw [History.received_receive, hgot, ht.ask]
    exact ⟨(List.prefix_append_right_inj _).2 hp, fun h => hne (List.append_cancel_left h)⟩
  · rintro got n r hp ⟨x, hx, hheeds⟩
    refine ⟨x, hx, ?_⟩
    have hp' := hheeds.of_sent ht.lt hsent
    rw [History.received_receive, hgot, ht.ask, List.append_assoc] at hp'
    exact (List.prefix_append_right_inj _).1 hp'

/-- The coordinator sends the answer. -/
theorem sendFrame_hosting {kind : MessageKind} {seq : UInt64} {payload : Bytes} {Q : Bool → History → Prop}
    (ht : Turn i k q ⟨kind, seq, payload⟩) (hi : i < w.accepted.length) (hsent : w.sent i = told (dialogue i).answers k)
    (hgot : w.received i = told (dialogue i).asks (k + 1))
    (hQ : Q true (w.deliver i (Frame.encode ⟨kind, seq, payload⟩))) :
    (sendFrame i kind seq payload).Meets (hosting args) Q w := by
  refine sendFrame_due (f := ⟨kind, seq, payload⟩) ht.answer_valid ?_ (fun _ _ h => h rfl) hQ
  intro sent bs hbs hne
  refine ⟨hi, hne, k, ht.lt, hgot, ?_⟩
  rw [History.sent_deliver, hsent, List.append_assoc, hbs, ht.answer]

/-- The worker sends the question. -/
theorem sendFrame_visiting {kind : MessageKind} {seq : UInt64} {payload : Bytes} {Q : Bool → History → Prop}
    (ht : Turn i k ⟨kind, seq, payload⟩ a) (hc : w.connected = [i]) (hsent : w.sent i = told (dialogue i).asks k)
    (hgot : w.received i = told (dialogue i).answers k)
    (hQ : Q true (w.deliver i (Frame.encode ⟨kind, seq, payload⟩))) :
    (sendFrame i kind seq payload).Meets (visiting args i) Q w := by
  refine sendFrame_due (f := ⟨kind, seq, payload⟩) ht.ask_valid ?_ (fun _ _ h => h rfl) hQ
  intro sent bs hbs hne
  refine ⟨rfl, hc, hne, k, ht.lt, hgot, ?_⟩
  rw [History.sent_deliver, hsent, List.append_assoc, hbs, ht.ask]

/-- The worker receives the answer. -/
theorem recvFrame_visiting {Q : Except StdString Frame → History → Prop} (ht : Turn i k q a) (hc : w.connected = [i])
    (hsent : w.sent i = told (dialogue i).asks (k + 1)) (hgot : w.received i = told (dialogue i).answers k)
    (hQ : Q (.ok a) (w.receive i a.encode)) : (recvFrame i).Meets (visiting args i) Q w := by
  refine recvFrame_due ht.answer_valid ?_ ?_ hQ
  · intro got n hp hne hn
    refine ⟨hn, rfl, hc, k, ht.lt, hsent, ?_⟩
    rw [History.received_receive, hgot, ht.answer]
    exact ⟨(List.prefix_append_right_inj _).2 hp, fun h => hne (List.append_cancel_left h)⟩
  · rintro got n r hp ⟨x, hx, hhears⟩
    refine ⟨x, hx, ?_⟩
    have hp' := hhears.of_sent ht.lt hsent
    rw [History.received_receive, hgot, ht.answer, List.append_assoc] at hp'
    exact (List.prefix_append_right_inj _).1 hp'

end

end Tools

end RdmaBuffer
