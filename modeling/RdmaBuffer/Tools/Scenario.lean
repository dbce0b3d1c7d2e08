/-
The scenario, process by process: in the dialogues, every worker and the coordinator keep to their contracts, return 0 and
leave nothing unsaid.
-/
import RdmaBuffer.Tools.Dialogue

namespace RdmaBuffer

namespace Tools

open Protocol Wire

variable {args : Args} {i a b : Nat} {w : History}

-- what the runtime decides and what is sent for it is only named here
attribute [local irreducible] resultA decisionB resultFresh afterA afterB afterLoss sendFrame recvFrame

/-! ## A worker -/

/-- Worker `i` is connected, asked `a` questions and has `b` answers. -/
structure Met (i a b : Nat) (w : History) : Prop where
  connected : w.connected = [i]
  sent : w.sent i = told (dialogue i).asks a
  received : w.received i = told (dialogue i).answers b

theorem Met.print (h : Met i a b w) (out : Out) (text : StdString) : Met i a b (w.print out text) := by
  cases out <;> exact ⟨h.connected, h.sent, h.received⟩

theorem Met.ask {q r : Frame} (h : Met i a b w) (ht : Turn i a q r) : Met i (a + 1) b (w.deliver i q.encode) where
  connected := h.connected
  sent := by rw [History.sent_deliver, h.sent, ht.ask]
  received := h.received

theorem Met.hear {q r : Frame} (h : Met i a b w) (ht : Turn i b q r) : Met i a (b + 1) (w.receive i r.encode) where
  connected := h.connected
  sent := h.sent
  received := by rw [History.received_receive, h.received, ht.answer]

/-- A line that a worker prints. -/
theorem puts_visiting {text : StdString} {Q : Unit → History → Prop} (h : Met i a b w)
    (hQ : ∀ w', Met i a b w' → Q () w') : (puts text).Meets (visiting args i) Q w :=
  perform_watching trivial fun _ _ => hQ _ (h.print .stdout text)

/-- The worker asks and receives the answer. -/
theorem ask_visiting {kind : MessageKind} {seq : UInt64} {payload : Bytes} {r : Frame} {α : Type} {Q : α → History → Prop}
    {failed : Tool α} {rest : Except StdString Frame → Tool α} (ht : Turn i a ⟨kind, seq, payload⟩ r) (h : Met i a a w)
    (hrest : ∀ w', Met i (a + 1) (a + 1) w' → (rest (.ok r)).Meets (visiting args i) Q w') :
    (sendFrame i kind seq payload >>= fun ok => if !ok then failed else recvFrame i >>= rest).Meets (visiting args i) Q w := by
  refine Program.meets_bind.2 (sendFrame_visiting ht h.connected h.sent h.received ?_)
  have h₁ := h.ask ht
  refine Program.meets_bind.2 (recvFrame_visiting ht h₁.connected h₁.sent h₁.received ?_)
  exact hrest _ (h₁.hear ht)

theorem registerAck_arrives {ok : Bool} {reg keygen : UInt64} {msg : StdString} (h : msg.length ≤ 4096) :
    (fillRegisterAck {} (encodeRegisterAck ok reg keygen msg)).1.ok = ok := by
  have hd : decodeRegisterAck (encodeRegisterAck ok reg keygen msg) = some (ok, reg, keygen, msg) := by
    obtain ⟨x, hx, hc⟩ := Option.map_eq_some_iff.1 (decode_encode (c := .registerAck ok reg keygen msg) h)
    cases hc
    exact hx
  exact congrArg Prod.fst (fillRegisterAck_of_decode hd)

theorem turn_register : ∀ {i : Nat}, i ≠ 1 → Turn i 1 ⟨.registerBuffer, 2, encodeRegister workerBuffer 1 0⟩ (replyFrame i)
  | 0, _ => turn_request 0
  | i + 2, _ => turn_request (i + 2)

theorem turn_access : Turn 1 1 ⟨.requestAccess, 3, access⟩ (replyFrame 1) := turn_request 1

theorem eq_zero_of_hold : ∀ {i : Nat}, role i = lit "register-hold" → i = 0
  | 0, _ => rfl
  | 1, h => absurd h (by decide)
  | _ + 2, h => absurd h (by decide : role 2 ≠ lit "register-hold")

/-- A worker that was allowed to register is done, or waits for its end. -/
theorem registerRole_visiting (hi : i ≠ 1) (h : Met i 1 1 w) :
    (registerRole i (role i)).Meets (visiting args i) (fun code w => code = 0 ∧ Met i 2 2 w) w := by
  have hkind : (replyFrame i).kind = .registerBufferAck := by
    match i, hi with
    | 0, _ => rfl
    | _ + 2, _ => rfl
  have hok : (fillRegisterAck {} (replyFrame i).payload).1.ok = true := by
    match i, hi with
    | 0, _ => exact (registerAck_arrives (reply_bounded 0)).trans played.registered
    | _ + 2, _ => exact (registerAck_arrives (reply_bounded 2)).trans played.fresh
  unfold registerRole
  refine ask_visiting (turn_register hi) h fun w' h' => ?_
  dsimp only
  rw [if_neg (not_not.2 hkind)]
  refine Program.meets_bind.2 (puts_visiting h' fun w'' h'' => ?_)
  split
  · rename_i hrole
    exact ⟨⟨eq_zero_of_hold hrole, h''.connected, h''.sent, h''.received⟩, nofun⟩
  · exact ⟨rfl, h''⟩

theorem accessRole_visiting {boot : UInt64} (h : Met 1 1 1 w) :
    (accessRole 1 (role 1) (extra 1) boot).Meets (visiting args 1) (fun code w => code = 0 ∧ Met 1 2 2 w) w := by
  have hextra : extra 1 =
      [intToStr (afterA registration).regA.value, intToStr 1, intToStr (afterA registration).keygenA.value, lit "1"] := rfl
  have hargs : encodeAccess (strtoull (intToStr (afterA registration).regA.value)) 0 4 (strtoull (lit "1"))
      (accessMask .remoteWrite) (strtoull (intToStr 1)) (strtoull (intToStr (afterA registration).keygenA.value)) = access := by
    rw [strtoull_intToStr, strtoull_intToStr, strtoull_intToStr]
    rfl
  have hkind : (replyFrame 1).kind = .requestAccessAck := rfl
  unfold accessRole
  rw [hextra]
  dsimp only [List.getElem?_cons_zero, List.getElem?_cons_succ, Option.map_some, Option.getD_some]
  rw [hargs]
  refine ask_visiting turn_access h fun w' h' => ?_
  dsimp only
  rw [if_neg (not_not.2 hkind)]
  refine Program.meets_bind.2 (puts_visiting h' fun w'' h'' => ?_)
  exact ⟨rfl, h''⟩

theorem registers : ∀ {i : Nat}, i ≠ 1 → role i = lit "register" ∨ role i = lit "register-hold" ∨ role i = lit "register-fresh"
  | 0, _ => .inr (.inl rfl)
  | _ + 2, _ => .inr (.inr rfl)

theorem welcomeFrame_kind : ∀ i, (welcomeFrame i).kind = .helloAck
  | 0 | 1 | _ + 2 => rfl

/-- Worker `i` keeps to its dialogue and returns 0. -/
theorem worker_visiting (args : Args) (i : Nat) :
    (worker (argv args i)).Meets (visiting args i) (fun code w => code = 0 ∧ Met i 2 2 w) {} := by
  unfold argv worker
  refine call_watching trivial ?_
  rintro _ rfl
  refine call_watching ⟨rfl, rfl, rfl⟩ ?_
  rintro _ rfl
  have h₀ : Met i 0 0 (History.after {} (.connect (lit "127.0.0.1") (intToStr args.port)) (some i)) := ⟨rfl, rfl, rfl⟩
  refine ask_visiting (turn_hello i) h₀ fun w' h' => ?_
  dsimp only
  rw [if_neg (not_not.2 (welcomeFrame_kind i))]
  refine Program.meets_bind.2 (puts_visiting h' fun w'' h'' => ?_)
  by_cases hi : i = 1
  · subst hi
    have hrole : role 1 = lit "access" := rfl
    rw [if_neg (by decide), if_pos hrole]
    exact accessRole_visiting h''
  · rw [if_pos (registers hi)]
    exact registerRole_visiting hi h''

/-! ## The coordinator -/

/-- How far the coordinator is: the connections before `served` are over, and on the next one `asked` questions came and
`answered` answers went. -/
structure Stage where
  spawned : Nat := 0
  accepted : Nat := 0
  served : Nat := 0
  asked : Nat := 0
  answered : Nat := 0
  killed : List Handle := []
  printed : List StdString := []

structure Stands (args : Args) (st : Stage) (w : History) : Prop where
  listening : w.listening = some args.port
  spawned : w.spawned.length = st.spawned
  accepted : w.accepted.length = st.accepted
  finished : ∀ s < st.served, s ∈ w.closed ∧ (dialogue s).Answered (w.sent s) (w.received s)
  received : w.received st.served = told (dialogue st.served).asks st.asked
  sent : w.sent st.served = told (dialogue st.served).answers st.answered
  silent : ∀ s > st.served, w.received s = [] ∧ w.sent s = []
  killed : w.killed = st.killed
  printed : w.printed = st.printed

variable {st : Stage} {q r : Frame}

theorem Stands.print (h : Stands args st w) (text : StdString) :
    Stands args { st with printed := st.printed ++ [text] } (w.print .stdout text) :=
  { h with printed := congrArg (· ++ [text]) h.printed }

theorem Stands.log (h : Stands args st w) (text : StdString) : Stands args st (w.print .proof text) := { h with }

/-- The question of the turn came. -/
theorem Stands.hear (h : Stands args st w) (ht : Turn st.served st.asked q r) :
    Stands args { st with asked := st.asked + 1 } (w.receive st.served q.encode) where
  listening := h.listening
  spawned := h.spawned
  accepted := h.accepted
  finished s hs := by
    rw [History.received_receive_of_ne _ _ (Nat.ne_of_lt hs)]
    exact h.finished s hs
  received := by rw [History.received_receive, h.received, ht.ask]
  sent := h.sent
  silent s hs := by
    rw [History.received_receive_of_ne _ _ (Nat.ne_of_gt hs)]
    exact h.silent s hs
  killed := h.killed
  printed := h.printed

/-- The answer of the turn went. -/
theorem Stands.answer (h : Stands args st w) (ht : Turn st.served st.answered q r) :
    Stands args { st with answered := st.answered + 1 } (w.deliver st.served r.encode) where
  listening := h.listening
  spawned := h.spawned
  accepted := h.accepted
  finished s hs := by
    rw [History.sent_deliver_of_ne _ _ (Nat.ne_of_lt hs)]
    exact h.finished s hs
  received := h.received
  sent := by rw [History.sent_deliver, h.sent, ht.answer]
  silent s hs := by
    rw [History.sent_deliver_of_ne _ _ (Nat.ne_of_gt hs)]
    exact h.silent s hs
  killed := h.killed
  printed := h.printed

/-- A connection on which everything was asked and answered is closed. -/
theorem Stands.close (h : Stands args st w) (hasked : st.asked = 2) (hanswered : st.answered = 2) :
    (dialogue st.served).Answered (w.sent st.served) (w.received st.served) ∧
      Stands args { st with served := st.served + 1, asked := 0, answered := 0 } (w.close st.served) := by
  have hdone : (dialogue st.served).Answered (w.sent st.served) (w.received st.served) := by
    rw [h.sent, h.received, hasked, hanswered]
    exact ⟨rfl, rfl⟩
  refine ⟨hdone, { h with finished := ?_, received := ?_, sent := ?_, silent := ?_ }⟩
  · intro s hs
    rcases Nat.lt_succ_iff_lt_or_eq.1 hs with hs | rfl
    · exact ⟨List.mem_cons_of_mem _ (h.finished s hs).1, (h.finished s hs).2⟩
    · exact ⟨List.mem_cons_self, hdone⟩
  · exact (h.silent _ (Nat.lt_succ_self _)).1
  · exact (h.silent _ (Nat.lt_succ_self _)).2
  · exact fun s hs => h.silent s (Nat.lt_of_succ_lt hs)

/-! ## The calls of the coordinator -/

variable {n : Nat} {killed : List Handle} {lines : List StdString}

theorem report_hosting {log : Bool} {text : StdString} {Q : Unit → History → Prop} (h : Stands args st w)
    (hQ : ∀ w', Stands args { st with printed := st.printed ++ [text] } w' → Q () w') :
    (report log text).Meets (hosting args) Q w := by
  unfold report puts fputs
  refine call_watching trivial fun _ _ => ?_
  cases log with
  | false => exact hQ _ (h.print text)
  | true => exact call_watching trivial fun _ _ => hQ _ ((h.print text).log text)

theorem proof_hosting {log ok : Bool} {t : Tally} {line : StdString} {Q : Tally → History → Prop} (h : Stands args st w)
    (hQ : ∀ w', Stands args { st with printed := st.printed ++ [proofText ok line] } w' → Q (t.count ok) w') :
    (proof log t ok line).Meets (hosting args) Q w :=
  Program.meets_bind.2 (report_hosting h hQ)

/-- The next worker is created. -/
theorem scenarioWorker_hosting {Q : Option Handle → History → Prop} (hargs : args.scenario = true)
    (h : Stands args ⟨n, n, n, 0, 0, killed, lines⟩ w)
    (hQ : ∀ w', Stands args ⟨n + 1, n, n, 0, 0, killed, lines⟩ w' → Q (some n) w') :
    (scenarioWorker args (role n) (extra n)).Meets (hosting args) Q w := by
  have hspawned : w.spawned.length = n := h.spawned
  unfold scenarioWorker spawnWorker
  rw [if_pos hargs, Program.perform_bind]
  refine call_watching ⟨?_, hspawned.trans h.accepted.symm, h.listening⟩ ?_
  · rw [hspawned, argv]
  · rintro _ rfl
    have hlength : (w.spawned ++ [[args.workerExe, lit "127.0.0.1", intToStr args.port, role n] ++ extra n]).length = n + 1 := by
      rw [List.length_append, hspawned, List.length_singleton]
    rw [hspawned]
    exact hQ _ { h with spawned := hlength }

/-- The next worker is connected, welcomed and has asked. -/
theorem acceptWorker_hosting {noConnection : StdString} {noHello noRequest : StdString → StdString} {seq boot epoch : UInt64}
    {kind : MessageKind} {Q : Option (Socket × Bytes) → History → Prop}
    (h : Stands args ⟨n + 1, n, n, 0, 0, killed, lines⟩ w)
    (hack : welcomeFrame n = ⟨.helloAck, seq, encodeHelloAck boot epoch 1⟩) (hkind : (requestFrame n).kind = kind)
    (hQ : ∀ w', Stands args ⟨n + 1, n + 1, n, 2, 1, killed, lines⟩ w' → Q (some (n, (requestFrame n).payload)) w') :
    (acceptWorker noConnection noHello noRequest seq boot epoch kind).Meets (hosting args) Q w := by
  have haccepted : w.accepted.length = n := h.accepted
  unfold acceptWorker
  rw [Program.perform_bind]
  refine call_watching (h.spawned.trans (congrArg (· + 1) haccepted.symm)) ?_
  rintro _ rfl
  have h₁ : Stands args ⟨n + 1, n + 1, n, 0, 0, killed, lines⟩ (w.accept w.accepted.length) := by
    refine { h with accepted := ?_ }
    exact List.length_append.trans (congrArg (· + 1) haccepted)
  rw [haccepted] at h₁ ⊢
  have hlt : ∀ {st : Stage} {w' : History}, st.served = n → st.accepted = n + 1 → Stands args st w' →
      n < w'.accepted.length := fun _ ha h' => by rw [h'.accepted, ha]; exact Nat.lt_succ_self n
  have hhello : Turn n 0 (helloFrame n) ⟨.helloAck, seq, encodeHelloAck boot epoch 1⟩ := hack ▸ turn_hello n
  refine Program.meets_bind.2 (recvFrame_hosting hhello (hlt rfl rfl h₁) h₁.sent h₁.received ?_)
  have h₂ := h₁.hear hhello
  refine Program.meets_bind.2 (sendFrame_hosting hhello (hlt rfl rfl h₂) h₂.sent h₂.received ?_)
  have h₃ := h₂.answer hhello
  refine Program.meets_bind.2 (recvFrame_hosting (turn_request n) (hlt rfl rfl h₃) h₃.sent h₃.received ?_)
  have h₄ := h₃.hear (turn_request n)
  dsimp only
  rw [if_neg (not_not.2 hkind)]
  exact hQ _ h₄

/-- The answer is sent. -/
theorem reply_hosting {kind : MessageKind} {seq : UInt64} {payload : Bytes} {Q : Bool → History → Prop}
    (h : Stands args ⟨n + 1, n + 1, n, 2, 1, killed, lines⟩ w) (hreply : replyFrame n = ⟨kind, seq, payload⟩)
    (hQ : ∀ w', Stands args ⟨n + 1, n + 1, n, 2, 2, killed, lines⟩ w' → Q true w') :
    (sendFrame n kind seq payload).Meets (hosting args) Q w := by
  have ht : Turn n 1 (requestFrame n) ⟨kind, seq, payload⟩ := hreply ▸ turn_request n
  refine sendFrame_hosting ht ?_ h.sent h.received (hQ _ (h.answer ht))
  rw [h.accepted]
  exact Nat.lt_succ_self n

/-- The connection is closed and the stage returns. -/
theorem close_hosting {α : Type} {x : α} {Q : α → History → Prop}
    (h : Stands args ⟨n + 1, n + 1, n, 2, 2, killed, lines⟩ w)
    (hQ : ∀ w', Stands args ⟨n + 1, n + 1, n + 1, 0, 0, killed, lines⟩ w' → Q x w') :
    (Program.perform (SysCall.closesocket n) >>= fun _ => pure x : Tool α).Meets (hosting args) Q w := by
  obtain ⟨hdone, hclosed⟩ := h.close rfl rfl
  rw [Program.perform_bind]
  refine call_watching ⟨?_, hdone⟩ fun _ _ => hQ _ hclosed
  rw [h.accepted]
  exact Nat.lt_succ_self n

/-! ## The stages -/

theorem registerA_hosting {log : Bool} {Q : Option (Served × Tally) → History → Prop}
    (h : Stands args ⟨1, 0, 0, 0, 0, killed, lines⟩ w)
    (hQ : ∀ w', Stands args ⟨1, 1, 1, 0, 0, killed, lines ++ [proofText true lineA]⟩ w' →
      Q (some (afterA registration, ⟨1, 0⟩)) w') :
    (registerA log {} {}).Meets (hosting args) Q w := by
  unfold registerA
  refine Program.meets_bind.2 (acceptWorker_hosting h rfl rfl fun w₁ h₁ => ?_)
  dsimp only
  rw [payload_register (by decide), registerA_played]
  refine Program.meets_bind.2 (reply_hosting h₁ rfl fun w₂ h₂ => ?_)
  refine Program.meets_bind.2 (proof_hosting h₂ fun w₃ h₃ => ?_)
  dsimp only at h₃ ⊢
  rw [played.registered] at h₃ ⊢
  exact close_hosting h₃ hQ

theorem accessB_hosting {log : Bool} {Q : Option (Served × Tally) → History → Prop}
    (h : Stands args ⟨2, 1, 1, 0, 0, killed, lines⟩ w)
    (hQ : ∀ w', Stands args ⟨2, 2, 2, 0, 0, killed, lines ++ [proofText true lineB] ++
        [proofText true (lineStaleBoot .rejectStaleBoot)]⟩ w' →
      Q (some (afterB registration access, ⟨3, 0⟩)) w') :
    (accessB log (afterA registration) ⟨1, 0⟩).Meets (hosting args) Q w := by
  have hack : welcomeFrame 1 =
      ⟨.helloAck, 3, encodeHelloAck (afterA registration).nextBoot snap.coordinatorEpoch.value 1⟩ := by
    rw [afterA_nextBoot]
    rfl
  unfold accessB
  refine Program.meets_bind.2 (acceptWorker_hosting h hack rfl fun w₁ h₁ => ?_)
  dsimp only
  rw [payload_access, accessB_played]
  refine Program.meets_bind.2 (reply_hosting h₁ rfl fun w₂ h₂ => ?_)
  refine Program.meets_bind.2 (proof_hosting h₂ fun w₃ h₃ => ?_)
  refine Program.meets_bind.2 (proof_hosting h₃ fun w₄ h₄ => ?_)
  dsimp only at h₄ ⊢
  rw [played.allowed, played.staleBoot] at h₄ ⊢
  exact close_hosting h₄ hQ

theorem loseA_hosting {log : Bool} {Q : Served × Tally → History → Prop} (h : Stands args ⟨2, 2, 2, 0, 0, [], lines⟩ w)
    (hQ : ∀ w', Stands args ⟨2, 2, 2, 0, 0, [0], lines ++ [proofText true lineKilled] ++ [proofText true lineRestart] ++
        [proofText true (lineOldAuthority .rejectStaleEpoch)] ++ [proofText true lineRevoked]⟩ w' →
      Q (afterLoss registration access, ⟨7, 0⟩) w') :
    (loseA log (some 0) (afterB registration access) ⟨3, 0⟩).Meets (hosting args) Q w := by
  unfold loseA
  dsimp only
  rw [Program.perform_bind]
  refine call_watching ⟨rfl, (h.finished 0 Nat.zero_lt_two).1⟩ fun _ _ => ?_
  have h₁ : Stands args ⟨2, 2, 2, 0, 0, [0], lines⟩ (w.after (.terminateProcess 0) ()) :=
    { h with killed := congrArg (· ++ [0]) h.killed }
  refine Program.meets_bind.2 (proof_hosting h₁ fun w₂ h₂ => ?_)
  refine Program.meets_bind.2 (proof_hosting h₂ fun w₃ h₃ => ?_)
  refine Program.meets_bind.2 (proof_hosting h₃ fun w₄ h₄ => ?_)
  refine Program.meets_bind.2 (proof_hosting h₄ fun w₅ h₅ => ?_)
  rw [played.oldAuthority] at h₅ ⊢
  rw [loseA_played]
  exact hQ _ h₅

theorem registerFresh_hosting {log : Bool} {Q : Option (Served × Tally) → History → Prop}
    (h : Stands args ⟨3, 2, 2, 0, 0, killed, lines⟩ w)
    (hQ : ∀ s w', Stands args ⟨3, 3, 3, 0, 0, killed, lines ++ [proofText true (lineFresh 3)]⟩ w' →
      Q (some (s, ⟨8, 0⟩)) w') :
    (registerFresh log (afterLoss registration access) ⟨7, 0⟩).Meets (hosting args) Q w := by
  have hack : welcomeFrame 2 = ⟨.helloAck, 5, encodeHelloAck (afterLoss registration access).nextBoot
      (afterLoss registration access).fresh.coordinatorEpoch.value 1⟩ := by
    rw [afterLoss_nextBoot, afterLoss_epoch]
    rfl
  unfold registerFresh
  refine Program.meets_bind.2 (acceptWorker_hosting h hack rfl fun w₁ h₁ => ?_)
  dsimp only
  rw [payload_register (by decide), registerFresh_played]
  refine Program.meets_bind.2 (reply_hosting h₁ rfl fun w₂ h₂ => ?_)
  refine Program.meets_bind.2 (proof_hosting h₂ fun w₃ h₃ => ?_)
  dsimp only at h₃ ⊢
  rw [played.fresh, afterLoss_nextBoot] at h₃
  rw [played.fresh]
  exact close_hosting h₃ (hQ _)

/-! ## The process -/

def listeningLine (args : Args) : StdString :=
  lit "COORDINATOR LISTENING port=" ++ intToStr args.port ++ lit " worker=" ++ args.workerExe ++ lit "\n"

/-- What the coordinator prints in the scenario. -/
def transcript (args : Args) : List StdString :=
  [listeningLine args, proofText true lineA, proofText true lineB, proofText true (lineStaleBoot .rejectStaleBoot),
    proofText true lineKilled, proofText true lineRestart, proofText true (lineOldAuthority .rejectStaleEpoch),
    proofText true lineRevoked, proofText true (lineFresh 3), summary ⟨8, 0⟩]

theorem serve_hosting {log : Bool} (hargs : args.scenario = true) (h : Stands args {} w) :
    (serve args log).Meets (hosting args)
      (fun code w => code = 0 ∧ Stands args ⟨3, 3, 3, 0, 0, [0], transcript args⟩ w) w := by
  unfold serve
  refine Program.meets_bind.2 (perform_watching trivial fun _ _ => ?_)
  have h₁ := h.print (listeningLine args)
  refine Program.meets_bind.2 (scenarioWorker_hosting (n := 0) hargs h₁ fun w₂ h₂ => ?_)
  refine Program.meets_bind.2 (registerA_hosting h₂ fun w₃ h₃ => ?_)
  refine Program.meets_bind.2 (scenarioWorker_hosting (n := 1) hargs h₃ fun w₄ h₄ => ?_)
  refine Program.meets_bind.2 (accessB_hosting h₄ fun w₅ h₅ => ?_)
  refine Program.meets_bind.2 (loseA_hosting h₅ fun w₆ h₆ => ?_)
  refine Program.meets_bind.2 (scenarioWorker_hosting (n := 2) hargs h₆ fun w₇ h₇ => ?_)
  refine Program.meets_bind.2 (registerFresh_hosting h₇ fun s w₈ h₈ => ?_)
  refine Program.meets_bind.2 (report_hosting h₈ fun w₉ h₉ => ?_)
  exact ⟨rfl, h₉⟩

/-- In the dialogues the coordinator returns 0 with the whole report. -/
theorem coordinator_hosting (hargs : args.scenario = true) :
    (coordinator args).Meets (hosting args)
      (fun code w => code = 0 ∧ Stands args ⟨3, 3, 3, 0, 0, [0], transcript args⟩ w) {} := by
  have h₀ : Stands args {} (History.after {} (.listen args.port) true) :=
    { listening := rfl, spawned := rfl, accepted := rfl, finished := nofun, received := rfl, sent := rfl
      silent := fun _ _ => ⟨rfl, rfl⟩, killed := rfl, printed := rfl }
  have listen : ∀ {log : Bool},
      (do
        if !(← Program.perform SysCall.socket) then
          puts (lit "coordinator: socket failed\n")
          pure 1
        else if !(← Program.perform (SysCall.listen args.port)) then
          puts (lit "coordinator: bind/listen failed\n")
          pure 1
        else serve args log : Tool Nat).Meets (hosting args)
          (fun code w => code = 0 ∧ Stands args ⟨3, 3, 3, 0, 0, [0], transcript args⟩ w) {} := by
    intro log
    refine call_watching trivial ?_
    rintro _ rfl
    refine call_watching rfl ?_
    rintro _ rfl
    exact serve_hosting hargs h₀
  unfold coordinator
  refine Program.meets_bind.2 ?_
  unfold openProof
  split
  · exact listen
  · exact perform_watching trivial fun _ _ => listen

end Tools

end RdmaBuffer
