/-
The deployment completes: in every order of the processes and every cut of the bytes, the coordinator and its workers keep
to their dialogues, none of them waits in vain, and a run that cannot go on has come to the end of the scenario.
-/
import RdmaBuffer.Tools.Deployment
import RdmaBuffer.Tools.Scenario

namespace RdmaBuffer

namespace Tools

namespace Deployment

variable {args : Args} {σ σ' : Deployment} {C C' : History} {q i : Nat} {p : Process}

/-! ## The invariant -/

/-- What a worker has done where its program returned. -/
def WorkerDone (i : Nat) (code : Nat) (w : History) : Prop := code = 0 ∧ Met i 2 2 w

def CoordinatorDone (args : Args) (code : Nat) (w : History) : Prop :=
  code = 0 ∧ Stands args ⟨3, 3, 3, 0, 0, [0], transcript args⟩ w

/-- Worker `i` beside a coordinator that saw `C`, where the workers below `q` are connected. -/
structure Linked (args : Args) (C : History) (q i : Nat) (p : Process) : Prop where
  kept : (dialogue i).Kept (p.history.sent i) (p.history.received i) (C.sent i) (C.received i)
  connected : p.history.connected = if i < q then [i] else []
  opened : p.history.closed = []
  killed : p.killed = true → i = 0 ∧ 0 ∈ C.closed
  meets : p.killed = false → p.program.Meets (visiting args i) (WorkerDone i) p.history

/-- The coordinator beside `workers` workers, of which `q` are connected. -/
structure Central (args : Args) (C : History) (backlog : List Socket) (workers q : Nat) : Prop where
  spawned : C.spawned.length = workers
  joined : C.accepted ++ backlog = List.range q
  room : q ≤ workers
  next : workers ≤ C.accepted.length + 1
  listening : 0 < workers → C.listening = some args.port
  finished : ∀ s ∈ C.closed, s < C.accepted.length ∧ (dialogue s).Answered (C.sent s) (C.received s)
  silent : ∀ s ≥ workers, C.sent s = [] ∧ C.received s = []

structure Together (args : Args) (σ : Deployment) (q : Nat) : Prop where
  alive : σ.coordinator.killed = false
  meets : σ.coordinator.program.Meets (hosting args) (CoordinatorDone args) σ.coordinator.history
  central : Central args σ.coordinator.history σ.backlog σ.workers.length q
  killed : ∀ h ∈ σ.coordinator.history.killed, ∃ p, σ.workers[h]? = some p ∧ p.killed = true
  linked : ∀ i p, σ.workers[i]? = some p → Linked args σ.coordinator.history q i p

/-! ## What a worker that is gone has done -/

theorem Linked.gone (h : Linked args C q i p) (hgone : WorkerGone p i) :
    (dialogue i).Asked (p.history.sent i) (p.history.received i) ∨ i ∈ C.closed := by
  rcases hgone with hover | hclosed
  · unfold Process.ended at hover
    split at hover
    · rename_i code hcode
      cases hk : p.killed with
      | true =>
        obtain ⟨rfl, h0⟩ := h.killed hk
        exact .inr h0
      | false =>
        have hm := h.meets hk
        rw [hcode] at hm
        exact .inl ⟨hm.2.sent, hm.2.received⟩
    · obtain ⟨rfl, h0⟩ := h.killed hover
      exact .inr h0
  · rw [h.opened] at hclosed
    exact absurd hclosed List.not_mem_nil

/-- The coordinator does not wait for a worker that is gone. -/
theorem Linked.not_gone_listening (h : Linked args C q i p) (hover : ∀ s ∈ C.closed, (dialogue s).Answered (C.sent s) (C.received s))
    (hl : (dialogue i).Listening (C.sent i) (C.received i)) (hall : C.received i = p.history.sent i) :
    ¬WorkerGone p i := by
  intro hgone
  rcases h.gone hgone with hasked | hclosed
  · exact hasked.not_listening hl hall
  · exact (hover i hclosed).not_listening hl

theorem Linked.not_gone_answering {bs : Bytes} (h : Linked args C q i p)
    (hover : ∀ s ∈ C.closed, (dialogue s).Answered (C.sent s) (C.received s))
    (ha : (dialogue i).Answering (C.sent i) (C.received i) bs) : ¬WorkerGone p i := by
  intro hgone
  rcases h.gone hgone with hasked | hclosed
  · exact hasked.not_answering ha h.kept.down
  · exact (hover i hclosed).not_answering ha

/-! ## What the coordinator is answered -/

/-- The next connection is the worker that was created last. -/
theorem Central.head {backlog : List Socket} {n : Nat} {c : Socket} (h : Central args C backlog n q)
    (hc : backlog.head? = some c) : c = C.accepted.length := by
  obtain ⟨rest, rfl⟩ := List.head?_eq_some_iff.1 hc
  have hget : (C.accepted ++ c :: rest)[C.accepted.length]? = some c := by simp
  rw [h.joined] at hget
  obtain ⟨_, hget⟩ := List.getElem?_eq_some_iff.1 hget
  rw [← hget, List.getElem_range]

theorem Together.hosted (h : Together args σ q) {e : SysCall} {r : e.Answer} (hc : Hosts args σ.coordinator.history e)
    (ha : σ.CoordinatorAnswer e r) : Hosted σ.coordinator.history e r := by
  have hover := fun s hs => (h.central.finished s hs).2
  cases e with
  | socket => exact ha
  | listen => exact ha
  | createProcess words => exact ha.trans (congrArg Except.ok h.central.spawned.symm)
  | accept =>
    obtain ⟨c, hhead, rfl⟩ := ha
    exact congrArg some (h.central.head hhead)
  | recv s n =>
    obtain ⟨p, hp, hreceived⟩ := ha
    have hl := h.linked s p hp
    cases hreceived with
    | bytes x hx => exact ⟨x, rfl, hl.kept.heeds hc.2.2 hx⟩
    | eof hgone hall => exact absurd hgone (hl.not_gone_listening hover hc.2.2 hall)
  | send s bs =>
    obtain ⟨p, hp, hgone⟩ := ha
    exact fun hr => (h.linked s p hp).not_gone_answering hover hc.2 (hgone hr)
  | connect => exact trivial
  | closesocket => exact trivial
  | terminateProcess => exact trivial
  | fopen => exact trivial
  | fputs => exact trivial
  | sleep => exact trivial

/-! ## A step of the coordinator -/

theorem Linked.of_same (h : Linked args C q i p) (hsent : C'.sent i = C.sent i) (hreceived : C'.received i = C.received i)
    (hclosed : C.closed ⊆ C'.closed) : Linked args C' q i p where
  kept := by
    rw [hsent, hreceived]
    exact h.kept
  connected := h.connected
  opened := h.opened
  killed hk := ⟨(h.killed hk).1, hclosed (h.killed hk).2⟩
  meets := h.meets

/-- The coordinator received from a connection. -/
theorem Linked.heed {s : Socket} {x : Bytes} (h : Linked args C q i p)
    (hx : s = i → C.received i ++ x <+: p.history.sent i) : Linked args (C.receive s x) q i p := by
  by_cases hs : i = s
  · subst hs
    exact { h with kept := by rw [History.received_receive]; exact h.kept.heed (hx rfl) }
  · exact h.of_same rfl (History.received_receive_of_ne C x hs) (List.Subset.refl _)

/-- The coordinator sent on a connection. -/
theorem Linked.answer {s : Socket} {bs x : Bytes} (h : Linked args C q i p)
    (ha : (dialogue s).Answering (C.sent s) (C.received s) bs) (hx : x <+: bs) : Linked args (C.deliver s x) q i p := by
  by_cases hs : i = s
  · subst hs
    exact { h with kept := by rw [History.sent_deliver]; exact h.kept.answer ha hx }
  · exact h.of_same (History.sent_deliver_of_ne C x hs) rfl (List.Subset.refl _)

/-- A worker that was just created. -/
theorem Linked.created {backlog : List Socket} (h : Central args C backlog i q) :
    Linked args C q i { program := worker (argv args i) } where
  kept := by
    rw [(h.silent i (Nat.le_refl i)).1, (h.silent i (Nat.le_refl i)).2]
    exact .start Nat.zero_lt_two
  connected := (if_neg (Nat.not_lt.2 h.room)).symm
  opened := rfl
  killed := nofun
  meets _ := worker_visiting args i

theorem getElem?_concat {α : Type} {l : List α} {a b : α} (h : (l ++ [a])[i]? = some b) :
    l[i]? = some b ∨ i = l.length ∧ b = a := by
  rw [List.getElem?_append] at h
  split at h
  · exact .inl h
  · obtain ⟨hlt, hb⟩ := List.getElem?_eq_some_iff.1 h
    rw [List.length_singleton] at hlt
    rw [List.getElem_singleton] at hb
    exact .inr ⟨by omega, hb.symm⟩

theorem Together.linked_after (h : Together args σ q) {e : SysCall} {r : e.Answer}
    (hc : Hosts args σ.coordinator.history e) (hr : Hosted σ.coordinator.history e r) (ha : σ.CoordinatorAnswer e r)
    {p : Process} (hp : (employ σ.workers e)[i]? = some p) : Linked args (σ.coordinator.history.after e r) q i p := by
  cases e with
  | recv s n =>
    have hl := h.linked i p hp
    obtain ⟨x, rfl, -⟩ := hr
    obtain ⟨p', hp', hreceived⟩ := ha
    refine hl.heed ?_
    rintro rfl
    cases hp.symm.trans hp'
    cases hreceived with
    | bytes _ hx => exact hx
  | send s bs =>
    have hl := h.linked i p hp
    obtain ⟨a, rfl⟩ := Option.ne_none_iff_exists'.1 hr
    exact hl.answer hc.2 (List.take_prefix _ _)
  | closesocket s => exact (h.linked i p hp).of_same rfl rfl (List.subset_cons_self _ _)
  | createProcess words =>
    have hr : r = .ok _ := hr
    subst hr
    rcases getElem?_concat hp with hold | ⟨rfl, rfl⟩
    · exact (h.linked i p hold).of_same rfl rfl (List.Subset.refl _)
    · have hnew := Linked.created h.central
      rw [hc.1, h.central.spawned]
      exact hnew.of_same rfl rfl (List.Subset.refl _)
  | terminateProcess handle =>
    obtain ⟨rfl, hclosed⟩ := hc
    have hp : (σ.workers.modify 0 Process.kill)[i]? = some p := hp
    rw [List.getElem?_modify] at hp
    obtain ⟨p', hp', hkill⟩ := Option.map_eq_some_iff.1 hp
    have hl : Linked args (σ.coordinator.history.after (.terminateProcess 0) r) q i p' :=
      (h.linked i p' hp').of_same rfl rfl (List.Subset.refl _)
    split at hkill
    · rename_i hzero
      rw [← hkill]
      exact { hl with killed := fun _ => ⟨hzero.symm, hclosed⟩, meets := nofun }
    · rw [← hkill]
      exact hl
  | socket => exact h.linked i p hp
  | listen port => cases r <;> exact (h.linked i p hp).of_same rfl rfl (List.Subset.refl _)
  | accept => cases r <;> exact (h.linked i p hp).of_same rfl rfl (List.Subset.refl _)
  | connect => exact ha.elim
  | fopen => exact h.linked i p hp
  | fputs out text => cases out <;> exact (h.linked i p hp).of_same rfl rfl (List.Subset.refl _)
  | sleep => exact ha.elim

theorem Central.of_same {backlog : List Socket} {n : Nat} (h : Central args C backlog n q)
    (hlistening : C'.listening = C.listening) (haccepted : C'.accepted = C.accepted) (hspawned : C'.spawned = C.spawned)
    (hsent : C'.sent = C.sent) (hreceived : C'.received = C.received) (hclosed : C'.closed = C.closed) :
    Central args C' backlog n q where
  spawned := by rw [hspawned, h.spawned]
  joined := by rw [haccepted, h.joined]
  room := h.room
  next := by rw [haccepted]; exact h.next
  listening := by rw [hlistening]; exact h.listening
  finished := by rw [hclosed, haccepted, hsent, hreceived]; exact h.finished
  silent := by rw [hsent, hreceived]; exact h.silent

/-- The connections are of workers that were created. -/
theorem Together.accepted_le (h : Together args σ q) : σ.coordinator.history.accepted.length ≤ σ.workers.length := by
  have hlength := congrArg List.length h.central.joined
  rw [List.length_append, List.length_range] at hlength
  have := h.central.room
  omega

theorem Together.central_after (h : Together args σ q) {e : SysCall} {k : e.Answer → Tool Nat} {r : e.Answer}
    (hc : Hosts args σ.coordinator.history e) (hr : Hosted σ.coordinator.history e r) (ha : σ.CoordinatorAnswer e r) :
    Central args (σ.coordinator.history.after e r) (σ.coordinated e k r).backlog (employ σ.workers e).length q := by
  have hcentral := h.central
  have hroom := h.accepted_le
  -- a connection that goes on was not closed
  have hopen : ∀ s ∈ σ.coordinator.history.closed, ¬(dialogue s).Listening (σ.coordinator.history.sent s)
      (σ.coordinator.history.received s) ∧ ∀ bs, ¬(dialogue s).Answering (σ.coordinator.history.sent s)
      (σ.coordinator.history.received s) bs := fun s hs =>
    ⟨(hcentral.finished s hs).2.not_listening, fun _ => (hcentral.finished s hs).2.not_answering⟩
  cases e with
  | recv s n =>
    obtain ⟨x, rfl, -⟩ := hr
    refine { hcentral with finished := fun t ht => ?_, silent := fun t ht => ?_ }
    · have hne : t ≠ s := by
        rintro rfl
        exact (hopen t ht).1 hc.2.2
      exact ⟨(hcentral.finished t ht).1, (History.received_receive_of_ne _ x.bytes hne).symm ▸ (hcentral.finished t ht).2⟩
    · have hne : t ≠ s := Nat.ne_of_gt (Nat.lt_of_lt_of_le hc.2.1 (Nat.le_trans hroom ht))
      exact ⟨(hcentral.silent t ht).1, (History.received_receive_of_ne _ x.bytes hne).trans (hcentral.silent t ht).2⟩
  | send s bs =>
    obtain ⟨a, rfl⟩ := Option.ne_none_iff_exists'.1 hr
    refine { hcentral with finished := fun t ht => ?_, silent := fun t ht => ?_ }
    · have hne : t ≠ s := by
        rintro rfl
        exact (hopen t ht).2 bs hc.2
      exact ⟨(hcentral.finished t ht).1, (History.sent_deliver_of_ne _ (bs.take a.count) hne).symm ▸ (hcentral.finished t ht).2⟩
    · have hne : t ≠ s := Nat.ne_of_gt (Nat.lt_of_lt_of_le hc.1 (Nat.le_trans hroom ht))
      exact ⟨(History.sent_deliver_of_ne _ (bs.take a.count) hne).trans (hcentral.silent t ht).1, (hcentral.silent t ht).2⟩
  | closesocket s =>
    refine { hcentral with finished := fun t ht => ?_ }
    rcases List.mem_cons.1 ht with rfl | ht
    · exact hc
    · exact hcentral.finished t ht
  | createProcess words =>
    have hr : r = .ok _ := hr
    subst hr
    have hlength : (employ σ.workers (.createProcess words)).length = σ.workers.length + 1 := List.length_append
    rw [hlength]
    have hspawned : (σ.coordinator.history.spawned ++ [words]).length = σ.workers.length + 1 := by
      rw [List.length_append, hcentral.spawned, List.length_singleton]
    have hnext := hc.2.1
    rw [hcentral.spawned] at hnext
    exact { hcentral with
      spawned := hspawned, room := Nat.le_succ_of_le hcentral.room, next := by rw [hnext]; exact Nat.le_refl _
      listening := fun _ => hc.2.2, silent := fun t ht => hcentral.silent t (Nat.le_of_succ_le ht) }
  | terminateProcess handle =>
    have hlength : (employ σ.workers (.terminateProcess handle)).length = σ.workers.length := List.length_modify ..
    rw [hlength]
    exact hcentral.of_same rfl rfl rfl rfl rfl rfl
  | accept =>
    obtain ⟨c, hhead, rfl⟩ := ha
    obtain ⟨rest, hbacklog⟩ := List.head?_eq_some_iff.1 hhead
    have hlength : (σ.coordinator.history.accepted ++ [c]).length = σ.coordinator.history.accepted.length + 1 :=
      List.length_append
    have hjoined : (σ.coordinator.history.accepted ++ [c]) ++ σ.backlog.tail = List.range q := by
      rw [← hcentral.joined, hbacklog, List.append_assoc]
      rfl
    have hnext : σ.workers.length ≤ (σ.coordinator.history.accepted ++ [c]).length + 1 := by
      have := hcentral.next
      omega
    exact { hcentral with
      joined := hjoined, next := hnext
      finished := fun t ht => ⟨hlength ▸ Nat.lt_succ_of_lt (hcentral.finished t ht).1, (hcentral.finished t ht).2⟩ }
  | listen port =>
    have hr : r = true := hr
    subst hr
    exact { hcentral with listening := fun _ => congrArg some hc }
  | socket => exact hcentral
  | connect => exact ha.elim
  | fopen => exact hcentral
  | fputs out text => cases out <;> exact hcentral.of_same rfl rfl rfl rfl rfl rfl
  | sleep => exact ha.elim

theorem Together.killed_after (h : Together args σ q) {e : SysCall} {r : e.Answer}
    (hc : Hosts args σ.coordinator.history e) :
    ∀ t ∈ (σ.coordinator.history.after e r).killed, ∃ p, (employ σ.workers e)[t]? = some p ∧ p.killed = true := by
  have hold := h.killed
  cases e with
  | createProcess words =>
    intro t ht
    obtain ⟨p, hp, hk⟩ := hold t (by cases r <;> exact ht)
    exact ⟨p, (List.getElem?_append_left (List.getElem?_eq_some_iff.1 hp).1).trans hp, hk⟩
  | terminateProcess handle =>
    obtain ⟨rfl, hclosed⟩ := hc
    intro t ht
    have hkill : ∀ p, σ.workers[t]? = some p → (t = 0 ∨ p.killed = true) →
        ∃ p', (σ.workers.modify 0 Process.kill)[t]? = some p' ∧ p'.killed = true := by
      intro p hp hk
      refine ⟨_, (List.getElem?_modify ..).trans (congrArg _ hp), ?_⟩
      rcases hk with rfl | hk
      · rfl
      · dsimp only
        split
        · rfl
        · exact hk
    rcases List.mem_append.1 ht with ht | ht
    · obtain ⟨p, hp, hk⟩ := hold t ht
      exact hkill p hp (.inr hk)
    · cases List.mem_singleton.1 ht
      have hlt := Nat.lt_of_lt_of_le (h.central.finished 0 hclosed).1 h.accepted_le
      exact hkill _ (List.getElem?_eq_getElem hlt) (.inl rfl)
  | recv | send | listen | accept | socket | closesocket | fopen => cases r <;> exact hold
  | connect => exact hc.elim
  | fputs out text => cases out <;> exact hold
  | sleep => exact hc.elim

theorem Together.coordinator (h : Together args σ q) {e : SysCall} {k : e.Answer → Tool Nat} {r : e.Answer}
    (hp : σ.coordinator.program = .call e k) (ha : σ.CoordinatorAnswer e r) : Together args (σ.coordinated e k r) q := by
  have hm := h.meets
  rw [hp] at hm
  have hr := h.hosted hm.1 ha
  exact
    { alive := h.alive
      meets := hm.step ⟨hr, rfl⟩
      central := h.central_after hm.1 hr ha
      killed := h.killed_after hm.1
      linked := fun _ _ => h.linked_after hm.1 hr ha }

/-! ## What a worker is answered -/

/-- A coordinator that is gone from a connection has answered everything there. -/
theorem Together.coordinator_gone (h : Together args σ q) (hi : i < σ.workers.length) (hgone : σ.CoordinatorGone i) :
    (dialogue i).Answered (σ.coordinator.history.sent i) (σ.coordinator.history.received i) := by
  rcases hgone with hover | hclosed
  · unfold Process.ended at hover
    split at hover
    · rename_i code hcode
      have hm := h.meets
      rw [hcode] at hm
      refine (hm.2.finished i ?_).2
      rwa [← h.central.spawned, hm.2.spawned] at hi
    · rw [h.alive] at hover
      cases hover
  · exact (h.central.finished i hclosed).2

/-- A worker that is not connected is the last that was created, and the coordinator waits for it. -/
theorem Together.unconnected (h : Together args σ q) (hp : σ.workers[i]? = some p) (hc : p.history.connected = []) :
    i = q ∧ σ.coordinator.ended = false := by
  have hlt := (List.getElem?_eq_some_iff.1 hp).1
  have hq : q ≤ i := by
    have hconnected := (h.linked i p hp).connected
    rw [hc] at hconnected
    split at hconnected
    · cases hconnected
    · omega
  have hlength := congrArg List.length h.central.joined
  rw [List.length_append, List.length_range] at hlength
  have hnext := h.central.next
  refine ⟨by omega, Bool.eq_false_iff.2 fun hover => ?_⟩
  unfold Process.ended at hover
  split at hover
  · rename_i code hcode
    have hm := h.meets
    rw [hcode] at hm
    have hspawned := hm.2.spawned
    have haccepted := hm.2.accepted
    rw [h.central.spawned] at hspawned
    dsimp only at hspawned haccepted
    omega
  · rw [h.alive] at hover
    cases hover

theorem Together.visited (h : Together args σ q) (hp : σ.workers[i]? = some p) {e : SysCall} {r : e.Answer}
    (hc : Visits args i p.history e) (ha : σ.WorkerAnswer i p e r) : Visited i p.history e r := by
  have hlt := (List.getElem?_eq_some_iff.1 hp).1
  have hl := h.linked i p hp
  cases e with
  | socket => exact ha
  | connect host port =>
    obtain ⟨rfl, rfl, hconnected⟩ := hc
    have hlistening := h.central.listening (Nat.lt_of_le_of_lt (Nat.zero_le i) hlt)
    refine ha.1 ⟨rfl, ?_, (h.unconnected hp hconnected).2⟩
    rw [hlistening]
    rfl
  | recv s n =>
    obtain ⟨-, rfl, -, hawaiting⟩ := hc
    cases ha.2 with
    | bytes x hx => exact ⟨x, rfl, hl.kept.hears hawaiting hx⟩
    | eof hgone hall => exact ((h.coordinator_gone hlt hgone).not_awaiting hawaiting hall).elim
  | send s bs =>
    obtain ⟨rfl, -, hasking⟩ := hc
    exact fun hr => (h.coordinator_gone hlt (ha.2 hr)).not_asking hasking hl.kept.up
  | closesocket => exact trivial
  | fputs => exact trivial
  | listen => exact trivial
  | accept => exact hc.elim
  | createProcess => exact hc.elim
  | terminateProcess => exact trivial
  | fopen => exact trivial
  | sleep => exact trivial

/-! ## A step of a worker -/

/-- How many workers are connected after a call of one of them. -/
def arrived (q : Nat) : SysCall → Nat
  | .connect _ _ => q + 1
  | _ => q

/-- The worker itself. -/
theorem Together.linked_next (h : Together args σ q) (hp : σ.workers[i]? = some p) (hk : p.killed = false) {e : SysCall}
    {k : e.Answer → Tool Nat} {r : e.Answer} (hc : Visits args i p.history e) (hr : Visited i p.history e r)
    (ha : σ.WorkerAnswer i p e r)
    (hm : (k r).Meets (visiting args i) (WorkerDone i) (p.history.after e r)) :
    Linked args σ.coordinator.history (arrived q e) i (p.next k r) := by
  have hl := h.linked i p hp
  have hkilled : (p.next k r).killed = true → i = 0 ∧ 0 ∈ σ.coordinator.history.closed := fun hk' => by
    rw [Process.next, hk] at hk'
    cases hk'
  cases e with
  | connect host port =>
    have hr : r = some i := hr
    subst hr
    have hnone := hc.2.2
    obtain ⟨rfl, -⟩ := h.unconnected hp hnone
    refine { kept := hl.kept, connected := ?_, opened := hl.opened, killed := hkilled, meets := fun _ => hm }
    rw [arrived, if_pos (Nat.lt_succ_self i)]
    show p.history.connected ++ [i] = [i]
    rw [hnone, List.nil_append]
  | recv s n =>
    obtain ⟨x, rfl, -⟩ := hr
    obtain ⟨-, rfl, -⟩ := hc
    refine { kept := ?_, connected := hl.connected, opened := hl.opened, killed := hkilled, meets := fun _ => hm }
    show (dialogue s).Kept (p.history.sent s) ((p.history.receive s x.bytes).received s) _ _
    rw [History.received_receive]
    cases ha.2 with
    | bytes _ hx => exact hl.kept.hear hx
  | send s bs =>
    obtain ⟨a, rfl⟩ := Option.ne_none_iff_exists'.1 hr
    obtain ⟨rfl, -, hasking⟩ := hc
    refine { kept := ?_, connected := hl.connected, opened := hl.opened, killed := hkilled, meets := fun _ => hm }
    show (dialogue s).Kept ((p.history.deliver s (bs.take a.count)).sent s) _ _ _
    rw [History.sent_deliver]
    exact hl.kept.ask hasking (List.take_prefix _ _)
  | socket => exact { hl with killed := hkilled, meets := fun _ => hm }
  | fputs out text => cases out <;> exact { hl with killed := hkilled, meets := fun _ => hm }
  | sleep => exact r.elim
  | listen => exact hc.elim
  | accept => exact hc.elim
  | closesocket => exact hc.elim
  | createProcess => exact hc.elim
  | terminateProcess => exact hc.elim
  | fopen => exact hc.elim

/-- The other workers. -/
theorem Linked.arrive {j : Nat} (h : Linked args C q j p) {e : SysCall} (hj : ∀ host port, e = .connect host port → j ≠ q) :
    Linked args C (arrived q e) j p := by
  cases e with
  | connect host port =>
    have hne := hj host port rfl
    refine { h with connected := ?_ }
    rw [h.connected, arrived]
    by_cases hlt : j < q
    · rw [if_pos hlt, if_pos (Nat.lt_succ_of_lt hlt)]
    · rw [if_neg hlt, if_neg (by omega)]
  | _ => exact h

theorem Together.central_worked (h : Together args σ q) (hp : σ.workers[i]? = some p) {e : SysCall}
    {k : e.Answer → Tool Nat} {r : e.Answer} (hc : Visits args i p.history e) (hr : Visited i p.history e r) :
    Central args σ.coordinator.history (σ.worked i p e k r).backlog (σ.worked i p e k r).workers.length (arrived q e) := by
  have hlength : (σ.workers.set i (p.next k r)).length = σ.workers.length := List.length_set
  have hcentral : Central args σ.coordinator.history σ.backlog (σ.workers.set i (p.next k r)).length q := by
    rw [hlength]
    exact h.central
  cases e with
  | connect host port =>
    have hr : r = some i := hr
    subst hr
    obtain ⟨rfl, -⟩ := h.unconnected hp hc.2.2
    refine { hcentral with joined := ?_, room := ?_ }
    · show _ ++ (σ.backlog ++ [i]) = List.range (i + 1)
      rw [← List.append_assoc, h.central.joined, List.range_succ]
    · rw [worked, hlength]
      exact (List.getElem?_eq_some_iff.1 hp).1
  | _ => exact hcentral

theorem Together.worker (h : Together args σ q) (hp : σ.workers[i]? = some p) (hk : p.killed = false) {e : SysCall}
    {k : e.Answer → Tool Nat} {r : e.Answer} (hcall : p.program = .call e k) (ha : σ.WorkerAnswer i p e r) :
    Together args (σ.worked i p e k r) (arrived q e) := by
  have hm := (h.linked i p hp).meets hk
  rw [hcall] at hm
  have hc := hm.1
  have hr := h.visited hp hc ha
  refine { alive := h.alive, meets := h.meets, central := h.central_worked hp hc hr, killed := ?_, linked := ?_ }
  · intro t ht
    obtain ⟨p', hp', hk'⟩ := h.killed t ht
    have hne : i ≠ t := by
      rintro rfl
      cases hp.symm.trans hp'
      rw [hk] at hk'
      cases hk'
    exact ⟨p', (List.getElem?_set_ne hne).trans hp', hk'⟩
  · intro j p' hp'
    by_cases hj : i = j
    · subst hj
      have hlt := (List.getElem?_eq_some_iff.1 hp).1
      cases (List.getElem?_set_self hlt).symm.trans hp'
      exact h.linked_next hp hk hc hr ha (hm.step ⟨hr, rfl⟩)
    · refine (h.linked j p' ((List.getElem?_set_ne hj).symm.trans hp')).arrive ?_
      rintro host port rfl
      obtain ⟨rfl, -⟩ := h.unconnected hp hc.2.2
      exact fun hji => hj hji.symm

/-! ## Every run -/

theorem Together.start (hargs : args.scenario = true) :
    Together args { coordinator := { program := Tools.coordinator args } } 0 where
  alive := rfl
  meets := coordinator_hosting hargs
  central :=
    { spawned := rfl, joined := rfl, room := Nat.le_refl 0, next := Nat.zero_le _, listening := nofun, finished := nofun
      silent := fun _ _ => ⟨rfl, rfl⟩ }
  killed := nofun
  linked := nofun

theorem Together.step {l : Option Nat} (h : Together args σ q) (hs : Step σ l σ') : ∃ q', Together args σ' q' := by
  cases hs with
  | coordinator hp ha => exact ⟨q, h.coordinator hp ha⟩
  | worker hi hk hp ha => exact ⟨_, h.worker hi hk hp ha⟩

theorem together {t : List (Lts.Transition Deployment (Option Nat))} (h : (deployment args).Run t σ) :
    ∃ q, Together { args with scenario := true } σ q := by
  refine h.inv (I := fun σ => ∃ q, Together { args with scenario := true } σ q) ?_ ?_
  · rintro _ rfl
    exact ⟨0, .start rfl⟩
  · rintro σ l σ' hs ⟨q, hq⟩
    exact hq.step hs

/-! ## Where no process can go on -/

def Stuck (σ : Deployment) : Prop := ∀ l σ', ¬Step σ l σ'

/-- Bytes that are under way can be received. -/
theorem all_or_chunk {read sent : Bytes} {n : Nat} (h : read <+: sent) (hn : 0 < n) :
    read = sent ∨ ∃ x : Chunk n, read ++ x.bytes <+: sent := by
  obtain ⟨rest, rfl⟩ := h
  cases rest with
  | nil => exact .inl (List.append_nil _).symm
  | cons b rest =>
    refine .inr ⟨⟨[b], nofun, hn⟩, ?_⟩
    rw [List.prefix_append_right_inj]
    exact List.prefix_append [b] rest

/-- What a worker waits for: an answer that is not under way, or for ever. -/
inductive WorkerWaits (σ : Deployment) (i : Nat) (p : Process) : SysCall → Prop
  | recv (n : Nat) (h : (dialogue i).Awaiting (p.history.sent i) (p.history.received i))
      (hall : p.history.received i = σ.coordinator.history.sent i) (hgone : ¬σ.CoordinatorGone i) :
      WorkerWaits σ i p (.recv i n)
  | sleep (h : (dialogue i).Asked (p.history.sent i) (p.history.received i)) (hi : i = 0) : WorkerWaits σ i p .sleep

theorem Together.worker_waits (h : Together args σ q) (hstuck : Stuck σ) (hp : σ.workers[i]? = some p)
    (hk : p.killed = false) {e : SysCall} {k : e.Answer → Tool Nat} (hcall : p.program = .call e k) :
    p.history.connected = [i] ∧ WorkerWaits σ i p e := by
  have hl := h.linked i p hp
  have hm := hl.meets hk
  rw [hcall] at hm
  have hc := hm.1
  have hno : ∀ r, ¬σ.WorkerAnswer i p e r := fun r ha => hstuck _ _ (.worker hp hk hcall ha)
  cases e with
  | recv s n =>
    obtain ⟨hn, rfl, hconnected, hawaiting⟩ := hc
    rcases all_or_chunk hl.kept.down hn with hall | ⟨x, hx⟩
    · exact ⟨hconnected, .recv n hawaiting hall fun hgone => hno none ⟨rfl, .eof hgone hall⟩⟩
    · exact absurd ⟨rfl, .bytes x hx⟩ (hno (some x))
  | sleep => exact ⟨hc.2.1, .sleep hc.2.2 hc.1⟩
  | connect host port =>
    by_cases hlistens : σ.Listens host port
    · exact absurd ⟨fun _ => rfl, fun hn => absurd hlistens hn⟩ (hno (some i))
    · exact absurd ⟨fun hl => absurd hl hlistens, fun _ => rfl⟩ (hno none)
  | send s bs =>
    obtain ⟨rfl, -, hne, -⟩ := hc
    exact absurd ⟨rfl, nofun⟩ (hno (some ⟨bs.length, List.length_pos_iff.2 hne, Nat.le_refl _⟩))
  | socket => exact absurd rfl (hno true)
  | fputs => exact absurd trivial (hno ())
  | listen => exact hc.elim
  | accept => exact hc.elim
  | closesocket => exact hc.elim
  | createProcess => exact hc.elim
  | terminateProcess => exact hc.elim
  | fopen => exact hc.elim

/-- What the coordinator waits for: a connection, or a question that is not under way. -/
inductive CoordinatorWaits (σ : Deployment) : SysCall → Prop
  | accept (hcreated : σ.workers.length = σ.coordinator.history.accepted.length + 1) (hb : σ.backlog = []) :
      CoordinatorWaits σ .accept
  | recv (s n : Nat) (p : Process) (hp : σ.workers[s]? = some p)
      (h : (dialogue s).Listening (σ.coordinator.history.sent s) (σ.coordinator.history.received s))
      (hall : σ.coordinator.history.received s = p.history.sent s) (hgone : ¬WorkerGone p s) :
      CoordinatorWaits σ (.recv s n)

theorem Together.coordinator_waits (h : Together args σ q) (hstuck : Stuck σ) {e : SysCall} {k : e.Answer → Tool Nat}
    (hcall : σ.coordinator.program = .call e k) : CoordinatorWaits σ e := by
  have hm := h.meets
  rw [hcall] at hm
  have hc := hm.1
  have hno : ∀ r, ¬σ.CoordinatorAnswer e r := fun r ha => hstuck _ _ (.coordinator hcall ha)
  have hworker : ∀ s < σ.coordinator.history.accepted.length, ∃ p, σ.workers[s]? = some p := fun s hs =>
    ⟨_, List.getElem?_eq_getElem (Nat.lt_of_lt_of_le hs h.accepted_le)⟩
  cases e with
  | accept =>
    have hcreated := h.central.spawned
    rw [hc] at hcreated
    rcases hb : σ.backlog with _ | ⟨c, rest⟩
    · exact .accept hcreated.symm hb
    · exact absurd ⟨c, by rw [hb]; rfl, rfl⟩ (hno (some c))
  | recv s n =>
    obtain ⟨hn, hs, hl⟩ := hc
    obtain ⟨p, hp⟩ := hworker s hs
    rcases all_or_chunk (h.linked s p hp).kept.up hn with hall | ⟨x, hx⟩
    · exact .recv s n p hp hl hall fun hgone => hno none ⟨p, hp, .eof hgone hall⟩
    · exact absurd ⟨p, hp, .bytes x hx⟩ (hno (some x))
  | send s bs =>
    obtain ⟨hs, hne, -⟩ := hc
    obtain ⟨p, hp⟩ := hworker s hs
    exact absurd ⟨p, hp, nofun⟩ (hno (some ⟨bs.length, List.length_pos_iff.2 hne, Nat.le_refl _⟩))
  | createProcess => exact absurd rfl (hno (.ok σ.workers.length))
  | socket => exact absurd rfl (hno true)
  | listen => exact absurd rfl (hno true)
  | closesocket => exact absurd trivial (hno ())
  | terminateProcess => exact absurd trivial (hno ())
  | fopen => exact absurd trivial (hno true)
  | fputs => exact absurd trivial (hno ())
  | connect => exact hc.elim
  | sleep => exact hc.elim

/-- The coordinator does not wait for a worker that waits. -/
theorem Together.coordinator_returned (h : Together args σ q) (hstuck : Stuck σ) :
    σ.coordinator.program = .ret 0 ∧ Stands args ⟨3, 3, 3, 0, 0, [0], transcript args⟩ σ.coordinator.history := by
  cases hprogram : σ.coordinator.program with
  | ret code =>
    have hm := h.meets
    rw [hprogram] at hm
    exact ⟨congrArg _ hm.1, hm.2⟩
  | call e k =>
    cases h.coordinator_waits hstuck hprogram with
    | accept hcreated hb =>
      -- the worker that was created last is not connected, so it goes on
      have hq : σ.coordinator.history.accepted.length = q := by
        have hlength := congrArg List.length h.central.joined
        rwa [hb, List.append_nil, List.length_range] at hlength
      have hlt : q < σ.workers.length := by omega
      have hp := List.getElem?_eq_getElem hlt
      have hl := h.linked _ _ hp
      have hnone := hl.connected.trans (if_neg (Nat.lt_irrefl q))
      cases hk : σ.workers[q].killed with
      | true =>
        obtain ⟨rfl, hclosed⟩ := hl.killed hk
        exact absurd hq (Nat.ne_of_gt (h.central.finished 0 hclosed).1)
      | false =>
        have hconnected : σ.workers[q].history.connected = [q] := by
          cases hworker : σ.workers[q].program with
          | ret code =>
            have hm := hl.meets hk
            rw [hworker] at hm
            exact hm.2.connected
          | call e k => exact (h.worker_waits hstuck hp hk hworker).1
        rw [hnone] at hconnected
        cases hconnected
    | recv s n p hp hlistening hall hgone =>
      have hover : p.ended = false := Bool.eq_false_iff.2 fun hover => hgone (.inl hover)
      unfold Process.ended at hover
      split at hover
      · cases hover
      · rename_i e k hworker
        cases (h.worker_waits hstuck hp hover hworker).2 with
        | recv n hawaiting hall' hgone' => exact (Dialogue.not_both_waiting hawaiting hlistening hall' hall).elim
        | sleep hasked hi => exact (hasked.not_listening hlistening hall).elim

/-! ## The end of the scenario -/

/-- The coordinator returned 0 with the whole report, worker A was killed, and the others returned 0 with their answers. -/
structure Completed (args : Args) (σ : Deployment) : Prop where
  returned : σ.coordinator.program = .ret 0
  printed : σ.coordinator.history.printed = transcript args
  three : σ.workers.length = 3
  killed : ∃ p, σ.workers[0]? = some p ∧ p.killed = true
  finished : ∀ i p, σ.workers[i]? = some p → i ≠ 0 →
    p.program = .ret 0 ∧ p.history.received i = σ.coordinator.history.sent i ∧
      σ.coordinator.history.received i = p.history.sent i

theorem Together.completed (h : Together args σ q) (hstuck : Stuck σ) : Completed args σ := by
  obtain ⟨hreturned, hstands⟩ := h.coordinator_returned hstuck
  have hthree : σ.workers.length = 3 := h.central.spawned.symm.trans hstands.spawned
  have hover : σ.coordinator.ended = true := by
    rw [Process.ended, hreturned]
  refine { returned := hreturned, printed := hstands.printed, three := hthree, killed := ?_, finished := ?_ }
  · refine h.killed 0 ?_
    rw [hstands.killed]
    exact List.mem_singleton_self 0
  · intro i p hp hi
    have hlt := (List.getElem?_eq_some_iff.1 hp).1
    have hl := h.linked i p hp
    have hk : p.killed = false := Bool.eq_false_iff.2 fun hk => hi (hl.killed hk).1
    cases hworker : p.program with
    | ret code =>
      have hm := hl.meets hk
      rw [hworker] at hm
      obtain ⟨rfl, hmet⟩ := hm
      obtain ⟨hsent, hreceived⟩ := (hstands.finished i (hthree ▸ hlt)).2
      exact ⟨rfl, hmet.received.trans hsent.symm, hreceived.trans hmet.sent.symm⟩
    | call e k =>
      cases (h.worker_waits hstuck hp hk hworker).2 with
      | recv n hawaiting hall hgone => exact absurd (.inl hover) hgone
      | sleep hasked hzero => exact absurd hzero hi

/-- In whatever order the processes run and however the connections cut the bytes, a run that cannot go on has come to the
end: no process waits in vain, and the report is complete. -/
theorem scenario_completes (args : Args) {t : List (Lts.Transition Deployment (Option Nat))} {σ : Deployment}
    (h : (deployment args).Run t σ) (hstuck : Stuck σ) : Completed args σ := by
  obtain ⟨q, hq⟩ := together h
  obtain ⟨hreturned, hprinted, hthree, hkilled, hfinished⟩ := hq.completed hstuck
  exact ⟨hreturned, hprinted, hthree, hkilled, hfinished⟩

/-- There is a run to the end. -/
theorem scenario_completes_once : ∃ t σ, (deployment {}).Run t σ ∧ Stuck σ ∧ Completed {} σ := by
  have hstart : (deployment {}).Run [] { coordinator := { program := Tools.coordinator { scenario := true } } } :=
    .nil rfl
  obtain ⟨t, σ, ht, hstuck⟩ := hstart.to_end descends_wf (f := left) fun _ _ _ hs => Step.descends hs
  exact ⟨_, σ, ht, hstuck, scenario_completes {} ht hstuck⟩

end Deployment

end Tools

end RdmaBuffer
