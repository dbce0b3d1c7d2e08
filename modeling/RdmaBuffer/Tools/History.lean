/-
What a process has seen: the bytes of its connections, the processes it created and the lines it printed; and the rules
for whole frames where the view is what was seen.
-/
import Mathlib.Logic.Function.Basic
import RdmaBuffer.Tools.Receiving

namespace RdmaBuffer

namespace Tools

open Protocol

/-- What a process has seen, by its connections in the order in which they were accepted; of a send that failed, how many
bytes the connection had been sent by then. -/
structure History where
  listening : Option UInt64 := none
  connected : List Socket := []
  accepted : List Socket := []
  received : Socket → Bytes := fun _ => []
  sent : Socket → Bytes := fun _ => []
  broken : List (Socket × Nat) := []
  closed : List Socket := []
  spawned : List (List StdString) := []
  killed : List Handle := []
  printed : List StdString := []
  logged : List StdString := []

namespace History

def accept (w : History) (c : Socket) : History := { w with accepted := w.accepted ++ [c] }

def receive (w : History) (s : Socket) (bs : Bytes) : History :=
  { w with received := Function.update w.received s (w.received s ++ bs) }

def deliver (w : History) (s : Socket) (bs : Bytes) : History :=
  { w with sent := Function.update w.sent s (w.sent s ++ bs) }

def breakOff (w : History) (s : Socket) : History := { w with broken := (s, (w.sent s).length) :: w.broken }

/-- More was sent on the connection after a send on it had failed. -/
def Resumed (w : History) (s : Socket) : Prop := ∃ n, (s, n) ∈ w.broken ∧ n < (w.sent s).length

def close (w : History) (s : Socket) : History := { w with closed := s :: w.closed }

def print (w : History) : Out → StdString → History
  | .stdout, text => { w with printed := w.printed ++ [text] }
  | .proof, text => { w with logged := w.logged ++ [text] }

/-- What was seen once a call returned. -/
def after (w : History) : (e : SysCall) → e.Answer → History
  | .listen port, true => { w with listening := some port }
  | .connect _ _, some s => { w with connected := w.connected ++ [s] }
  | .accept, some c => w.accept c
  | .recv s _, some x => w.receive s x.bytes
  | .send s bs, some r => w.deliver s (bs.take r.count)
  | .send s _, none => w.breakOff s
  | .closesocket s, () => w.close s
  | .createProcess argv, .ok _ => { w with spawned := w.spawned ++ [argv] }
  | .terminateProcess h, () => { w with killed := w.killed ++ [h] }
  | .fputs out text, () => w.print out text
  | _, _ => w

@[simp] theorem received_receive (w : History) (s : Socket) (bs : Bytes) :
    (w.receive s bs).received s = w.received s ++ bs := Function.update_self s _ _

theorem received_receive_of_ne (w : History) {s t : Socket} (bs : Bytes) (h : t ≠ s) :
    (w.receive s bs).received t = w.received t := Function.update_of_ne h _ _

@[simp] theorem sent_deliver (w : History) (s : Socket) (bs : Bytes) : (w.deliver s bs).sent s = w.sent s ++ bs :=
  Function.update_self s _ _

theorem sent_deliver_of_ne (w : History) {s t : Socket} (bs : Bytes) (h : t ≠ s) : (w.deliver s bs).sent t = w.sent t :=
  Function.update_of_ne h _ _

theorem receive_nil (w : History) (s : Socket) : w.receive s [] = w := by
  simp [receive]

theorem receive_receive (w : History) (s : Socket) (bs bs' : Bytes) :
    (w.receive s bs).receive s bs' = w.receive s (bs ++ bs') := by
  simp [receive]

theorem deliver_nil (w : History) (s : Socket) : w.deliver s [] = w := by
  simp [deliver]

theorem deliver_deliver (w : History) (s : Socket) (bs bs' : Bytes) :
    (w.deliver s bs).deliver s bs' = w.deliver s (bs ++ bs') := by
  simp [deliver]

end History

/-- The view is what was seen; calls and answers are those that the conditions allow. -/
def watching (Calls : History → SysCall → Prop) (Possible : History → (e : SysCall) → e.Answer → Prop) :
    Program.Contract SysCall.Answer History where
  Calls := Calls
  Answers w e r w' := Possible w e r ∧ w' = w.after e r

variable {Calls : History → SysCall → Prop} {Possible : History → (e : SysCall) → e.Answer → Prop} {s : Socket} {w : History}

/-- The rule for one call. -/
theorem call_watching {α : Type} {Q : α → History → Prop} {e : SysCall} {k : e.Answer → Tool α} (hcall : Calls w e)
    (h : ∀ r, Possible w e r → (k r).Meets (watching Calls Possible) Q (w.after e r)) :
    (Program.call e k).Meets (watching Calls Possible) Q w := by
  refine ⟨hcall, ?_⟩
  rintro r _ ⟨hr, rfl⟩
  exact h r hr

theorem perform_watching {e : SysCall} {Q : e.Answer → History → Prop} (hcall : Calls w e)
    (h : ∀ r, Possible w e r → Q r (w.after e r)) : (Program.perform e).Meets (watching Calls Possible) Q w :=
  call_watching hcall h

/-- The rule for `recv_frame`: `K got` is kept by every chunk. -/
theorem recvFrame_watching {K : Bytes → Prop} {Q : Except StdString Frame → History → Prop} (h : K [])
    (hcall : ∀ got n, K got → Short got → 0 < n → Calls (w.receive s got) (.recv s n))
    (hfail : ∀ got n, K got → Short got → Possible (w.receive s got) (.recv s n) none →
      Q (.error (lit "eof")) (w.receive s got))
    (hsome : ∀ got n x, K got → Short got → Possible (w.receive s got) (.recv s n) (some x) → K (got ++ x.bytes))
    (hok : ∀ f : Frame, f.Valid → K f.encode → Q (.ok f) (w.receive s f.encode))
    (hforeign : ∀ got err, K got → Foreign got → Q (.error err) (w.receive s got)) :
    (recvFrame s).Meets (watching Calls Possible) Q w := by
  refine recvFrame_meets (J := fun got w' => K got ∧ w' = w.receive s got) ?_ ?_ ?_ ?_ ?_ w
    ⟨h, (w.receive_nil s).symm⟩
  · rintro got _ n ⟨hK, rfl⟩ hshort hn
    exact hcall got n hK hshort hn
  · rintro got _ n _ ⟨hK, rfl⟩ hshort ⟨hp, rfl⟩
    exact hfail got n hK hshort hp
  · rintro got _ n x _ ⟨hK, rfl⟩ hshort ⟨hp, rfl⟩
    exact ⟨hsome got n x hK hshort hp, w.receive_receive s got x.bytes⟩
  · rintro f _ hf ⟨hK, rfl⟩
    exact hok f hf hK
  · rintro got err _ ⟨hK, rfl⟩ hforeign'
    exact hforeign got err hK hforeign'

/-- The rule for `send_frame`: `K k` is kept by every call that sends more. -/
theorem sendFrame_watching {kind : MessageKind} {seq : UInt64} {payload : Bytes} {K : Nat → Prop} {Q : Bool → History → Prop}
    (h : K 0)
    (hcall : ∀ k, K k → k < (encodeFrame kind seq payload).length →
      Calls (w.deliver s ((encodeFrame kind seq payload).take k)) (.send s ((encodeFrame kind seq payload).drop k)))
    (hfail : ∀ k, K k → k < (encodeFrame kind seq payload).length →
      Possible (w.deliver s ((encodeFrame kind seq payload).take k)) (.send s ((encodeFrame kind seq payload).drop k))
        none →
      Q false ((w.deliver s ((encodeFrame kind seq payload).take k)).breakOff s))
    (hsome : ∀ k r, K k → k < (encodeFrame kind seq payload).length →
      Possible (w.deliver s ((encodeFrame kind seq payload).take k)) (.send s ((encodeFrame kind seq payload).drop k))
        (some r) →
      K (k + r.count))
    (hdone : encodeFrame kind seq payload ≠ [] → K (encodeFrame kind seq payload).length →
      Q true (w.deliver s (encodeFrame kind seq payload)))
    (hempty : encodeFrame kind seq payload = [] → Q false w) :
    (sendFrame s kind seq payload).Meets (watching Calls Possible) Q w := by
  unfold sendFrame
  generalize encodeFrame kind seq payload = f at *
  dsimp only
  split
  · rename_i hf
    exact hempty (List.isEmpty_iff.1 hf)
  · rename_i hf
    refine sendAllFrom_meets (J := fun k w' => K k ∧ w' = w.deliver s (f.take k)) ?_ ?_ ?_ ?_ 0 w
      ⟨h, by rw [List.take_zero, History.deliver_nil]⟩ (Nat.zero_le _)
    · rintro k _ ⟨hK, rfl⟩ hlt
      exact hcall k hK hlt
    · rintro k _ _ ⟨hK, rfl⟩ hlt ⟨hp, rfl⟩
      exact hfail k hK hlt hp
    · rintro k _ r _ ⟨hK, rfl⟩ hlt ⟨hp, rfl⟩
      refine ⟨hsome k r hK hlt hp, ?_⟩
      rw [History.after, History.deliver_deliver, List.take_add]
    · rintro _ ⟨hK, rfl⟩
      rw [List.take_length]
      exact hdone (fun h => hf (List.isEmpty_iff.2 h)) hK

/-! ## Frames that are due -/

variable {f : Frame}

/-- Where the connection brings no bytes but those of a frame, the frame is received. -/
theorem recvFrame_due {Q : Except StdString Frame → History → Prop} (hf : f.Valid)
    (hcall : ∀ got n, got <+: f.encode → got ≠ f.encode → 0 < n → Calls (w.receive s got) (.recv s n))
    (hanswer : ∀ got n r, got <+: f.encode → Possible (w.receive s got) (.recv s n) r →
      ∃ x, r = some x ∧ got ++ x.bytes <+: f.encode)
    (hQ : Q (.ok f) (w.receive s f.encode)) : (recvFrame s).Meets (watching Calls Possible) Q w := by
  refine recvFrame_watching (K := fun got => got <+: f.encode) List.nil_prefix ?_ ?_ ?_ ?_ ?_
  · refine fun got n hK hshort => hcall got n hK fun hgot => not_short_encode hf [] ?_
    rwa [List.append_nil, ← hgot]
  · intro got n hK _ hnone
    obtain ⟨x, hx, -⟩ := hanswer got n none hK hnone
    cases hx
  · intro got n x hK _ hsome
    obtain ⟨x', hx, hp⟩ := hanswer got n (some x) hK hsome
    cases hx
    exact hp
  · intro f' hf' hK
    rw [hf'.eq_of_prefix hf hK]
    exact hQ
  · intro got err hK hforeign
    exact absurd (hK.trans (List.prefix_append _ _)) (hforeign f hf [])

/-- Where the connection takes the bytes of a frame, the frame is sent. -/
theorem sendFrame_due {Q : Bool → History → Prop} (hf : f.Valid)
    (hcall : ∀ sent bs, sent ++ bs = f.encode → bs ≠ [] → Calls (w.deliver s sent) (.send s bs))
    (hanswer : ∀ sent bs, ¬Possible (w.deliver s sent) (.send s bs) none)
    (hQ : Q true (w.deliver s f.encode)) :
    (sendFrame s f.kind f.seq f.payload).Meets (watching Calls Possible) Q w := by
  refine sendFrame_watching (K := fun _ => True) trivial ?_ ?_ ?_ ?_ ?_
  · rintro k - hk
    refine hcall _ _ (List.take_append_drop k _) fun hnil => ?_
    have hlen := congrArg List.length hnil
    rw [List.length_drop, List.length_nil] at hlen
    omega
  · exact fun k _ _ hnone => absurd hnone (hanswer _ _)
  · exact fun _ _ _ _ _ => trivial
  · exact fun _ _ => hQ
  · exact fun hnil => absurd hnil hf.encode_ne_nil

end Tools

end RdmaBuffer
