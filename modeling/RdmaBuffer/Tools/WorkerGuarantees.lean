/-
What a worker guarantees whoever answers it: it sends nothing but its HELLO and, once it was welcomed, its one request, and
it returns 0 only after the answer that its role waits for.
-/
import RdmaBuffer.Tools.Peers
import RdmaBuffer.Tools.Worker

namespace RdmaBuffer

namespace Tools

open Protocol Wire

/-! ## What a worker sends -/

def ownHello (role : StdString) : Bytes := encodeFrame .hello 1 (encodeHello role)

def Registering (role : StdString) : Prop :=
  role = lit "register" ∨ role = lit "register-hold" ∨ role = lit "register-fresh"

instance (role : StdString) : Decidable (Registering role) := inferInstanceAs (Decidable (_ ∨ _))

/-- The `i`-th argument behind the role, or what stands for it. -/
def argument (args : List StdString) (i : Nat) (default : UInt64) : UInt64 := (args[i]?.map strtoull).getD default

/-- The request of the role, where the worker was told its boot. -/
inductive OwnRequest (role : StdString) (args : List StdString) (boot : UInt64) : Bytes → Prop
  | register (h : Registering role) : OwnRequest role args boot (encodeFrame .registerBuffer 2 (encodeRegister workerBuffer 1 0))
  | access (h : role = lit "access") : OwnRequest role args boot (encodeFrame .requestAccess 3
      (encodeAccess (argument args 0 1) 0 4 (argument args 3 1) (accessMask .remoteWrite) (argument args 1 boot)
        (argument args 2 1)))

/-- Where a worker received `got`, what it may have sent. -/
inductive Owes (role : StdString) (args : List StdString) (got : Bytes) : Bytes → Prop
  | hello {bs : Bytes} (h : bs <+: ownHello role) : Owes role args got bs
  | request {bs q : Bytes} {f : Frame} (hf : f.Valid) (hkind : f.kind = .helloAck) (hgot : f.encode <+: got)
      (hq : OwnRequest role args (fillHelloAck {} f.payload).1.boot q) (h : bs <+: ownHello role ++ q) :
      Owes role args got bs

/-- Nothing else is sent on any connection. -/
def Modest (role : StdString) (args : List StdString) (w : History) : Prop :=
  ∀ s, Owes role args (w.received s) (w.sent s)

/-! ## What it returns -/

/-- What a worker sent and received that returns 0: whole frames, in the order in which its role has them. -/
inductive Contented (role : StdString) (args : List StdString) (sent got : Bytes) : Prop
  | asked {f₁ f₂ : Frame} {q : Bytes} (hf₁ : f₁.Valid) (hwelcome : f₁.kind = .helloAck) (hf₂ : f₂.Valid)
      (hq : OwnRequest role args (fillHelloAck {} f₁.payload).1.boot q)
      (hregistered : Registering role → role ≠ lit "register-hold" ∧ f₂.kind = .registerBufferAck ∧
        (fillRegisterAck {} f₂.payload).1.ok = true)
      (haccess : role = lit "access" → f₂.kind = .requestAccessAck) (hsent : sent = ownHello role ++ q)
      (hgot : got = f₁.encode ++ f₂.encode) : Contented role args sent got
  | idle {f₁ : Frame} (h : ¬Registering role) (ha : role ≠ lit "access") (hf₁ : f₁.Valid) (hwelcome : f₁.kind = .helloAck)
      (hsent : sent = ownHello role) (hgot : got = f₁.encode) : Contented role args sent got

/-- What holds where a worker returned. -/
def Returned (role : StdString) (args : List StdString) (code : Nat) (w : History) : Prop :=
  Modest role args w ∧ code ≤ 6 ∧
    (code = 0 → ∃ s, w.connected = [s] ∧ Contented role args (w.sent s) (w.received s))

variable {role : StdString} {args : List StdString} {w : History} {s : Socket} {got bs : Bytes}

theorem Owes.mono {got' : Bytes} (h : Owes role args got bs) (hgot : got <+: got') : Owes role args got' bs := by
  cases h with
  | hello h => exact .hello h
  | request hf hkind hp hq h => exact .request hf hkind (hp.trans hgot) hq h

theorem Modest.receive (h : Modest role args w) (s : Socket) (bs : Bytes) : Modest role args (w.receive s bs) := by
  intro t
  by_cases ht : t = s
  · subst ht
    rw [History.received_receive]
    exact (h t).mono (List.prefix_append _ _)
  · rw [History.received_receive_of_ne _ _ ht]
    exact h t

theorem Modest.deliver (h : Modest role args w) (hs : Owes role args (w.received s) (w.sent s ++ bs)) :
    Modest role args (w.deliver s bs) := by
  intro t
  by_cases ht : t = s
  · subst ht
    rw [History.sent_deliver]
    exact hs
  · rw [History.sent_deliver_of_ne _ _ ht]
    exact h t

theorem Modest.print (h : Modest role args w) (out : Out) (text : StdString) : Modest role args (w.print out text) := by
  cases out <;> exact h

/-! ## The calls -/

/-- A line is printed and a code that is not 0 returned. -/
theorem complain_worker {text : StdString} {code : Nat} (h : Modest role args w) (hpos : code ≠ 0) (hle : code ≤ 6) :
    (puts text >>= fun _ => pure code : Tool Nat).Meets (peers (Modest role args)) (Returned role args) w :=
  call_watching h fun _ _ => ⟨h.print .stdout text, hle, fun hzero => absurd hzero hpos⟩

theorem recvFrame_worker {Q : Except StdString Frame → History → Prop} (h : Modest role args w)
    (herr : ∀ err got, Modest role args (w.receive s got) → Q (.error err) (w.receive s got))
    (hok : ∀ f : Frame, f.Valid → Modest role args (w.receive s f.encode) → Q (.ok f) (w.receive s f.encode)) :
    (recvFrame s).Meets (peers (Modest role args)) Q w := by
  refine recvFrame_watching (K := fun _ => True) trivial ?_ ?_ ?_ ?_ ?_
  · exact fun got n _ _ _ => h.receive s got
  · exact fun got n _ _ _ => herr _ got (h.receive s got)
  · exact fun _ _ _ _ _ _ => trivial
  · exact fun f hf _ => hok f hf (h.receive s f.encode)
  · exact fun got err _ _ => herr err got (h.receive s got)

/-- A frame is sent whose beginnings are all owed. -/
theorem sendFrame_worker {kind : MessageKind} {seq : UInt64} {payload : Bytes} {Q : Bool → History → Prop}
    (h : Modest role args w)
    (howes : ∀ bs, bs <+: encodeFrame kind seq payload → Owes role args (w.received s) (w.sent s ++ bs))
    (hfail : ∀ w', Modest role args w' → Q false w')
    (hsent : Modest role args (w.deliver s (encodeFrame kind seq payload)) →
      Q true (w.deliver s (encodeFrame kind seq payload))) :
    (sendFrame s kind seq payload).Meets (peers (Modest role args)) Q w := by
  have htake : ∀ k, Modest role args (w.deliver s ((encodeFrame kind seq payload).take k)) := fun k =>
    h.deliver (howes _ (List.take_prefix _ _))
  refine sendFrame_watching (K := fun _ => True) trivial ?_ ?_ ?_ ?_ ?_
  · exact fun k _ _ => htake k
  · exact fun k _ _ _ => hfail _ (htake k)
  · exact fun _ _ _ _ _ => trivial
  · exact fun _ _ => hsent (h.deliver (howes _ List.prefix_rfl))
  · exact fun _ => hfail w h

/-! ## The roles -/

/-- The worker sent its HELLO and received the answer `f`. -/
structure Welcomed (role : StdString) (args : List StdString) (s : Socket) (f : Frame) (w : History) : Prop where
  modest : Modest role args w
  connected : w.connected = [s]
  valid : f.Valid
  kind : f.kind = .helloAck
  received : w.received s = f.encode
  sent : w.sent s = ownHello role

/-- It sent the request `q`, too, and received the answer `f₂`. -/
structure Attended (role : StdString) (args : List StdString) (s : Socket) (f f₂ : Frame) (q : Bytes) (w : History) : Prop where
  modest : Modest role args w
  connected : w.connected = [s]
  valid : f₂.Valid
  received : w.received s = f.encode ++ f₂.encode
  sent : w.sent s = ownHello role ++ q

variable {f : Frame}

section

attribute [local irreducible] sendFrame recvFrame

/-- The request of the role is sent and answered. -/
theorem request_worker {kind : MessageKind} {seq : UInt64} {payload : Bytes} {text : StdString}
    {rest : Except StdString Frame → Tool Nat} (h : Welcomed role args s f w)
    (hq : OwnRequest role args (fillHelloAck {} f.payload).1.boot (encodeFrame kind seq payload))
    (herr : ∀ err w', Modest role args w' → (rest (.error err)).Meets (peers (Modest role args)) (Returned role args) w')
    (hok : ∀ f₂ w', Attended role args s f f₂ (encodeFrame kind seq payload) w' →
      (rest (.ok f₂)).Meets (peers (Modest role args)) (Returned role args) w') :
    (sendFrame s kind seq payload >>= fun ok => if !ok then (puts text >>= fun _ => pure 1) else recvFrame s >>= rest).Meets
      (peers (Modest role args)) (Returned role args) w := by
  refine Program.meets_bind.2 (sendFrame_worker h.modest ?_ ?_ ?_)
  · intro bs hbs
    rw [h.received, h.sent]
    exact .request h.valid h.kind List.prefix_rfl hq ((List.prefix_append_right_inj _).2 hbs)
  · exact fun w' hw' => complain_worker hw' (by decide) (by decide)
  · intro hw'
    refine Program.meets_bind.2 (recvFrame_worker hw' (fun err got hm => herr err _ hm) fun f₂ hf₂ hm => ?_)
    refine hok f₂ _ ⟨hm, h.connected, hf₂, ?_, ?_⟩
    · rw [History.received_receive]
      exact congrArg (· ++ f₂.encode) h.received
    · exact (History.sent_deliver w s _).trans (congrArg (· ++ encodeFrame kind seq payload) h.sent)

theorem registerRole_worker (hrole : Registering role) (h : Welcomed role args s f w) :
    (registerRole s role).Meets (peers (Modest role args)) (Returned role args) w := by
  have hother : role ≠ lit "access" := by
    rintro rfl
    exact absurd hrole (by decide)
  unfold registerRole
  refine request_worker h (.register hrole) ?_ ?_
  · exact fun err w' hw' => complain_worker hw' (by decide) (by decide)
  · intro f₂ w' h₂
    dsimp only
    split
    · exact complain_worker h₂.modest (by decide) (by decide)
    · rename_i hkind
      refine Program.meets_bind.2 (call_watching h₂.modest fun _ _ => ?_)
      split
      · exact call_watching (h₂.modest.print .stdout _) nofun
      · rename_i hhold
        refine ⟨h₂.modest.print .stdout _, ?_, fun hzero => ⟨s, h₂.connected, ?_⟩⟩
        · split <;> decide
        · have hok : (fillRegisterAck {} f₂.payload).1.ok = true := by
            by_contra hno
            rw [if_neg hno] at hzero
            cases hzero
          exact .asked h.valid h.kind h₂.valid (.register hrole) (fun _ => ⟨hhold, not_not.1 hkind, hok⟩)
            (fun ha => absurd ha hother) h₂.sent h₂.received

theorem accessRole_worker (hrole : role = lit "access") (h : Welcomed role args s f w) :
    (accessRole s role args (fillHelloAck {} f.payload).1.boot).Meets (peers (Modest role args)) (Returned role args) w := by
  have hother : ¬Registering role := by
    subst hrole
    decide
  unfold accessRole
  refine request_worker h (.access hrole) ?_ ?_
  · exact fun err w' hw' => complain_worker hw' (by decide) (by decide)
  · intro f₂ w' h₂
    dsimp only
    split
    · exact complain_worker h₂.modest (by decide) (by decide)
    · rename_i hkind
      refine Program.meets_bind.2 (call_watching h₂.modest fun _ _ => ?_)
      refine ⟨h₂.modest.print .stdout _, by decide, fun _ => ⟨s, h₂.connected, ?_⟩⟩
      exact .asked h.valid h.kind h₂.valid (.access hrole) (fun hr => absurd hr hother) (fun _ => not_not.1 hkind) h₂.sent
        h₂.received

/-! ## The process -/

theorem modest_nothing (role : StdString) (args : List StdString) : Modest role args {} :=
  fun _ => .hello List.nil_prefix

/-- Whoever answers a worker, it sends nothing but its HELLO and, once it was welcomed, its one request, and returns 0 only
where both were answered in whole. -/
theorem worker_contented (program host port role : StdString) (args : List StdString) :
    (worker (program :: host :: port :: role :: args)).Meets (peers (Modest role args)) (Returned role args) {} := by
  have hnothing := modest_nothing role args
  unfold worker
  refine Program.meets_bind.2 (call_watching hnothing fun r _ => ?_)
  cases r with
  | false => exact complain_worker hnothing (by decide) (by decide)
  | true =>
    refine Program.meets_bind.2 (call_watching hnothing fun r _ => ?_)
    cases r with
    | none => exact complain_worker hnothing (by decide) (by decide)
    | some s =>
      have hconnected : Modest role args { connected := [s] } := hnothing
      refine Program.meets_bind.2 (sendFrame_worker hconnected ?_ ?_ ?_)
      · exact fun bs hbs => .hello hbs
      · exact fun w' hw' => complain_worker hw' (by decide) (by decide)
      · intro hhello
        refine Program.meets_bind.2 (recvFrame_worker hhello ?_ ?_)
        · exact fun err got hm => complain_worker hm (by decide) (by decide)
        · intro f hf hm
          dsimp only
          split
          · exact complain_worker hm (by decide) (by decide)
          · rename_i hkind
            refine Program.meets_bind.2 (call_watching hm fun _ _ => ?_)
            have hwelcomed : ∀ text, Welcomed role args s f
                (((History.deliver { connected := [s] } s (ownHello role)).receive s f.encode).print .stdout text) :=
              fun text =>
                { modest := hm.print .stdout text, connected := rfl, valid := hf, kind := not_not.1 hkind
                  received := History.received_receive _ s _, sent := History.sent_deliver _ s _ }
            split
            · exact registerRole_worker ‹_› (hwelcomed _)
            · rename_i hno
              split
              · exact accessRole_worker ‹_› (hwelcomed _)
              · rename_i ha
                have h := hwelcomed []
                refine Program.meets_bind.2 (call_watching (hm.print .stdout _) fun _ _ => ?_)
                exact ⟨hm, by decide, fun _ => ⟨s, rfl, .idle hno ha hf h.kind h.sent h.received⟩⟩

end

end Tools

end RdmaBuffer
