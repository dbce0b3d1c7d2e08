/-
The coordinator among any peers: whatever connects, arrives and breaks, it keeps its conduct, and its exit code is what its
report says.
-/
import RdmaBuffer.Tools.Conduct

namespace RdmaBuffer

namespace Tools

open Protocol Wire

/-- Answers of any peers, where a connection is a new one. -/
def AnyPeers (w : History) : (e : SysCall) → e.Answer → Prop
  | .accept, some c => c ∉ w.accepted
  | _, _ => True

/-- Among any peers, with what has to hold at every call. -/
def peers (Safe : History → Prop) : Program.Contract SysCall.Answer History := watching (fun w _ => Safe w) AnyPeers

/-! ## Frames -/

/-- Unless it was resumed, the connection was sent `bs`, or the beginning of it before a send on it failed. -/
def Sending (w : History) (c : Socket) (bs : Bytes) : Prop :=
  ¬w.Resumed c → w.sent c <+: bs ∧ (w.sent c ≠ bs → ∃ n, (c, n) ∈ w.broken)

/-- The same connections brought the same and the same lines were printed. -/
structure Alike (w w' : History) : Prop where
  accepted : w'.accepted = w.accepted
  received : w'.received = w.received
  printed : w'.printed = w.printed

variable {w : History} {c : Socket} {i : Nat}

theorem recvFrame_peers {Q : Except StdString Frame → History → Prop} (h : Sound w) (hc : c ∈ w.accepted)
    (herr : ∀ err got, Sound (w.receive c got) → Q (.error err) (w.receive c got))
    (hok : ∀ f : Frame, f.Valid → Sound (w.receive c f.encode) → Q (.ok f) (w.receive c f.encode)) :
    (recvFrame c).Meets (peers Sound) Q w := by
  have hreceive : ∀ got, Sound (w.receive c got) := h.receive hc
  refine recvFrame_watching (K := fun _ => True) trivial ?_ ?_ ?_ ?_ ?_
  · exact fun got n _ _ _ => hreceive got
  · exact fun got n _ _ _ => herr _ got (hreceive got)
  · exact fun _ _ _ _ _ _ => trivial
  · exact fun f hf _ => hok f hf (hreceive f.encode)
  · exact fun got err _ _ => herr err got (hreceive got)

/-- Behind what was sent, unless it resumes the connection, comes the beginning of what is sent next. -/
theorem Sending.deliver {pre f bs : Bytes} (h : Sound w) (hs : Sending w c pre) (hbs : bs <+: f)
    (hresumed : ¬(w.deliver c bs).Resumed c) : w.sent c ++ bs <+: pre ++ f := by
  obtain ⟨hp, hbroken⟩ := hs fun hold => hresumed (hold.deliver bs)
  by_cases hall : w.sent c = pre
  · rw [hall]
    exact (List.prefix_append_right_inj _).2 hbs
  · obtain ⟨n, hn⟩ := hbroken hall
    have hle : n ≤ (w.sent c).length := h.broken _ hn
    -- a byte more would have resumed it
    have hnil : bs = [] := by
      by_contra hne
      have hpos := List.length_pos_iff.2 hne
      refine hresumed ⟨n, hn, ?_⟩
      rw [History.sent_deliver, List.length_append]
      omega
    rw [hnil, List.append_nil]
    exact hp.trans (List.prefix_append _ _)

theorem sendFrame_peers {kind : MessageKind} {seq : UInt64} {payload pre : Bytes} {Q : Bool → History → Prop}
    (h : Sound w) (hc : w.accepted[i]? = some c) (hs : Sending w c pre)
    (hrep : ∀ bs, bs <+: pre ++ encodeFrame kind seq payload → Replied w i bs)
    (hQ : ∀ r w', Sound w' → Sending w' c (pre ++ encodeFrame kind seq payload) → Alike w w' → Q r w') :
    (sendFrame c kind seq payload).Meets (peers Sound) Q w := by
  have htake : ∀ k, (encodeFrame kind seq payload).take k <+: encodeFrame kind seq payload := fun k => List.take_prefix _ _
  have hdeliver : ∀ bs, bs <+: encodeFrame kind seq payload → Sound (w.deliver c bs) := fun bs hbs =>
    h.deliver hc fun hresumed => hrep _ (hs.deliver h hbs hresumed)
  refine sendFrame_watching (K := fun _ => True) trivial ?_ ?_ ?_ ?_ ?_
  · exact fun k _ _ => hdeliver _ (htake k)
  · intro k _ _ _
    refine hQ _ _ ((hdeliver _ (htake k)).breakOff c) (fun hresumed => ⟨?_, fun _ => ⟨_, List.mem_cons_self⟩⟩) ⟨rfl, rfl, rfl⟩
    show (w.deliver c _).sent c <+: _
    rw [History.sent_deliver]
    exact hs.deliver h (htake k) fun hold => hresumed (History.resumed_breakOff.2 hold)
  · exact fun _ _ _ _ _ => trivial
  · intro _ _
    refine hQ _ _ (hdeliver _ List.prefix_rfl) (fun hresumed => ?_) ⟨rfl, rfl, rfl⟩
    obtain ⟨-, hbroken⟩ := hs fun hold => hresumed (hold.deliver _)
    rw [History.sent_deliver]
    refine ⟨hs.deliver h List.prefix_rfl hresumed, fun hne => hbroken fun hall => hne ?_⟩
    rw [hall]
  · intro hnil
    rw [hnil, List.append_nil] at hQ
    exact hQ _ _ h hs ⟨rfl, rfl, rfl⟩

/-! ## The report -/

def passed (text : StdString) : Bool := (lit "PROOF-PASS ").isPrefixOf text

def failed (text : StdString) : Bool := (lit "PROOF-FAIL ").isPrefixOf text

def passes (w : History) : Nat := w.printed.countP passed

def failures (w : History) : Nat := w.printed.countP failed

/-- A text begins with one of two beginnings of the same length. -/
theorem isPrefixOf_append {p q x : StdString} (h : p.length = q.length) : p.isPrefixOf (q ++ x) = decide (p = q) := by
  rw [Bool.eq_iff_iff, List.isPrefixOf_iff_prefix, decide_eq_true_iff]
  constructor
  · intro hp
    exact (List.prefix_of_prefix_length_le hp (List.prefix_append q x) h.le).eq_of_length h
  · rintro rfl
    exact List.prefix_append p x

theorem passed_proofText (ok : Bool) (line : StdString) : passed (proofText ok line) = ok := by
  unfold passed proofText
  rw [List.append_assoc]
  cases ok with
  | true => exact (isPrefixOf_append rfl).trans (by decide)
  | false => exact (isPrefixOf_append (by decide)).trans (by decide)

theorem failed_proofText (ok : Bool) (line : StdString) : failed (proofText ok line) = !ok := by
  unfold failed proofText
  rw [List.append_assoc]
  cases ok with
  | true => exact (isPrefixOf_append (by decide)).trans (by decide)
  | false => exact (isPrefixOf_append rfl).trans (by decide)

/-- Lines of the report begin with a `P`. -/
theorem plain_not_proof {text : StdString} (h : text.head? ≠ some 80) : passed text = false ∧ failed text = false := by
  have hno : ∀ p : StdString, p.head? = some 80 → p.isPrefixOf text = false := by
    intro p hp
    rw [Bool.eq_false_iff]
    intro hpre
    obtain ⟨x, rfl⟩ := List.isPrefixOf_iff_prefix.1 hpre
    rw [List.head?_append, hp] at h
    exact h rfl
  exact ⟨hno _ (by decide), hno _ (by decide)⟩

theorem plain_append {p x : StdString} {b : UInt8} (hp : p.head? = some b) (hb : b ≠ 80) :
    (p ++ x).head? ≠ some 80 := by
  rw [List.head?_append, hp]
  exact fun h => hb (Option.some.inj h)

/-- The conduct after `i` connections and `n` lines of the report, which the tally counts. -/
structure Reported (w : History) (i n : Nat) (t : Tally) : Prop where
  sound : Sound w
  served : w.accepted.length = i
  passes : passes w = t.success
  failures : failures w = t.failure
  lines : t.success + t.failure = n

variable {n : Nat} {t : Tally} {w' : History}

theorem Reported.of_eq (h : Reported w i n t) (hs : Sound w') (ha : w'.accepted = w.accepted)
    (hp : w'.printed = w.printed) : Reported w' i n t where
  sound := hs
  served := by rw [ha, h.served]
  passes := by rw [Tools.passes, hp, ← h.passes, Tools.passes]
  failures := by rw [Tools.failures, hp, ← h.failures, Tools.failures]
  lines := h.lines

theorem Reported.print_plain (h : Reported w i n t) {text : StdString} (hp : text.head? ≠ some 80) :
    Reported (w.print .stdout text) i n t where
  sound := h.sound.print (.plain hp) .stdout
  served := h.served
  passes := by
    have hcount : Tools.passes (w.print .stdout text) = Tools.passes w + List.countP passed [text] := List.countP_append
    rw [hcount, List.countP_singleton, (plain_not_proof hp).1, h.passes]
    rfl
  failures := by
    have hcount : Tools.failures (w.print .stdout text) = Tools.failures w + List.countP failed [text] :=
      List.countP_append
    rw [hcount, List.countP_singleton, (plain_not_proof hp).2, h.failures]
    rfl
  lines := h.lines

theorem Reported.print_proof (h : Reported w i n t) {ok : Bool} {line : StdString}
    (ht : Witnessed w (proofText ok line)) : Reported (w.print .stdout (proofText ok line)) i (n + 1) (t.count ok) where
  sound := h.sound.print ht .stdout
  served := h.served
  passes := by
    have hcount : Tools.passes (w.print .stdout (proofText ok line)) =
      Tools.passes w + List.countP passed [proofText ok line] := List.countP_append
    rw [hcount, List.countP_singleton, passed_proofText, h.passes]
    cases ok <;> rfl
  failures := by
    have hcount : Tools.failures (w.print .stdout (proofText ok line)) =
      Tools.failures w + List.countP failed [proofText ok line] := List.countP_append
    rw [hcount, List.countP_singleton, failed_proofText, h.failures]
    cases ok <;> rfl
  lines := by
    have h := h.lines
    cases ok <;> simp only [Tally.count, if_true, Bool.false_eq_true, if_false] <;> omega

/-- A plain line, after which nothing of the report changed. -/
theorem puts_peers {text : StdString} {Q : Unit → History → Prop} (h : Reported w i n t) (hp : text.head? ≠ some 80)
    (hQ : Reported (w.print .stdout text) i n t → Q () (w.print .stdout text)) :
    (puts text).Meets (peers Sound) Q w :=
  perform_watching h.sound fun _ _ => hQ (h.print_plain hp)

/-- One line of the report. -/
theorem proof_peers {log ok : Bool} {line : StdString} {Q : Tally → History → Prop} (h : Reported w i n t)
    (ht : Witnessed w (proofText ok line))
    (hQ : ∀ w', Reported w' i (n + 1) (t.count ok) → w'.accepted = w.accepted → w'.received = w.received →
      Q (t.count ok) w') :
    (proof log t ok line).Meets (peers Sound) Q w := by
  have hprinted := h.print_proof ht
  unfold proof report puts fputs
  refine call_watching h.sound fun _ _ => ?_
  cases log with
  | false => exact hQ _ hprinted rfl rfl
  | true =>
    refine call_watching hprinted.sound fun _ _ => ?_
    exact hQ _ (hprinted.of_eq (hprinted.sound.of_eq rfl rfl rfl rfl rfl) rfl rfl) rfl rfl

/-! ## A connection -/

theorem Older.trans {w₁ w₂ w₃ : History} (h : Older w₁ w₂) (h' : Older w₂ w₃) : Older w₁ w₃ :=
  ⟨fun i c hc => h'.accepted i c (h.accepted i c hc), fun c => (h.received c).trans (h'.received c)⟩

/-- The next connection is heard, answered and asks, or what is missing is printed. -/
theorem acceptWorker_peers {noConnection : StdString} {noHello noRequest : StdString → StdString} {seq boot epoch : UInt64}
    {kind : MessageKind} {Q : Option (Socket × Bytes) → History → Prop} (h : Reported w i n t)
    (hack : encodeFrame .helloAck seq (encodeHelloAck boot epoch 1) = helloAck i)
    (hconnection : noConnection.head? ≠ some 80) (hhello : ∀ err, (noHello err).head? ≠ some 80)
    (hrequest : ∀ err, (noRequest err).head? ≠ some 80) (hnone : ∀ w' j, Reported w' j n t → Q none w')
    (hsome : ∀ c payload w', Reported w' (i + 1) n t → w'.accepted[i]? = some c → Sending w' c (helloAck i) →
      Asked w' i kind payload → Older w w' → Q (some (c, payload)) w') :
    (acceptWorker noConnection noHello noRequest seq boot epoch kind).Meets (peers Sound) Q w := by
  have complain : ∀ {w' : History} {j : Nat} {text : StdString}, Reported w' j n t → text.head? ≠ some 80 →
      (puts text >>= fun _ => pure none : Tool (Option (Socket × Bytes))).Meets (peers Sound) Q w' := by
    intro w' j text hw' hp
    rw [Program.meets_bind]
    exact puts_peers hw' hp fun hr => hnone _ j hr
  unfold acceptWorker
  rw [Program.perform_bind]
  refine call_watching h.sound fun r hr => ?_
  cases r with
  | none => exact complain h hconnection
  | some c =>
    have hnew : c ∉ w.accepted := hr
    obtain ⟨hreceived, hsent⟩ := h.sound.fresh c hnew
    have hat : (w.accept c).accepted[i]? = some c := by
      rw [← h.served]
      exact List.getElem?_concat_length
    have hmem : c ∈ (w.accept c).accepted := List.mem_of_getElem? hat
    have h₁ : Reported (w.accept c) (i + 1) n t :=
      { sound := h.sound.accept hnew, passes := h.passes, failures := h.failures, lines := h.lines
        served := by rw [← h.served]; exact List.length_append }
    refine Program.meets_bind.2 (recvFrame_peers h₁.sound hmem ?_ ?_)
    · exact fun err got hs => complain (h₁.of_eq hs rfl rfl) (hhello err)
    · intro f₀ hf₀ hs
      have hreceived₁ : ((w.accept c).receive c f₀.encode).received c = f₀.encode :=
        (History.received_receive _ _ _).trans (congrArg (· ++ f₀.encode) hreceived)
      have hheard : Heard ((w.accept c).receive c f₀.encode) i :=
        ⟨c, f₀, hat, hf₀, [], (List.append_nil _).trans hreceived₁.symm⟩
      have hsending : Sending ((w.accept c).receive c f₀.encode) c [] :=
        fun _ => ⟨hsent ▸ List.prefix_refl _, fun hne => absurd hsent hne⟩
      refine Program.meets_bind.2 (sendFrame_peers hs hat hsending ?_ ?_)
      · intro bs hbs
        rw [List.nil_append, hack] at hbs
        exact .hello hheard hbs
      · intro _ w₂ hs₂ hsending ha
        rw [List.nil_append, hack] at hsending
        have hat₂ : w₂.accepted[i]? = some c := ha.accepted ▸ hat
        have hreceived₂ : w₂.received c = f₀.encode := (congrFun ha.received c).trans hreceived₁
        have h₂ : Reported w₂ (i + 1) n t := h₁.of_eq hs₂ ha.accepted ha.printed
        refine Program.meets_bind.2 (recvFrame_peers hs₂ (List.mem_of_getElem? hat₂) ?_ ?_)
        · exact fun err got hs => complain (h₂.of_eq hs rfl rfl) (hrequest err)
        · intro f hf hs₃
          have h₃ : Reported (w₂.receive c f.encode) (i + 1) n t := h₂.of_eq hs₃ rfl rfl
          dsimp only
          split
          · exact complain h₃ (hrequest [])
          · rename_i hkind
            have hkind : f.kind = kind := not_not.1 hkind
            refine hsome c f.payload _ h₃ hat₂ hsending ?_ ?_
            · refine ⟨c, f₀, f, hat₂, hf₀, hf, ⟨[], (List.append_nil _).trans ?_⟩, hkind, rfl⟩
              rw [History.received_receive, hreceived₂]
            · exact (((Older.accept w c).trans (.receive _ c f₀.encode)).trans
                (.of_eq ha.accepted ha.received)).trans (.receive w₂ c f.encode)

/-! ## The stages -/

section

-- what the runtime decides is only named here
attribute [local irreducible] Served.registerA Served.accessB Served.loseA Served.registerFresh rtDom

/-- The connection is closed and the stage returns. -/
theorem close_peers {α : Type} {a : α} {Q : α → History → Prop} (h : Reported w i n t)
    (hQ : Reported (w.close c) i n t → Q a (w.close c)) :
    (Program.perform (SysCall.closesocket c) >>= fun _ => pure a : Tool α).Meets (peers Sound) Q w := by
  rw [Program.perform_bind]
  exact call_watching h.sound fun _ _ => hQ (h.of_eq (h.sound.of_eq rfl rfl rfl rfl rfl) rfl rfl)

theorem registerA_peers {log : Bool} {Q : Option (Served × Tally) → History → Prop} (h : Reported w 0 0 {})
    (hnone : ∀ w' j, Reported w' j 0 {} → Q none w')
    (hsome : ∀ a t w', Reported w' 1 1 t → Asked w' 0 .registerBuffer a → Q (some (afterA a, t)) w') :
    (registerA log {} {}).Meets (peers Sound) Q w := by
  unfold registerA
  refine Program.meets_bind.2 (acceptWorker_peers h rfl (by decide) (fun err => ?_) (fun err => ?_) hnone ?_)
  · rw [List.append_assoc]
    exact plain_append (b := 99) (by decide) (by decide)
  · rw [List.append_assoc]
    exact plain_append (b := 99) (by decide) (by decide)
  · intro c a w₁ h₁ hat hsending ha _
    refine Program.meets_bind.2 (sendFrame_peers h₁.sound hat hsending (fun bs hbs => .registered ha hbs) ?_)
    intro _ w₂ hs₂ _ hsame
    have ha₂ : Asked w₂ 0 .registerBuffer a := ha.mono (.of_eq hsame.accepted hsame.received)
    have h₂ : Reported w₂ 1 0 {} := h₁.of_eq hs₂ hsame.accepted hsame.printed
    refine Program.meets_bind.2 (proof_peers h₂ (.registered ha₂) fun w₃ h₃ hacc hrec => ?_)
    exact close_peers h₃ fun h₄ => hsome a _ _ h₄ (ha₂.mono (.of_eq hacc hrec))

theorem accessB_peers {log : Bool} {a : Bytes} {Q : Option (Served × Tally) → History → Prop} (h : Reported w 1 1 t)
    (ha : Asked w 0 .registerBuffer a) (hnone : ∀ w' j, Reported w' j 1 t → Q none w')
    (hsome : ∀ b t w', Reported w' 2 3 t → Asked w' 0 .registerBuffer a → Asked w' 1 .requestAccess b →
      Q (some (afterB a b, t)) w') :
    (accessB log (afterA a) t).Meets (peers Sound) Q w := by
  have hack : encodeFrame .helloAck 3 (encodeHelloAck (afterA a).nextBoot snap.coordinatorEpoch.value 1) = helloAck 1 := by
    rw [afterA_nextBoot]
    rfl
  unfold accessB
  refine Program.meets_bind.2 (acceptWorker_peers h hack (by decide) (fun err => ?_) (fun err => ?_) hnone ?_)
  · decide
  · rw [List.append_assoc]
    exact plain_append (b := 99) (by decide) (by decide)
  · intro c b w₁ h₁ hat hsending hb hold
    have ha₁ := ha.mono hold
    refine Program.meets_bind.2 (sendFrame_peers h₁.sound hat hsending (fun bs hbs => .accessed ha₁ hb hbs) ?_)
    intro _ w₂ hs₂ _ hsame
    have hold₂ : Older w₁ w₂ := .of_eq hsame.accepted hsame.received
    have h₂ : Reported w₂ 2 1 t := h₁.of_eq hs₂ hsame.accepted hsame.printed
    refine Program.meets_bind.2 (proof_peers h₂ (.accessed (ha₁.mono hold₂) (hb.mono hold₂)) fun w₃ h₃ hacc hrec => ?_)
    have hold₃ : Older w₁ w₃ := hold₂.trans (.of_eq hacc hrec)
    have hstale := Served.staleBoot_refused (s := (afterA a).bump) (afterA_authority a) b
    have hline : (((afterA a).bump.accessB b).2.2.outcome == .rejectStaleBoot ||
        ((afterA a).bump.accessB b).2.2.outcome != .allow) = true := by
      rw [Bool.or_eq_true, bne_iff_ne]
      exact .inr hstale
    refine Program.meets_bind.2 (proof_peers h₃ (hline ▸ .staleBoot hstale) fun w₄ h₄ hacc hrec => ?_)
    have hold₄ : Older w₁ w₄ := hold₃.trans (.of_eq hacc hrec)
    have hold₅ : Older w₁ (w₄.close c) := hold₄.trans (.of_eq rfl rfl)
    exact close_peers h₄ fun h₅ => hsome b _ _ h₅ (ha₁.mono hold₅) (hb.mono hold₅)

theorem loseA_peers {log : Bool} {workerA : Option Handle} {s : Served} {Q : Served × Tally → History → Prop}
    (h : Reported w 2 3 t) (hs : s.rt.authority = snap)
    (hQ : ∀ t w', Reported w' 2 7 t → Older w w' → Q (s.loseA.1, t) w') :
    (loseA log workerA s t).Meets (peers Sound) Q w := by
  have hrest : ∀ {w₁ : History}, Reported w₁ 2 3 t → Older w w₁ →
      (do
        let t ← proof log t true lineKilled
        let t ← proof log t true lineRestart
        let t ← proof log t (s.loseA.2.outcome != .allow) (lineOldAuthority s.loseA.2.outcome)
        let t ← proof log t true lineRevoked
        pure (s.loseA.1, t) : Tool (Served × Tally)).Meets (peers Sound) Q w₁ := by
    intro w₁ h₁ hold₁
    have hold := Served.oldAuthority_refused hs
    have hline : (s.loseA.2.outcome != .allow) = true := bne_iff_ne.2 hold
    refine Program.meets_bind.2 (proof_peers h₁ .killed fun w₂ h₂ hacc₂ hrec₂ => ?_)
    refine Program.meets_bind.2 (proof_peers h₂ .restart fun w₃ h₃ hacc₃ hrec₃ => ?_)
    refine Program.meets_bind.2 (proof_peers h₃ (hline ▸ .oldAuthority hold) fun w₄ h₄ hacc₄ hrec₄ => ?_)
    refine Program.meets_bind.2 (proof_peers h₄ .revoked fun w₅ h₅ hacc₅ hrec₅ => ?_)
    exact hQ _ _ h₅ ((((hold₁.trans (.of_eq hacc₂ hrec₂)).trans (.of_eq hacc₃ hrec₃)).trans (.of_eq hacc₄ hrec₄)).trans
      (.of_eq hacc₅ hrec₅))
  unfold loseA
  cases workerA with
  | none => exact hrest h (.of_eq rfl rfl)
  | some handle =>
    refine call_watching h.sound fun _ _ => ?_
    exact hrest (h.of_eq (h.sound.of_eq rfl rfl rfl rfl rfl) rfl rfl) (.of_eq rfl rfl)

theorem registerFresh_peers {log : Bool} {a b : Bytes} {Q : Option (Served × Tally) → History → Prop}
    (h : Reported w 2 7 t) (ha : Asked w 0 .registerBuffer a) (hb : Asked w 1 .requestAccess b)
    (hnone : ∀ w' j, Reported w' j 7 t → Q none w') (hsome : ∀ s t w', Reported w' 3 8 t → Q (some (s, t)) w') :
    (registerFresh log (afterLoss a b) t).Meets (peers Sound) Q w := by
  have hack : encodeFrame .helloAck 5
      (encodeHelloAck (afterLoss a b).nextBoot (afterLoss a b).fresh.coordinatorEpoch.value 1) = helloAck 2 := by
    rw [afterLoss_nextBoot, afterLoss_epoch]
    rfl
  unfold registerFresh
  refine Program.meets_bind.2 (acceptWorker_peers h hack (by decide) (fun _ => by decide) (fun _ => by decide) hnone ?_)
  intro c f w₁ h₁ hat hsending hf hold
  have ha₁ := ha.mono hold
  have hb₁ := hb.mono hold
  refine Program.meets_bind.2 (sendFrame_peers h₁.sound hat hsending (fun bs hbs => .fresh ha₁ hb₁ hf hbs) ?_)
  intro _ w₂ hs₂ _ hsame
  have hold₂ : Older w₁ w₂ := .of_eq hsame.accepted hsame.received
  have h₂ : Reported w₂ 3 7 t := h₁.of_eq hs₂ hsame.accepted hsame.printed
  have hline : Witnessed w₂ (proofText (resultFresh a b f).ok (lineFresh (afterLoss a b).nextBoot)) := by
    rw [afterLoss_nextBoot]
    exact .fresh (ha₁.mono hold₂) (hb₁.mono hold₂) (hf.mono hold₂)
  refine Program.meets_bind.2 (proof_peers h₂ hline fun w₃ h₃ _ _ => ?_)
  exact close_peers h₃ fun h₄ => hsome _ _ _ h₄

/-! ## The process -/

/-- What the exit code says: 0 after a report of eight lines that passed, 1 after any other. -/
inductive Verdict (w : History) : Nat → Prop
  | good (hp : passes w = 8) (hf : failures w = 0) (hs : w.printed.getLast? = some (summary ⟨8, 0⟩)) : Verdict w 0
  | bad (h : ¬(passes w = 8 ∧ failures w = 0)) : Verdict w 1

theorem Verdict.early (h : Reported w i n t) (hn : n < 8) : Verdict w 1 :=
  .bad fun hp => by
    have hlines := h.lines
    have hpasses := h.passes
    omega

/-- A process that is spawned or not changes nothing of the report. -/
theorem spawnWorker_peers {args : Args} {role : StdString} {extra : List StdString} {Q : Option Handle → History → Prop}
    (h : Reported w i n t) (hQ : ∀ r w', Reported w' i n t → Older w w' → Q r w') :
    (spawnWorker args role extra).Meets (peers Sound) Q w := by
  unfold spawnWorker
  rw [Program.perform_bind]
  refine call_watching h.sound fun r _ => ?_
  cases r with
  | ok handle => exact hQ _ _ (h.of_eq (h.sound.of_eq rfl rfl rfl rfl rfl) rfl rfl) (.of_eq rfl rfl)
  | error e =>
    refine Program.meets_bind.2 (puts_peers h ?_ fun h₁ => hQ _ _ h₁ (.of_eq rfl rfl))
    rw [List.append_assoc]
    exact plain_append (b := 99) (by decide) (by decide)

theorem scenarioWorker_peers {args : Args} {role : StdString} {extra : List StdString}
    {Q : Option Handle → History → Prop} (h : Reported w i n t)
    (hQ : ∀ r w', Reported w' i n t → Older w w' → Q r w') :
    (scenarioWorker args role extra).Meets (peers Sound) Q w := by
  unfold scenarioWorker
  split
  · exact spawnWorker_peers h hQ
  · exact hQ none w h (.of_eq rfl rfl)

theorem summary_peers {log : Bool} {Q : Unit → History → Prop} (h : Reported w i n t)
    (hQ : ∀ w', Reported w' i n t → w'.printed.getLast? = some (summary t) → Q () w') :
    (report log (summary t)).Meets (peers Sound) Q w := by
  have hplain : (summary t).head? ≠ some 80 := by
    unfold summary
    rw [List.append_assoc, List.append_assoc, List.append_assoc]
    exact plain_append (b := 83) (by decide) (by decide)
  have h₁ := h.print_plain hplain
  have hlast : (w.print .stdout (summary t)).printed.getLast? = some (summary t) := List.getLast?_concat
  unfold report puts fputs
  refine call_watching h.sound fun _ _ => ?_
  cases log with
  | false => exact hQ _ h₁ hlast
  | true =>
    refine call_watching h₁.sound fun _ _ => ?_
    exact hQ _ (h₁.of_eq (h₁.sound.of_eq rfl rfl rfl rfl rfl) rfl rfl) hlast

theorem serve_peers {args : Args} {log : Bool} (h : Reported w 0 0 {}) :
    (serve args log).Meets (peers Sound) (fun code w' => Sound w' ∧ Verdict w' code) w := by
  have stop : ∀ {w' : History} {j n : Nat} {t : Tally}, n < 8 → Reported w' j n t →
      (pure 1 : Tool Nat).Meets (peers Sound) (fun code w' => Sound w' ∧ Verdict w' code) w' :=
    fun hn h => ⟨h.sound, .early h hn⟩
  unfold serve
  refine Program.meets_bind.2 (puts_peers h ?_ fun h₁ => ?_)
  · rw [List.append_assoc, List.append_assoc, List.append_assoc]
    exact plain_append (b := 67) (by decide) (by decide)
  refine Program.meets_bind.2 (scenarioWorker_peers h₁ fun workerA w₂ h₂ _ => ?_)
  refine Program.meets_bind.2 (registerA_peers h₂ (fun w' j hr => stop (by decide) hr) fun a t w₃ h₃ ha₃ => ?_)
  refine Program.meets_bind.2 (scenarioWorker_peers h₃ fun _ w₄ h₄ hold₄ => ?_)
  refine Program.meets_bind.2 (accessB_peers h₄ (ha₃.mono hold₄) (fun w' j hr => stop (by decide) hr) ?_)
  intro b t w₅ h₅ ha₅ hb₅
  refine Program.meets_bind.2 (loseA_peers h₅ (afterB_authority a b) fun t w₆ h₆ hold₆ => ?_)
  refine Program.meets_bind.2 (scenarioWorker_peers h₆ fun _ w₇ h₇ hold₇ => ?_)
  have hold := hold₆.trans hold₇
  refine Program.meets_bind.2 (registerFresh_peers h₇ (ha₅.mono hold) (hb₅.mono hold)
    (fun w' j hr => stop (by decide) hr) fun s t w₈ h₈ => ?_)
  refine Program.meets_bind.2 (summary_peers h₈ fun w₉ h₉ hlast => ?_)
  refine Program.meets_pure.2 ⟨h₉.sound, ?_⟩
  have hlines := h₉.lines
  have hpasses := h₉.passes
  have hfailures := h₉.failures
  split
  · rename_i hzero
    have hsuccess : t.success = 8 := by omega
    have ht : t = ⟨8, 0⟩ := by
      cases t
      simp_all
    exact .good (by omega) (by omega) (ht ▸ hlast)
  · rename_i hsome
    exact .bad (by omega)

theorem coordinator_peers (args : Args) :
    (coordinator args).Meets (peers Sound) (fun code w => Sound w ∧ Verdict w code) {} := by
  have h₀ : Reported {} 0 0 {} :=
    { sound := ⟨fun _ _ => ⟨rfl, rfl⟩, List.nodup_nil, fun _ h => absurd h List.not_mem_nil,
        fun _ h => absurd h List.not_mem_nil, nofun⟩
      served := rfl, passes := rfl, failures := rfl, lines := rfl }
  have complain : ∀ {w : History} {text : StdString}, Reported w 0 0 {} → text.head? ≠ some 80 →
      (puts text >>= fun _ => pure 1 : Tool Nat).Meets (peers Sound) (fun code w' => Sound w' ∧ Verdict w' code) w := by
    intro w text h hp
    refine Program.meets_bind.2 (puts_peers h hp fun h₁ => ?_)
    exact ⟨h₁.sound, .early h₁ (by decide)⟩
  have listen : ∀ {w : History} {log : Bool}, Reported w 0 0 {} →
      (do
        if !(← Program.perform SysCall.socket) then
          puts (lit "coordinator: socket failed\n")
          pure 1
        else if !(← Program.perform (SysCall.listen args.port)) then
          puts (lit "coordinator: bind/listen failed\n")
          pure 1
        else serve args log : Tool Nat).Meets (peers Sound) (fun code w' => Sound w' ∧ Verdict w' code) w := by
    intro w log h
    refine call_watching h.sound fun r _ => ?_
    cases r with
    | false => exact complain h (by decide)
    | true =>
      refine call_watching h.sound fun r _ => ?_
      cases r with
      | false => exact complain h (by decide)
      | true => exact serve_peers (h.of_eq (h.sound.of_eq rfl rfl rfl rfl rfl) rfl rfl)
  unfold coordinator
  refine Program.meets_bind.2 ?_
  unfold openProof
  split
  · exact listen h₀
  · exact perform_watching h₀.sound fun _ _ => listen h₀

end

end Tools

end RdmaBuffer
