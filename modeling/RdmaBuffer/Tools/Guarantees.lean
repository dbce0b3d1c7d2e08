/-
What the coordinator guarantees among any peers: its exit code is what its report says, its fences never fail, an ALLOW was
earned, and every connection is sent only what it is owed.
-/
import RdmaBuffer.Tools.Peers

namespace RdmaBuffer

namespace Tools

open Protocol Wire Codec

variable {w : History}

/-- What follows from the conduct holds at every call of the coordinator and at its end. -/
theorem coordinator_safe {Safe : History → Prop} (h : ∀ w, Sound w → Safe w) (args : Args) :
    (coordinator args).Meets (peers Safe) (fun _ w => Safe w) {} :=
  Program.Meets.mono (Program.Meets.weaken (coordinator_peers args) (fun w _ hs => h w hs) fun _ _ _ _ hr => hr)
    fun _ w hs => h w hs.1

/-! ## The exit code -/

/-- The coordinator returns 0 exactly after a report of eight lines that passed and none that failed, and else 1. -/
theorem coordinator_verdict (args : Args) :
    (coordinator args).Meets (peers fun _ => True)
      (fun code w => code ≤ 1 ∧ (code = 0 ↔ passes w = 8 ∧ failures w = 0) ∧
        (code = 0 → w.printed.getLast? = some (summary ⟨8, 0⟩))) {} := by
  refine Program.Meets.mono (Program.Meets.weaken (coordinator_peers args) (fun _ _ _ => trivial) fun _ _ _ _ hr => hr) ?_
  rintro code w ⟨-, hv⟩
  cases hv with
  | good hp hf hs => exact ⟨by decide, ⟨fun _ => ⟨hp, hf⟩, fun _ => rfl⟩, fun _ => hs⟩
  | bad hno => exact ⟨Nat.le_refl 1, ⟨(by cases ·), fun hp => absurd hp hno⟩, (by cases ·)⟩

/-! ## The fences -/

/-- No line of a fence failed: the lines that can are those of the registrations and of the access. -/
def FencesHold (w : History) : Prop :=
  ∀ text ∈ w.printed, failed text = true →
    text = proofText false lineA ∨ text = proofText false lineB ∨ text = proofText false (lineFresh 3)

theorem Witnessed.fenced {text : StdString} (h : Witnessed w text) (hf : failed text = true) :
    text = proofText false lineA ∨ text = proofText false lineB ∨ text = proofText false (lineFresh 3) := by
  have failing : ∀ {ok : Bool} {line : StdString}, failed (proofText ok line) = true → ok = false := by
    intro ok line h
    rw [failed_proofText] at h
    simpa using h
  cases h with
  | plain h =>
    rw [(plain_not_proof h).2] at hf
    cases hf
  | registered ha =>
    rw [failing hf]
    exact .inl rfl
  | accessed ha hb =>
    rw [failing hf]
    exact .inr (.inl rfl)
  | fresh ha hb hf' =>
    rw [failing hf]
    exact .inr (.inr rfl)
  | staleBoot | killed | restart | oldAuthority | revoked => cases failing hf

/-- Whatever the peers do, the coordinator never reports that a stale boot or a stale authority was allowed. -/
theorem fences_hold (args : Args) : (coordinator args).Meets (peers FencesHold) (fun _ w => FencesHold w) {} :=
  coordinator_safe (fun _ hs text ht hf => (hs.witnessed text ht).fenced hf) args

/-! ## Allowed accesses -/

/-- An ALLOW was reported, or sent in whole on the second connection, where no send succeeded after one that failed. -/
def Allowing (w : History) : Prop :=
  proofText true lineB ∈ w.printed ∨
    ∃ (c : Socket) (f : Frame) (msg : StdString), w.accepted[1]? = some c ∧ ¬w.Resumed c ∧ f.Valid ∧
      helloAck 1 ++ f.encode <+: w.sent c ∧ f.kind = .requestAccessAck ∧ f.payload = encodeAccessAck 0 msg

/-- An ALLOW stands on a registration frame of the first connection and an access frame of the second that earn it. -/
def AllowEarned (w : History) : Prop :=
  Allowing w → ∃ a b, Asked w 0 .registerBuffer a ∧ Asked w 1 .requestAccess b ∧ Earned a b

/-- Outcomes are told apart by their bytes. -/
theorem outcome_allow {o : AccessOutcome} (h : UInt8.ofNat o.ctorIdx = 0) : o = .allow := by
  cases o <;> first | rfl | cases h

/-- Behind the HELLO_ACK nothing is sent to worker B but the answer to its request. -/
theorem Replied.answered {bs : Bytes} {f : Frame} (h : Replied w 1 bs) (hf : f.Valid) (hp : helloAck 1 ++ f.encode <+: bs) :
    ∃ a b, Asked w 0 .registerBuffer a ∧ Asked w 1 .requestAccess b ∧ f.encode <+: ackB a b := by
  have hne := hf.encode_ne_nil
  generalize hi : 1 = i at h
  cases h with
  | nothing => exact absurd (List.append_eq_nil_iff.1 (List.prefix_nil.1 hp)).2 hne
  | hello _ hbs =>
    subst hi
    have hlen := (hp.trans hbs).length_le
    rw [List.length_append] at hlen
    exact absurd (List.length_eq_zero_iff.1 (by omega)) hne
  | registered => cases hi
  | accessed ha hb hbs => exact ⟨_, _, ha, hb, (List.prefix_append_right_inj _).1 (hp.trans hbs)⟩
  | fresh => cases hi

theorem proofText_inj {ok ok' : Bool} {line line' : StdString} (h : proofText ok line = proofText ok' line') :
    ok = ok' ∧ line = line' := by
  have hok := congrArg passed h
  rw [passed_proofText, passed_proofText] at hok
  subst hok
  exact ⟨rfl, List.append_cancel_left (List.append_cancel_right h)⟩

/-- The line of an allowed access stands on the decision. -/
theorem Witnessed.allowed (h : Witnessed w (proofText true lineB)) :
    ∃ a b, Asked w 0 .registerBuffer a ∧ Asked w 1 .requestAccess b ∧ (decisionB a b).outcome = .allow := by
  have other : ∀ {ok : Bool} {line : StdString}, proofText true lineB = proofText ok line → lineB ≠ line → False :=
    fun he hne => hne (proofText_inj he).2
  generalize htext : proofText true lineB = text at h
  cases h with
  | plain h =>
    have hpassed := (plain_not_proof h).1
    rw [← htext, passed_proofText] at hpassed
    cases hpassed
  | accessed ha hb => exact ⟨_, _, ha, hb, eq_of_beq (proofText_inj htext).1.symm⟩
  | registered => exact (other htext (by decide)).elim
  | staleBoot => exact (other htext fun h => by cases congrArg List.head? h).elim
  | killed => exact (other htext (by decide)).elim
  | restart => exact (other htext (by decide)).elim
  | oldAuthority => exact (other htext fun h => by cases congrArg List.head? h).elim
  | revoked => exact (other htext (by decide)).elim
  | fresh => exact (other htext (by decide)).elim

theorem decisionB_allow_iff (a b : Bytes) : (decisionB a b).outcome = .allow ↔ Earned a b := by
  rw [decisionB, Served.bump_accessB, afterA, accessB_allow_iff]

/-- A whole frame with an ALLOW in front of the answer to an access is that answer. -/
theorem accessAck_allow {d : AccessDecision} {f : Frame} {msg : StdString} (hf : f.Valid)
    (hp : f.encode <+: encodeFrame .requestAccessAck 4 (encodeAccessAck (UInt8.ofNat d.outcome.ctorIdx) d.explanation))
    (hpayload : f.payload = encodeAccessAck 0 msg) : d.outcome = .allow := by
  let g : Frame := ⟨.requestAccessAck, 4, encodeAccessAck (UInt8.ofNat d.outcome.ctorIdx) d.explanation⟩
  by_cases hlen : g.payload.length > maxPayload
  · rw [encodeFrame, if_pos hlen] at hp
    exact absurd (List.prefix_nil.1 hp) (hf.encode_ne_nil)
  · have hg : g.Valid := ⟨(by cases ·), (by cases ·), Nat.not_lt.1 hlen⟩
    have hfg : f = g := hf.eq_of_prefix hg hp
    rw [hfg] at hpayload
    exact outcome_allow (Option.some.inj (congrArg List.head? hpayload))

theorem Sound.allowEarned (h : Sound w) : AllowEarned w := by
  rintro (hline | ⟨c, f, msg, hc, hresumed, hf, hsent, hkind, hpayload⟩)
  · obtain ⟨a, b, ha, hb, hallow⟩ := (h.witnessed _ hline).allowed
    exact ⟨a, b, ha, hb, (decisionB_allow_iff a b).1 hallow⟩
  · obtain ⟨a, b, ha, hb, hp⟩ := (h.replied 1 c hc hresumed).answered hf hsent
    rw [ackB] at hp
    exact ⟨a, b, ha, hb, (decisionB_allow_iff a b).1 (accessAck_allow hf hp hpayload)⟩

/-- Whatever the peers do, worker B is allowed its access only where the access was earned. -/
theorem allow_earned (args : Args) : (coordinator args).Meets (peers AllowEarned) (fun _ w => AllowEarned w) {} :=
  coordinator_safe (fun _ hs => hs.allowEarned) args

/-! ## Replies -/

end Tools

end RdmaBuffer
