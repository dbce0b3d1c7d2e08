/-
The conduct of the coordinator towards any peers: what it prints is what its runtime decided on what it was asked, and what
it sends is the beginning of what it owes for that.
-/
import RdmaBuffer.Tools.Fences
import RdmaBuffer.Tools.History

namespace RdmaBuffer

namespace Tools

open Protocol Wire

/-! ## What was asked -/

/-- The `i`-th connection brought a frame. -/
def Heard (w : History) (i : Nat) : Prop :=
  ∃ (c : Socket) (f : Frame), w.accepted[i]? = some c ∧ f.Valid ∧ f.encode <+: w.received c

/-- Behind its first frame the `i`-th connection brought one of the kind with the payload. -/
def Asked (w : History) (i : Nat) (kind : MessageKind) (payload : Bytes) : Prop :=
  ∃ (c : Socket) (f₀ f : Frame), w.accepted[i]? = some c ∧ f₀.Valid ∧ f.Valid ∧
    f₀.encode ++ f.encode <+: w.received c ∧ f.kind = kind ∧ f.payload = payload

/-- What the coordinator keeps after a registration frame, an access frame and the loss of worker A. -/
def afterA (a : Bytes) : Served := (Served.registerA {} a).1

def afterB (a b : Bytes) : Served := ((afterA a).bump.accessB b).1

def afterLoss (a b : Bytes) : Served := (afterB a b).loseA.1

/-- Its answers. -/
def resultA (a : Bytes) : RegisterResult := (Served.registerA {} a).2

def decisionB (a b : Bytes) : AccessDecision := ((afterA a).bump.accessB b).2.1

def resultFresh (a b f : Bytes) : RegisterResult := ((afterLoss a b).registerFresh f).2

theorem afterA_authority (a : Bytes) : (afterA a).rt.authority = snap := by
  rw [afterA, Served.registerA_authority]
  rfl

theorem afterA_nextBoot (a : Bytes) : (afterA a).nextBoot = 2 := by
  rw [afterA, Served.registerA_nextBoot]

theorem afterB_authority (a b : Bytes) : (afterB a b).rt.authority = snap := by
  rw [afterB, Served.accessB_authority, Served.bump_rt, afterA_authority]

theorem afterLoss_nextBoot (a b : Bytes) : (afterLoss a b).nextBoot = 3 := by
  rw [afterLoss, Served.loseA_nextBoot, afterB, Served.accessB_nextBoot, Served.bump_nextBoot, afterA_nextBoot]
  decide

theorem afterLoss_epoch (a b : Bytes) : (afterLoss a b).fresh.coordinatorEpoch = ⟨2⟩ := by
  rw [Served.fresh_epoch, afterLoss, Served.loseA_authority, noteParticipantRestart_epoch, afterB_authority]
  rfl

/-! ## What is owed -/

def helloAck : Nat → Bytes
  | 0 => encodeFrame .helloAck 1 (encodeHelloAck 1 1 1)
  | 1 => encodeFrame .helloAck 3 (encodeHelloAck 2 1 1)
  | _ => encodeFrame .helloAck 5 (encodeHelloAck 3 2 1)

def ackA (a : Bytes) : Bytes :=
  encodeFrame .registerBufferAck 2
    (encodeRegisterAck (resultA a).ok (resultA a).registration.value (afterA a).keygenA.value (resultA a).explanation)

def ackB (a b : Bytes) : Bytes :=
  encodeFrame .requestAccessAck 4
    (encodeAccessAck (UInt8.ofNat (decisionB a b).outcome.ctorIdx) (decisionB a b).explanation)

def ackFresh (a b f : Bytes) : Bytes :=
  encodeFrame .registerBufferAck 6
    (encodeRegisterAck (resultFresh a b f).ok (resultFresh a b f).registration.value 0 (resultFresh a b f).explanation)

/-- What the `i`-th connection may have been sent. -/
inductive Replied (w : History) : Nat → Bytes → Prop
  | nothing (i : Nat) : Replied w i []
  | hello {i : Nat} {bs : Bytes} (h : Heard w i) (hbs : bs <+: helloAck i) : Replied w i bs
  | registered {a bs : Bytes} (ha : Asked w 0 .registerBuffer a) (hbs : bs <+: helloAck 0 ++ ackA a) : Replied w 0 bs
  | accessed {a b bs : Bytes} (ha : Asked w 0 .registerBuffer a) (hb : Asked w 1 .requestAccess b)
      (hbs : bs <+: helloAck 1 ++ ackB a b) : Replied w 1 bs
  | fresh {a b f bs : Bytes} (ha : Asked w 0 .registerBuffer a) (hb : Asked w 1 .requestAccess b)
      (hf : Asked w 2 .registerBuffer f) (hbs : bs <+: helloAck 2 ++ ackFresh a b f) : Replied w 2 bs

/-- What may have been printed: no line of the report, or a line that says what was decided. -/
inductive Witnessed (w : History) : StdString → Prop
  | plain {text : StdString} (h : text.head? ≠ some 80) : Witnessed w text
  | registered {a : Bytes} (ha : Asked w 0 .registerBuffer a) : Witnessed w (proofText (resultA a).ok lineA)
  | accessed {a b : Bytes} (ha : Asked w 0 .registerBuffer a) (hb : Asked w 1 .requestAccess b) :
      Witnessed w (proofText ((decisionB a b).outcome == .allow) lineB)
  | staleBoot {o : AccessOutcome} (h : o ≠ .allow) : Witnessed w (proofText true (lineStaleBoot o))
  | killed : Witnessed w (proofText true lineKilled)
  | restart : Witnessed w (proofText true lineRestart)
  | oldAuthority {o : AccessOutcome} (h : o ≠ .allow) : Witnessed w (proofText true (lineOldAuthority o))
  | revoked : Witnessed w (proofText true lineRevoked)
  | fresh {a b f : Bytes} (ha : Asked w 0 .registerBuffer a) (hb : Asked w 1 .requestAccess b)
      (hf : Asked w 2 .registerBuffer f) : Witnessed w (proofText (resultFresh a b f).ok (lineFresh 3))

/-- The conduct: every printed line is witnessed, and every connection on which no send succeeded after one that failed was
sent the beginning of a reply. -/
structure Sound (w : History) : Prop where
  fresh : ∀ c, c ∉ w.accepted → w.received c = [] ∧ w.sent c = []
  nodup : w.accepted.Nodup
  broken : ∀ p ∈ w.broken, p.2 ≤ (w.sent p.1).length
  witnessed : ∀ text ∈ w.printed, Witnessed w text
  replied : ∀ (i : Nat) (c : Socket), w.accepted[i]? = some c → ¬w.Resumed c → Replied w i (w.sent c)

/-! ## More is only added -/

/-- The connections of `w` are those of `w'` at the same places, and there they brought at least as much. -/
structure Older (w w' : History) : Prop where
  accepted : ∀ (i : Nat) (c : Socket), w.accepted[i]? = some c → w'.accepted[i]? = some c
  received : ∀ c, w.received c <+: w'.received c

variable {w w' : History}

theorem Heard.mono {i : Nat} (h : Heard w i) (hw : Older w w') : Heard w' i := by
  obtain ⟨c, f, hc, hf, hp⟩ := h
  exact ⟨c, f, hw.accepted i c hc, hf, hp.trans (hw.received c)⟩

theorem Asked.mono {i : Nat} {kind : MessageKind} {payload : Bytes} (h : Asked w i kind payload) (hw : Older w w') :
    Asked w' i kind payload := by
  obtain ⟨c, f₀, f, hc, hf₀, hf, hp, hkind⟩ := h
  exact ⟨c, f₀, f, hw.accepted i c hc, hf₀, hf, hp.trans (hw.received c), hkind⟩

theorem Replied.mono {i : Nat} {bs : Bytes} (h : Replied w i bs) (hw : Older w w') : Replied w' i bs := by
  cases h with
  | nothing => exact .nothing i
  | hello h hbs => exact .hello (h.mono hw) hbs
  | registered ha hbs => exact .registered (ha.mono hw) hbs
  | accessed ha hb hbs => exact .accessed (ha.mono hw) (hb.mono hw) hbs
  | fresh ha hb hf hbs => exact .fresh (ha.mono hw) (hb.mono hw) (hf.mono hw) hbs

theorem Witnessed.mono {text : StdString} (h : Witnessed w text) (hw : Older w w') : Witnessed w' text := by
  cases h with
  | plain h => exact .plain h
  | registered ha => exact .registered (ha.mono hw)
  | accessed ha hb => exact .accessed (ha.mono hw) (hb.mono hw)
  | staleBoot h => exact .staleBoot h
  | killed => exact .killed
  | restart => exact .restart
  | oldAuthority h => exact .oldAuthority h
  | revoked => exact .revoked
  | fresh ha hb hf => exact .fresh (ha.mono hw) (hb.mono hw) (hf.mono hw)

theorem Older.of_eq (ha : w'.accepted = w.accepted) (hr : w'.received = w.received) : Older w w' :=
  ⟨fun _ _ h => ha ▸ h, fun _ => hr ▸ List.prefix_refl _⟩

theorem Older.receive (w : History) (c : Socket) (bs : Bytes) : Older w (w.receive c bs) := by
  refine ⟨fun _ _ h => h, fun c' => ?_⟩
  by_cases h : c' = c
  · rw [h, History.received_receive]
    exact List.prefix_append _ _
  · exact ⟨[], (List.append_nil _).trans (History.received_receive_of_ne w bs h).symm⟩

theorem Older.accept (w : History) (c : Socket) : Older w (w.accept c) := by
  refine ⟨fun i c' h => ?_, fun _ => List.prefix_refl _⟩
  exact List.getElem?_append_left (List.getElem?_eq_some_iff.1 h).1 ▸ h

/-! ## Broken connections -/

theorem History.length_sent_le (w : History) (c t : Socket) (bs : Bytes) :
    (w.sent t).length ≤ ((w.deliver c bs).sent t).length := by
  by_cases h : t = c
  · subst h
    rw [History.sent_deliver, List.length_append]
    exact Nat.le_add_right _ _
  · rw [History.sent_deliver_of_ne w bs h]

/-- A connection that was resumed stays so. -/
theorem History.Resumed.deliver {c t : Socket} (h : w.Resumed t) (bs : Bytes) : (w.deliver c bs).Resumed t := by
  obtain ⟨n, hn, hlt⟩ := h
  exact ⟨n, hn, Nat.lt_of_lt_of_le hlt (w.length_sent_le c t bs)⟩

theorem History.resumed_breakOff {c t : Socket} : (w.breakOff c).Resumed t ↔ w.Resumed t := by
  constructor
  · rintro ⟨n, hn, hlt⟩
    rcases List.mem_cons.1 hn with hnew | hold
    · obtain ⟨rfl, rfl⟩ := Prod.mk.inj hnew
      exact absurd hlt (Nat.lt_irrefl _)
    · exact ⟨n, hold, hlt⟩
  · rintro ⟨n, hn, hlt⟩
    exact ⟨n, List.mem_cons_of_mem _ hn, hlt⟩

/-! ## Each call keeps the conduct -/

namespace Sound

theorem accept {c : Socket} (h : Sound w) (hc : c ∉ w.accepted) : Sound (w.accept c) where
  fresh c' hc' := h.fresh c' fun hmem => hc' (List.mem_append_left _ hmem)
  nodup := List.nodup_append.2 ⟨h.nodup, List.nodup_singleton c, by
    rintro a ha b hb rfl
    rw [List.mem_singleton] at hb
    exact hc (hb ▸ ha)⟩
  broken := h.broken
  witnessed text ht := (h.witnessed text ht).mono (.accept w c)
  replied i c' hi hresumed := by
    have hi : (w.accepted ++ [c])[i]? = some c' := hi
    rcases lt_or_ge i w.accepted.length with hlt | hge
    · rw [List.getElem?_append_left hlt] at hi
      exact (h.replied i c' hi hresumed).mono (.accept w c)
    · rw [List.getElem?_append_right hge] at hi
      obtain rfl : c' = c := List.mem_singleton.1 (List.mem_of_getElem? hi)
      show Replied _ i (w.sent c')
      rw [(h.fresh c' hc).2]
      exact .nothing i

theorem receive {c : Socket} (h : Sound w) (hc : c ∈ w.accepted) (bs : Bytes) : Sound (w.receive c bs) where
  fresh c' hc' := by
    have hne : c' ≠ c := fun he => hc' (he ▸ hc)
    rw [History.received_receive_of_ne w bs hne]
    exact h.fresh c' hc'
  nodup := h.nodup
  broken := h.broken
  witnessed text ht := (h.witnessed text ht).mono (.receive w c bs)
  replied i c' hi hresumed := (h.replied i c' hi hresumed).mono (.receive w c bs)

theorem deliver {c : Socket} {i : Nat} {bs : Bytes} (h : Sound w) (hc : w.accepted[i]? = some c)
    (hr : ¬(w.deliver c bs).Resumed c → Replied w i (w.sent c ++ bs)) : Sound (w.deliver c bs) where
  fresh c' hc' := by
    have hmem : c ∈ w.accepted := List.mem_of_getElem? hc
    have hne : c' ≠ c := fun he => hc' (he ▸ hmem)
    rw [History.sent_deliver_of_ne w bs hne]
    exact h.fresh c' hc'
  nodup := h.nodup
  broken p hp := (h.broken p hp).trans (w.length_sent_le c p.1 bs)
  witnessed text ht := (h.witnessed text ht).mono (.of_eq rfl rfl)
  replied j c' hj hresumed := by
    have hj : w.accepted[j]? = some c' := hj
    refine Replied.mono ?_ (.of_eq rfl rfl : Older w (w.deliver c bs))
    by_cases hcc : c' = c
    · subst hcc
      obtain rfl : j = i :=
        (List.getElem?_inj (List.getElem?_eq_some_iff.1 hj).1 h.nodup).1 (hj.trans hc.symm)
      rw [History.sent_deliver]
      exact hr hresumed
    · rw [History.sent_deliver_of_ne w bs hcc]
      exact h.replied j c' hj fun hold => hresumed (hold.deliver bs)

theorem breakOff (h : Sound w) (c : Socket) : Sound (w.breakOff c) where
  fresh := h.fresh
  nodup := h.nodup
  broken p hp := by
    rcases List.mem_cons.1 hp with rfl | hp
    · exact Nat.le_refl _
    · exact h.broken p hp
  witnessed text ht := (h.witnessed text ht).mono (.of_eq rfl rfl)
  replied i c' hi hresumed :=
    (h.replied i c' hi fun hold => hresumed (History.resumed_breakOff.2 hold)).mono (.of_eq rfl rfl)

/-- What the conduct does not look at may change. -/
theorem of_eq (h : Sound w) (ha : w'.accepted = w.accepted) (hr : w'.received = w.received) (hs : w'.sent = w.sent)
    (hb : w'.broken = w.broken) (hp : w'.printed = w.printed) : Sound w' where
  fresh c hc := by
    rw [hr, hs]
    exact h.fresh c (ha ▸ hc)
  nodup := ha ▸ h.nodup
  broken := by
    rw [hb, hs]
    exact h.broken
  witnessed text ht := (h.witnessed text (hp ▸ ht)).mono (.of_eq ha hr)
  replied i c hi hresumed := by
    have hold : ¬w.Resumed c := by
      rwa [History.Resumed, hb, hs] at hresumed
    rw [hs]
    exact (h.replied i c (ha ▸ hi) hold).mono (.of_eq ha hr)

theorem print {text : StdString} (h : Sound w) (ht : Witnessed w text) (out : Out) : Sound (w.print out text) := by
  cases out with
  | stdout =>
    have hsame : Older w (w.print .stdout text) := .of_eq rfl rfl
    refine ⟨h.fresh, h.nodup, h.broken, fun t hmem => ?_, fun i c hi hr => (h.replied i c hi hr).mono hsame⟩
    rcases List.mem_append.1 hmem with hold | hnew
    · exact (h.witnessed t hold).mono hsame
    · exact List.mem_singleton.1 hnew ▸ ht.mono hsame
  | proof => exact h.of_eq rfl rfl rfl rfl rfl

end Sound

end Tools

end RdmaBuffer
