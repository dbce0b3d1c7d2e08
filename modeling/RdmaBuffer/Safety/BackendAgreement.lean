/-
The synthetic backend in its default configuration and the reference backend answer the same calls alike. Their tables
hold the same registrations under handles paired in order of issue, and every method keeps them so.
-/
import RdmaBuffer.Backend.Calls
import RdmaBuffer.Backend.View
import RdmaBuffer.Runtime.Execution

namespace RdmaBuffer

open Lts Renaming

/-! ## The same registrations -/

/-- No capability was configured: all but the seed, the sequence and the entries is as constructed. -/
def SyntheticBackend.Unconfigured (b : SyntheticBackend) : Prop :=
  { b with nextSeq := 1, entries := ∅, regionHandle := ∅ } = SyntheticBackend.new b.seed

/-- The entries are of the same registration, live and with the same key generation. -/
structure MatchingEntry (e : SyntheticEntry) (e' : ReferenceEntry) : Prop where
  reg : e.reg.SameGrant e'.reg
  keyGeneration : e.keyGeneration = e'.reg.keys.remoteKeyGeneration
  live : e.revoked = false ∧ e.revalidateRequired = false ∧ e'.revoked = false

/-- The backends hold the same registrations, issued under the handles of the same sequence numbers. -/
structure Paired (p : ParallelBackends) : Prop where
  unconfigured : p.synthetic.Unconfigured
  seq : p.reference.nextSeq = p.synthetic.nextSeq
  count : p.synthetic.nextSeq.toNat = p.issued.length + 1
  issued : ∀ h h', (h, h') ∈ p.issued → ∃ n < p.synthetic.nextSeq,
    h = SyntheticBackend.makeHandle (p.synthetic.regionAt n) ∧
      h' = ReferenceBackend.makeHandle (ReferenceBackend.regionAt n)
  tables : Alike (fun h h' => (h, h') ∈ p.issued) MatchingEntry p.synthetic.entries p.reference.entries

/-- Handles of sequence numbers below `2 ^ 57` are paired one to one. -/
theorem oneToOne_of_issued {b : SyntheticBackend} {issued : List (StdString × StdString)} {bound : UInt64}
    (hb : bound.toNat ≤ 2 ^ 57)
    (h : ∀ h h', (h, h') ∈ issued → ∃ n < bound, h = SyntheticBackend.makeHandle (b.regionAt n) ∧
      h' = ReferenceBackend.makeHandle (ReferenceBackend.regionAt n)) :
    OneToOne (fun h h' => (h, h') ∈ issued) := by
  intro k l k' l' hkl hkl'
  obtain ⟨n, hn, rfl, rfl⟩ := h k l hkl
  obtain ⟨m, hm, rfl, rfl⟩ := h k' l' hkl'
  rw [UInt64.lt_iff_toNat_lt] at hn hm
  constructor
  · intro he
    rw [Backend.synthetic_handle_inj b (by omega) (by omega) he]
  · intro he
    rw [Backend.reference_handle_inj he]

namespace Paired

variable {p : ParallelBackends}

theorem oneToOne (h : Paired p) (hb : p.issued.length < 2 ^ 57) : OneToOne (fun k l => (k, l) ∈ p.issued) :=
  oneToOne_of_issued (by have := h.count; omega) h.issued

theorem init (seed : UInt64) (id : BackendId) : Paired { synthetic := .new seed, reference := .new id } where
  unconfigured := rfl
  seq := rfl
  count := rfl
  issued _ _ hm := absurd hm List.not_mem_nil
  tables := .empty _ _

/-- Under handles of the same registration both backends have its entry, or neither has. -/
theorem lookup (h : Paired p) {handle handle' : RegisterHandle} (hs : p.SameHandle handle handle') :
    (p.synthetic.entries.lookup handle.handle = none ∧ p.reference.entries.lookup handle'.handle = none) ∨
      ∃ e e', p.synthetic.entries.lookup handle.handle = some e ∧
        p.reference.entries.lookup handle'.handle = some e' ∧ MatchingEntry e e' ∧
        (handle.handle, handle'.handle) ∈ p.issued := by
  have hrel := h.tables.lookup hs
  rcases he : p.synthetic.entries.lookup handle.handle with _ | e
  · rw [he] at hrel
    generalize p.reference.entries.lookup handle'.handle = o at hrel
    cases hrel
    exact .inl ⟨rfl, rfl⟩
  · have hp := h.tables.paired hs he
    rw [he] at hrel
    generalize p.reference.entries.lookup handle'.handle = o at hrel
    cases hrel with
    | some hsame => exact .inr ⟨e, _, rfl, rfl, hsame, hp⟩

/-- Only the entries of the backends differ. -/
theorem of_tables (h : Paired p) {b : SyntheticBackend} {b' : ReferenceBackend}
    (hb : { b with entries := p.synthetic.entries, regionHandle := p.synthetic.regionHandle } = p.synthetic)
    (hb' : { b' with entries := p.reference.entries } = p.reference)
    (ht : Alike (fun k l => (k, l) ∈ p.issued) MatchingEntry b.entries b'.entries) :
    Paired { synthetic := b, reference := b', issued := p.issued } where
  unconfigured := by
    have hu := h.unconfigured
    rw [← hb] at hu
    exact hu
  seq := by
    have hs := h.seq
    rw [← hb, ← hb'] at hs
    exact hs
  count := by
    have hc := h.count
    rw [← hb] at hc
    exact hc
  issued := by
    have hi := h.issued
    rw [← hb] at hi
    exact hi
  tables := ht

end Paired

/-! ## The methods -/

section

variable {b : SyntheticBackend} (hb : b.Unconfigured)
include hb

theorem unconfigured_capabilities : b.capabilities = (SyntheticBackend.new b.seed).capabilities := by
  unfold SyntheticBackend.Unconfigured at hb
  rw [← hb]
  rfl

/-- Both backends reject the same descriptors for the same reason. -/
theorem canRegister_same (b' : ReferenceBackend) {d : BufferDescriptor} (hd : d.domain ≠ .syntheticRemoteCapable)
    (ha : d.alignment = 0 ∨ d.alignment = 4096) : b.canRegister d = b'.canRegister d := by
  have hread : b.remoteReadSupported = true := congrArg (·.remoteReadSupported) hb
  have hwrite : b.remoteWriteSupported = true := congrArg (·.remoteWriteSupported) hb
  have hatomic : b.atomicSupported = false := congrArg (·.atomicSupported) hb
  have hrequired : b.requiredAlignment = 4096 := congrArg (·.requiredAlignment) hb
  have hdom : domainSupported b.capabilities d.domain = domainSupported b'.capabilities d.domain := by
    rw [unconfigured_capabilities hb]
    cases hc : d.domain <;> first | rfl | exact absurd hc hd
  unfold SyntheticBackend.canRegister ReferenceBackend.canRegister
  rw [hdom, hread, hwrite, hatomic, hrequired]
  by_cases hsup : domainSupported b'.capabilities d.domain = true
  · have hcuda : (d.domain == .cudaDevice) = false := by
      cases hc : d.domain <;> first | rfl | (rw [hc] at hsup; exact absurd hsup Bool.false_ne_true)
    have halign : (4096 != (0 : UInt64) && d.alignment != 0 &&
        (d.alignment % 4096 != 0 || 4096 % d.alignment != 0)) = false := by
      rcases ha with h0 | h1
      · rw [h0]; decide
      · rw [h1]; decide
    simp only [halign, hcuda, Bool.not_true, Bool.and_false, Bool.not_false, Bool.and_true, Bool.false_eq_true,
      if_false, Bool.false_and]
  · simp [hsup]

/-- The verdicts on entries of the same registration, under keys of the same generation. -/
theorem queryEntry_same {e : SyntheticEntry} {e' : ReferenceEntry} (he : MatchingEntry e e') {key key' : BackendKey}
    (hkey : key.remoteKeyGeneration = key'.remoteKeyGeneration) (kind : OperationKind) (offset length : UInt64) :
    (b.queryEntry e key kind offset length).1 = (ReferenceBackend.queryEntry e' key' kind offset length).1 := by
  have hread : b.remoteReadSupported = true := congrArg (·.remoteReadSupported) hb
  have hwrite : b.remoteWriteSupported = true := congrArg (·.remoteWriteSupported) hb
  have hatomic : b.atomicSupported = false := congrArg (·.atomicSupported) hb
  obtain ⟨hrevoked, hrevalidate, hrevoked'⟩ := he.live
  unfold SyntheticBackend.queryEntry ReferenceBackend.queryEntry
  rw [hrevoked, hrevalidate, hrevoked', hread, hwrite, hatomic, hkey, he.keyGeneration, he.reg.length, he.reg.granted]
  simp only [Bool.false_eq_true, if_false, Bool.not_true, Bool.not_false, if_true]
  split
  · rfl
  · split
    · rfl
    · cases kind with
      | write => simp; split <;> rfl
      | read => simp; split <;> rfl
      | atomicCompareSwap => rfl

end

/-! ## One call on both sides -/

namespace ParallelBackends

/-- The answers to the calls agree, and the backends stay in step. -/
structure Agrees (p : ParallelBackends) (c : BackendCall × BackendCall) : Prop where
  answers : BackendAnswer.Agree (c.1.run p.synthetic).2 (c.2.run p.reference).2
  paired : Paired (p.exec c)

variable {p : ParallelBackends}

/-- A call that issues no handle leaves the pairing as it is. -/
theorem Agrees.of_run {c : BackendCall × BackendCall} (hnew : ∀ a, c.1.newHandle a = none)
    (h : (c.1.run p.synthetic).2.Agree (c.2.run p.reference).2 ∧
      Paired ⟨(c.1.run p.synthetic).1, (c.2.run p.reference).1, p.issued⟩) : p.Agrees c := by
  refine ⟨h.1, ?_⟩
  unfold exec
  simpa only [hnew, List.append_nil] using h.2

section

variable (hi : Paired p) (hb : p.issued.length < 2 ^ 57) {handle handle' : RegisterHandle}
  (hs : p.SameHandle handle handle')
include hi hs

theorem queryRegistration_agrees : p.Agrees (.queryRegistration handle, .queryRegistration handle') := by
  refine .of_run (fun _ => rfl) ?_
  simp only [BackendCall.run, IBackend.queryRegistration, SyntheticBackend.queryRegistration,
    ReferenceBackend.queryRegistration]
  rcases hi.lookup hs with ⟨h, h'⟩ | ⟨e, e', h, h', hsame, -⟩
  · simp only [h, h']
    exact ⟨.registration rfl rfl fun hok => absurd hok Bool.false_ne_true, hi⟩
  · simp only [h, h']
    exact ⟨.registration rfl rfl fun _ => hsame.reg, hi⟩

theorem queryRemoteAccess_agrees {key key' : BackendKey} (hkey : key.remoteKeyGeneration = key'.remoteKeyGeneration)
    (kind : OperationKind) (offset length : UInt64) :
    p.Agrees
      (.queryRemoteAccess handle key kind offset length, .queryRemoteAccess handle' key' kind offset length) := by
  refine .of_run (fun _ => rfl) ?_
  simp only [BackendCall.run, IBackend.queryRemoteAccess, SyntheticBackend.queryRemoteAccess,
    ReferenceBackend.queryRemoteAccess]
  rcases hi.lookup hs with ⟨h, h'⟩ | ⟨e, e', h, h', hsame, -⟩
  · simp only [h, h']
    exact ⟨.access _, hi⟩
  · simp only [h, h']
    rw [queryEntry_same hi.unconfigured hsame hkey]
    exact ⟨.access _, hi⟩

include hb

/-- Nothing awaits revalidation, so that the entry that is written back is of the same registration. -/
theorem revalidate_agrees : p.Agrees (.revalidate handle, .revalidate handle') := by
  refine .of_run (fun _ => rfl) ?_
  simp only [BackendCall.run, IBackend.revalidate, SyntheticBackend.revalidate, ReferenceBackend.revalidate]
  rcases hi.lookup hs with ⟨h, h'⟩ | ⟨e, e', h, h', hsame, hp⟩
  · simp only [h, h']
    exact ⟨.access _, hi⟩
  · simp only [h, h']
    have hsame' : MatchingEntry { e with revalidateRequired := false } e' :=
      ⟨hsame.reg, hsame.keyGeneration, hsame.live.1, rfl, hsame.live.2.2⟩
    exact ⟨.access _, hi.of_tables rfl rfl (hi.tables.rewrite_left (hi.oneToOne hb) hp h' hsame')⟩

theorem deregisterBuffer_agrees : p.Agrees (.deregisterBuffer handle, .deregisterBuffer handle') := by
  refine .of_run (fun _ => rfl) ?_
  simp only [BackendCall.run, IBackend.deregisterBuffer, SyntheticBackend.deregisterBuffer,
    ReferenceBackend.deregisterBuffer]
  rcases hi.lookup hs with ⟨h, h'⟩ | ⟨e, e', h, h', -, hp⟩
  · simp only [h, h']
    exact ⟨.outcome rfl rfl, hi⟩
  · simp only [h, h']
    exact ⟨.outcome rfl rfl, hi.of_tables rfl rfl (hi.tables.erase (hi.oneToOne hb) hp)⟩

theorem abortRegistration_agrees : p.Agrees (.abortRegistration handle, .abortRegistration handle') := by
  refine .of_run (fun _ => rfl) ?_
  simp only [BackendCall.run, IBackend.abortRegistration, SyntheticBackend.abortRegistration,
    ReferenceBackend.abortRegistration]
  rcases hi.lookup hs with ⟨h, h'⟩ | ⟨e, e', h, h', -, hp⟩
  · simp only [h, h']
    exact ⟨.flag _, hi⟩
  · simp only [h, h']
    exact ⟨.flag _, hi.of_tables rfl rfl (hi.tables.erase (hi.oneToOne hb) hp)⟩

theorem rotateKey_agrees (newGen : RemoteKeyGeneration) :
    p.Agrees (.rotateKey handle newGen, .rotateKey handle' newGen) := by
  refine .of_run (fun _ => rfl) ?_
  simp only [BackendCall.run, IBackend.rotateKey, SyntheticBackend.rotateKey, ReferenceBackend.rotateKey]
  rcases hi.lookup hs with ⟨h, h'⟩ | ⟨e, e', h, h', hsame, hp⟩
  · simp only [h, h']
    exact ⟨.flag _, hi⟩
  · simp only [h, h']
    -- the key generation is kept twice on the synthetic side
    have hreg := hsame.reg
    refine ⟨.flag _, hi.of_tables rfl rfl (hi.tables.rewrite (hi.oneToOne hb) hp ?_)⟩
    exact ⟨⟨hreg.base, hreg.length, hreg.granted, rfl⟩, rfl, hsame.live.1, rfl, hsame.live.2.2⟩

end

/-- The next handle is issued on both sides, for entries of the same registration. -/
theorem paired_issue (hi : Paired p) (hb : p.issued.length + 1 < 2 ^ 57) {b : SyntheticBackend} {b' : ReferenceBackend}
    {e : SyntheticEntry} {e' : ReferenceEntry} {region : Table MemoryRegionId StdString} (he : MatchingEntry e e')
    (hsyn : b = { p.synthetic with
      nextSeq := p.synthetic.nextSeq + 1, regionHandle := region
      entries := Table.put (SyntheticBackend.makeHandle (p.synthetic.regionAt p.synthetic.nextSeq)) e
        p.synthetic.entries })
    (href : b' = { p.reference with
      nextSeq := p.reference.nextSeq + 1
      entries := Table.put (ReferenceBackend.makeHandle (ReferenceBackend.regionAt p.reference.nextSeq)) e'
        p.reference.entries }) :
    Paired
      { synthetic := b, reference := b'
        issued := p.issued ++ [(SyntheticBackend.makeHandle (p.synthetic.regionAt p.synthetic.nextSeq),
          ReferenceBackend.makeHandle (ReferenceBackend.regionAt p.reference.nextSeq))] } := by
  subst hsyn href
  have hcount := hi.count
  have hnext : (p.synthetic.nextSeq + 1).toNat = p.synthetic.nextSeq.toNat + 1 :=
    (Backend.hasRoom_of_lt (b := .synthetic p.synthetic) (show p.synthetic.nextSeq.toNat < 2 ^ 57 by omega)).toNat_succ
  have hissued : ∀ h h', (h, h') ∈ p.issued ++
      [(SyntheticBackend.makeHandle (p.synthetic.regionAt p.synthetic.nextSeq),
        ReferenceBackend.makeHandle (ReferenceBackend.regionAt p.reference.nextSeq))] →
      ∃ n < p.synthetic.nextSeq + 1, h = SyntheticBackend.makeHandle (p.synthetic.regionAt n) ∧
        h' = ReferenceBackend.makeHandle (ReferenceBackend.regionAt n) := by
    intro h h' hm
    rcases List.mem_append.1 hm with hm | hm
    · obtain ⟨n, hn, heq⟩ := hi.issued h h' hm
      refine ⟨n, ?_, heq⟩
      rw [UInt64.lt_iff_toNat_lt] at hn ⊢
      omega
    · obtain ⟨rfl, rfl⟩ := Prod.mk.inj (List.mem_singleton.1 hm)
      refine ⟨p.synthetic.nextSeq, ?_, rfl, by rw [hi.seq]⟩
      rw [UInt64.lt_iff_toNat_lt]
      omega
  refine ⟨hi.unconfigured, congrArg (· + 1) hi.seq, ?_, hissued, ?_⟩
  · show (p.synthetic.nextSeq + 1).toNat = _
    rw [hnext, hcount, List.length_append, List.length_singleton]
  · refine hi.tables.put (oneToOne_of_issued (by omega) hissued) ?_ ?_ ?_ he
    · intro k l hkl
      exact List.mem_append_left _ hkl
    · intro k l hkl
      exact (List.mem_append.1 hkl).imp_right fun h => Prod.mk.inj (List.mem_singleton.1 h)
    · exact List.mem_append_right _ (List.mem_singleton.2 rfl)

/-- A registration is rejected on both sides for the same reason, or issues the next handle on both. -/
theorem registerBuffer_agrees (hi : Paired p) {d : BufferDescriptor} (hd : d.domain ≠ .syntheticRemoteCapable)
    (ha : d.alignment = 0 ∨ d.alignment = 4096) (ctx ctx' : RegistrationContext)
    (hb : (p.exec (.registerBuffer d ctx, .registerBuffer d ctx')).issued.length < 2 ^ 57) :
    p.Agrees (.registerBuffer d ctx, .registerBuffer d ctx') := by
  have hcan := canRegister_same hi.unconfigured p.reference hd ha
  by_cases hok : p.synthetic.canRegister d = []
  · have hok' : p.reference.canRegister d = [] := hcan.symm.trans hok
    have h : p.synthetic.registerBuffer d ctx = (_, _) := if_neg (not_not_intro hok)
    have h' : p.reference.registerBuffer d ctx' = (_, _) := if_neg (not_not_intro hok')
    constructor
    · simp only [BackendCall.run, IBackend.registerBuffer, h, h']
      exact .registration rfl rfl fun _ => ⟨rfl, rfl, rfl, rfl⟩
    · unfold exec at hb ⊢
      simp only [BackendCall.run, IBackend.registerBuffer, h, h', BackendCall.newHandle] at hb ⊢
      refine paired_issue hi ?_ ?_ rfl rfl
      · simpa using hb
      · exact ⟨⟨rfl, rfl, rfl, rfl⟩, rfl, rfl, rfl, rfl⟩
  · have hok' : p.reference.canRegister d ≠ [] := fun h => hok (hcan.trans h)
    have h : p.synthetic.registerBuffer d ctx = (_, _) := if_pos hok
    have h' : p.reference.registerBuffer d ctx' = (_, _) := if_pos hok'
    constructor
    · simp only [BackendCall.run, IBackend.registerBuffer, h, h']
      exact .registration rfl hcan fun hok => absurd hok Bool.false_ne_true
    · unfold exec
      simp only [BackendCall.run, IBackend.registerBuffer, h, h', BackendCall.newHandle]
      simpa using hi

end ParallelBackends

/-! ## Runs -/

open ParallelBackends

/-- One pair of calls, as long as the handles are not used up. -/
theorem parallel_step {p : ParallelBackends} {c : BackendCall × BackendCall} (hi : Paired p) (hc : SameCall p c)
    (hb : (p.exec c).issued.length < 2 ^ 57) : p.Agrees c := by
  have hle : p.issued.length ≤ (p.exec c).issued.length := by simp [exec]
  have hpre : p.issued.length < 2 ^ 57 := by omega
  cases hc with
  | registerBuffer hd ha => exact registerBuffer_agrees hi hd ha _ _ hb
  | deregisterBuffer hs => exact deregisterBuffer_agrees hi hpre hs
  | queryRegistration hs => exact queryRegistration_agrees hi hs
  | queryRemoteAccess kind offset length hs hkey => exact queryRemoteAccess_agrees hi hs hkey kind offset length
  | revalidate hs => exact revalidate_agrees hi hpre hs
  | abortRegistration hs => exact abortRegistration_agrees hi hpre hs
  | rotateKey newGen hs => exact rotateKey_agrees hi hpre hs newGen

/-- No pairing is forgotten. -/
theorem mem_issued_exec {p : ParallelBackends} {hs : StdString × StdString} (h : hs ∈ p.issued)
    (c : BackendCall × BackendCall) : hs ∈ (p.exec c).issued := by
  unfold exec
  exact List.mem_append_left _ h

theorem issued_mono {p q : ParallelBackends} {t : List (Transition ParallelBackends (BackendCall × BackendCall))}
    (h : parallelBackends.Path p t q) : p.issued.length ≤ q.issued.length := by
  refine h.inv (I := fun q => p.issued.length ≤ q.issued.length) ?_ le_rfl
  rintro u c v rfl hle
  exact hle.trans (by simp [exec])

/-- A call issues at most one pair of handles. -/
theorem issued_le_calls {p : ParallelBackends} {t : List (Transition ParallelBackends (BackendCall × BackendCall))}
    (h : parallelBackends.Run t p) : p.issued.length ≤ t.length := by
  refine h.trace_inv (I := fun t p => p.issued.length ≤ t.length) (C := fun _ _ => True) ?_ ?_ fun _ _ _ _ => trivial
  · rintro _ ⟨seed, id, rfl⟩
    exact le_rfl
  · rintro t u c v rfl - hle
    rw [List.length_append, exec, List.length_append]
    refine Nat.add_le_add hle ?_
    split
    · exact le_rfl
    · exact Nat.zero_le 1

/-- The two backends answer alike at every step of every run. -/
theorem backends_agree {t : List (Transition ParallelBackends (BackendCall × BackendCall))} {p : ParallelBackends}
    (h : parallelBackends.Run t p) (hc : ∀ x ∈ t, SameCall x.pre x.label) (hb : p.issued.length < 2 ^ 57) :
    ∀ x ∈ t, (x.label.1.run x.pre.synthetic).2.Agree (x.label.2.run x.pre.reference).2 := by
  intro x hx
  have hbound : ∀ y ∈ t, y.post.issued.length < 2 ^ 57 := by
    intro y hy
    obtain ⟨_, _, _, _, _, hpath⟩ := h.at_mem hy
    exact (issued_mono hpath).trans_lt hb
  obtain ⟨t₁, t₂, rfl, hrun, hstep, -⟩ := h.at_mem hx
  have hpaired : Paired x.pre := by
    refine hrun.inv_of (I := Paired) (C := fun y => SameCall y.pre y.label ∧ y.post.issued.length < 2 ^ 57) ?_ ?_ ?_
    · rintro _ ⟨seed, id, rfl⟩
      exact .init seed id
    · rintro u c v rfl ⟨hsame, hlen⟩ hi
      exact (parallel_step hi hsame hlen).paired
    · intro y hy
      exact ⟨hc y (List.mem_append_left _ hy), hbound y (List.mem_append_left _ hy)⟩
  have hlen := hbound x hx
  rw [show x.post = x.pre.exec x.label from hstep] at hlen
  exact (parallel_step hpaired (hc x hx) hlen).answers

/-! ## A page on both -/

/-- The handles of the first registration on each side. -/
def firstHandle : RegisterHandle := ⟨{}, SyntheticBackend.makeHandle ((SyntheticBackend.new 0x52444D41).regionAt 1)⟩

def firstReferenceHandle : RegisterHandle := ⟨{}, ReferenceBackend.makeHandle (ReferenceBackend.regionAt 1)⟩

/-- A page is registered, written to, given a new key, and withdrawn. -/
def pageCalls : List (BackendCall × BackendCall) :=
  [(.registerBuffer Session.page {}, .registerBuffer Session.page {}),
    (.queryRemoteAccess firstHandle { remoteKeyGeneration := ⟨1⟩ } .write 0 64,
      .queryRemoteAccess firstReferenceHandle { remoteKeyGeneration := ⟨1⟩ } .write 0 64),
    (.rotateKey firstHandle ⟨2⟩, .rotateKey firstReferenceHandle ⟨2⟩),
    (.deregisterBuffer firstHandle, .deregisterBuffer firstReferenceHandle)]

/-- A backend of each kind, as constructed. -/
def freshBackends : ParallelBackends := { synthetic := .new 0x52444D41, reference := .new ⟨0x524546⟩ }

theorem backends_agree_page : ∃ t p, parallelBackends.Run t p ∧ t.length = 4 ∧
    ∀ x ∈ t, (x.label.1.run x.pre.synthetic).2.Agree (x.label.2.run x.pre.reference).2 := by
  have hr : parallelBackends.Run (trace ParallelBackends.exec id freshBackends pageCalls) _ :=
    ⟨_, ⟨_, _, rfl⟩, Path.of_trace (fun _ _ => rfl) _ _⟩
  have hissued : (firstHandle.handle, firstReferenceHandle.handle) ∈
      (freshBackends.exec (.registerBuffer Session.page {}, .registerBuffer Session.page {})).issued := by
    decide +kernel
  refine ⟨_, _, hr, rfl, backends_agree hr ?_ ((issued_le_calls hr).trans_lt (by decide))⟩
  intro x hx
  simp only [pageCalls, trace, List.mem_cons, List.not_mem_nil, or_false] at hx
  rcases hx with rfl | rfl | rfl | rfl
  · exact .registerBuffer (by decide) (.inr rfl)
  · exact .queryRemoteAccess _ _ _ (.inl hissued) rfl
  · exact .rotateKey _ (.inl (mem_issued_exec hissued _))
  · exact .deregisterBuffer (.inl (mem_issued_exec (mem_issued_exec hissued _) _))

end RdmaBuffer
