/-
The payload decoders as their callers see them: the out-parameters keep what was assigned before a decoder failed, and
where it does not fail they hold what it read.
-/
import RdmaBuffer.Protocol.Commands

namespace RdmaBuffer

namespace Wire

open Codec Persistence

/-! ## Filling in -/

/-- A decoder that assigns the fields of a value one after the other; without bytes to go on from it failed. -/
abbrev Fill (σ : Type) := σ → Bytes → σ × Option Bytes

namespace Fill

variable {σ α : Type}

/-- One field; a value that is `bad` is not assigned. -/
def field (r : Reader α) (bad : α → Bool) (set : α → σ → σ) : Fill σ := fun s bs =>
  match r bs with
  | none => (s, none)
  | some (a, rest) => if bad a then (s, none) else (set a s, some rest)

/-- A field that takes every value. -/
def plain (r : Reader α) (set : α → σ → σ) : Fill σ := field r (fun _ => false) set

def all : List (Fill σ) → Fill σ
  | [], s, bs => (s, some bs)
  | f :: fs, s, bs =>
    match f s bs with
    | (s', none) => (s', none)
    | (s', some rest) => all fs s' rest

/-- The filling as a reader, which returns a value only where nothing failed. -/
def reader (f : Fill σ) (s : σ) : Reader σ := fun bs => (f s bs).2.map fun rest => ((f s bs).1, rest)

theorem reader_eq_some {f : Fill σ} {s s' : σ} {bs rest : Bytes} :
    f.reader s bs = some (s', rest) ↔ f s bs = (s', some rest) := by
  unfold reader
  rcases f s bs with ⟨s₁, _ | rest₁⟩
  · simp
  · simp

theorem reader_plain (r : Reader α) (set : α → σ → σ) (s : σ) :
    (plain r set).reader s = r >>= fun a => pure (set a s) := by
  funext bs
  unfold reader plain field
  rcases h : r bs with _ | ⟨a, rest⟩
  · rw [bind_of_none h]
    rfl
  · rw [bind_of_some h]
    rfl

theorem reader_field (r : Reader α) (bad : α → Bool) (set : α → σ → σ) (s : σ) :
    (field r bad set).reader s = r >>= fun a => if bad a then failure else pure (set a s) := by
  funext bs
  unfold reader field
  rcases h : r bs with _ | ⟨a, rest⟩
  · rw [bind_of_none h]
    rfl
  · rw [bind_of_some h]
    dsimp only
    split
    · rfl
    · rfl

theorem reader_nil (s : σ) : (all []).reader s = pure s := rfl

theorem reader_cons (f : Fill σ) (fs : List (Fill σ)) (s : σ) :
    (all (f :: fs)).reader s = f.reader s >>= fun s' => (all fs).reader s' := by
  funext bs
  rcases h : f s bs with ⟨s₁, _ | rest⟩
  · have hr : f.reader s bs = none := by rw [reader, h]; rfl
    rw [bind_of_none hr, reader, all, h]
    rfl
  · have hr : f.reader s bs = some (s₁, rest) := reader_eq_some.2 h
    rw [bind_of_some hr, reader, reader, all, h]

end Fill

/-! ## Descriptors -/

/-- `read_descriptor`; the six bytes behind the device are assigned together, after all of them passed. -/
def fillDescriptor : Fill BufferDescriptor :=
  .all
    [.plain getU64 fun v d => { d with id := ⟨v⟩ },
      .plain getU64 fun v d => { d with generation := ⟨v⟩ },
      .field getU8 (fun u => u > toByte MemoryDomain.unknown) fun u d => { d with domain := castEnum .unknown u },
      .plain getU64 fun v d => { d with base := { d.base with address := v } },
      .field getU8 (fun u => u > 5) fun u d => { d with base := { d.base with kind := castEnum .unknown u } },
      .plain getU64 fun v d => { d with byteLength := v },
      .plain getU64 fun v d => { d with alignment := v },
      .plain getU64 fun v d => { d with pageSize := v },
      .plain getU64 fun v d => { d with owner := ⟨v⟩ },
      .plain getU64 fun v d => { d with process := ⟨v⟩ },
      .plain getU64 fun v d => { d with worker := ⟨v⟩ },
      .plain getU64 fun v d => { d with node := ⟨v⟩ },
      .plain getU64 fun v d => { d with device := ⟨v⟩ },
      .field
        (do
          let dr ← getU8
          let am ← getU8
          let rm ← getU8
          let lt ← getU8
          let pv ← getU8
          let fr ← getU8
          pure (dr, am, rm, lt, pv, fr))
        (fun (dr, _, rm, lt, pv, fr) =>
          dr > toByte TransferDirection.bidirectional || rm > toByte RegistrationMode.any ||
            lt > toByte LifetimePolicy.ephemeral || pv > toByte Provenance.unknown || fr > toByte Freshness.unknown)
        fun (dr, am, rm, lt, pv, fr) d =>
          { d with
            direction := castEnum .bidirectional dr, requestedAccess := am, registrationMode := castEnum .any rm
            lifetime := castEnum .ephemeral lt, provenance := castEnum .unknown pv
            freshness := castEnum .unknown fr },
      .plain getU64 fun v d => { d with policyGeneration := ⟨v⟩ }]

theorem check_bind {α β : Type} {p : Prop} [Decidable p] {x y : Reader α} {f : α → Reader β} :
    ((if p then x else y) >>= f) = if p then x >>= f else y >>= f := by
  split <;> rfl

theorem ensures_check {α β : Type} [ByteEnum α] [LawfulByteEnum α] {last : α} [IsLast last] {u : UInt8} {r : Reader β}
    {Q : Bytes → β → Bytes → Prop} :
    Ensures (if u > toByte last then failure else r) Q ↔ ∀ a : α, u = toByte a → Ensures r Q := by
  have h : Ensures (if u > toByte last then failure >>= fun _ => r else r) Q ↔ ∀ a : α, u = toByte a → Ensures r Q :=
    ensures_range
  rwa [fail_bind] at h

theorem ite_or_check {α : Type} {p q : Prop} [Decidable p] [Decidable q] {x y : α} :
    (if p ∨ q then x else y) = if p then x else if q then x else y := by
  by_cases hp : p <;> simp [hp]

instance (d : BufferDescriptor) : Exact (fillDescriptor.reader d) writeDescriptor := by
  -- the bound on the pointer kind is written as a number
  have hkind : (5 : UInt8) = toByte PointerKind.unknown := rfl
  apply Exact.of_ensures
  · unfold fillDescriptor
    rw [hkind]
    simp only [Fill.reader_cons, Fill.reader_nil, Fill.reader_plain, Fill.reader_field, bind_assoc, pure_bind, check_bind,
      Bool.or_eq_true, decide_eq_true_eq, ite_or_check, or_assoc, fail_bind, Exact.ensures_bind, ensures_check]
    rintro id generation _ domain rfl address _ kind rfl byteLength alignment pageSize owner process worker node device
      dr am rm lt pv fr direction rfl registrationMode rfl lifetime rfl provenance rfl freshness rfl policyGeneration
    refine ensures_pure.2 fun bs => ?_
    unfold writeDescriptor
    simp only [castEnum_toByte, List.append_assoc]
  · intro d' rest
    unfold fillDescriptor writeDescriptor
    rw [hkind]
    simp only [Fill.reader_cons, Fill.reader_nil, Fill.reader_plain, Fill.reader_field, bind_assoc, pure_bind, check_bind,
      Bool.or_eq_true, decide_eq_true_eq, ite_or_check, or_assoc, List.append_assoc, getU64_bind, getU8_bind, fail_bind,
      ite_gt_last, castEnum_toByte]
    rfl

/-- Filled in or read, it is the same descriptor, and nothing is left of what was there before. -/
theorem reader_fillDescriptor (d : BufferDescriptor) : fillDescriptor.reader d = readDescriptor :=
  Exact.unique (fillDescriptor.reader d) (inferInstanceAs (Exact readDescriptor writeDescriptor))

/-! ## Commands -/

structure HelloAckArgs where
  boot : UInt64 := 0
  epoch : UInt64 := 0
  node : UInt64 := 0

def fillHelloAck : Fill HelloAckArgs :=
  .all
    [.plain getU64 fun v a => { a with boot := v }, .plain getU64 fun v a => { a with epoch := v },
      .plain getU64 fun v a => { a with node := v }]

structure RegisterArgs where
  d : BufferDescriptor := {}
  domain : UInt64 := 0
  backend : UInt64 := 0

/-- The descriptor goes on where the two words in front of it were read. -/
def fillRegister : Fill RegisterArgs :=
  .all
    [.plain getU64 fun v a => { a with domain := v }, .plain getU64 fun v a => { a with backend := v },
      fun a p => let (d, rest) := fillDescriptor a.d p; ({ a with d }, rest)]

structure RegisterAckArgs where
  o : UInt8 := 0
  ok : Bool := false
  reg : UInt64 := 0
  keygen : UInt64 := 0
  msg : StdString := []

/-- The flag is assigned last. -/
def fillRegisterAck : Fill RegisterAckArgs :=
  .all
    [.plain getU8 fun v a => { a with o := v }, .plain getU64 fun v a => { a with reg := v },
      .plain getU64 fun v a => { a with keygen := v }, .plain (getStr 4096) fun v a => { a with msg := v },
      fun a p => ({ a with ok := a.o != 0 }, some p)]

structure AccessArgs where
  reg : UInt64 := 0
  off : UInt64 := 0
  len : UInt64 := 0
  kind : UInt64 := 0
  access : UInt8 := 0
  boot : UInt64 := 0
  expkeygen : UInt64 := 0

def fillAccess : Fill AccessArgs :=
  .all
    [.plain getU64 fun v a => { a with reg := v }, .plain getU64 fun v a => { a with off := v },
      .plain getU64 fun v a => { a with len := v }, .plain getU64 fun v a => { a with kind := v },
      .plain getU8 fun v a => { a with access := v }, .plain getU64 fun v a => { a with boot := v },
      .plain getU64 fun v a => { a with expkeygen := v }]

structure AccessAckArgs where
  outcome : UInt8 := 0
  msg : StdString := []

def fillAccessAck : Fill AccessAckArgs :=
  .all [.plain getU8 fun v a => { a with outcome := v }, .plain (getStr 4096) fun v a => { a with msg := v }]

/-- A filling that reads as a decoder does leaves what the decoder returns. -/
theorem filled_of_fields {σ α : Type} {f : Fill σ} {s : σ} {k : σ → α} {r : Reader α} (h : k <$> f.reader s = r)
    {p : Bytes} {a : α} (ha : fields r p = some a) : k (f s p).1 = a := by
  obtain ⟨rest, hr⟩ := fields_eq_some.1 ha
  rw [← h, map_eq_pure_bind, bind_eq_some] at hr
  obtain ⟨s', mid, hs, hk⟩ := hr
  rw [Fill.reader_eq_some.1 hs]
  exact (pure_eq_some.1 hk).1

section

variable {p : Bytes}

theorem fillHelloAck_of_decode {x : UInt64 × UInt64 × UInt64} (h : decodeHelloAck p = some x) :
    (let a := (fillHelloAck {} p).1; (a.boot, a.epoch, a.node)) = x := by
  refine filled_of_fields (k := fun a : HelloAckArgs => (a.boot, a.epoch, a.node)) ?_ h
  unfold fillHelloAck
  simp only [Fill.reader_cons, Fill.reader_nil, Fill.reader_plain, bind_assoc, pure_bind, map_bind, map_pure]

theorem fillAccess_of_decode {x : UInt64 × UInt64 × UInt64 × UInt64 × UInt8 × UInt64 × UInt64}
    (h : decodeAccess p = some x) :
    (let a := (fillAccess {} p).1; (a.reg, a.off, a.len, a.kind, a.access, a.boot, a.expkeygen)) = x := by
  refine filled_of_fields
    (k := fun a : AccessArgs => (a.reg, a.off, a.len, a.kind, a.access, a.boot, a.expkeygen)) ?_ h
  unfold fillAccess
  simp only [Fill.reader_cons, Fill.reader_nil, Fill.reader_plain, bind_assoc, pure_bind, map_bind, map_pure]

theorem fillAccessAck_of_decode {x : UInt8 × StdString} (h : decodeAccessAck p = some x) :
    (let a := (fillAccessAck {} p).1; (a.outcome, a.msg)) = x := by
  refine filled_of_fields (k := fun a : AccessAckArgs => (a.outcome, a.msg)) ?_ h
  unfold fillAccessAck
  simp only [Fill.reader_cons, Fill.reader_nil, Fill.reader_plain, bind_assoc, pure_bind, map_bind, map_pure]

theorem fillRegister_of_decode {x : BufferDescriptor × UInt64 × UInt64} (h : decodeRegister p = some x) :
    (let a := (fillRegister {} p).1; (a.d, a.domain, a.backend)) = x := by
  have hlast : ∀ a : RegisterArgs,
      Fill.reader (fun a p => let (d, rest) := fillDescriptor a.d p; ({ a with d }, rest)) a =
        readDescriptor >>= fun d => pure { a with d } := by
    intro a
    rw [← reader_fillDescriptor a.d]
    funext p
    rcases hd : fillDescriptor a.d p with ⟨d, _ | rest⟩
    · have hr : fillDescriptor.reader a.d p = none := by rw [Fill.reader, hd]; rfl
      rw [bind_of_none hr, Fill.reader, hd]
      rfl
    · rw [bind_of_some (Fill.reader_eq_some.2 hd), Fill.reader, hd]
      rfl
  refine filled_of_fields (k := fun a : RegisterArgs => (a.d, a.domain, a.backend)) ?_ h
  unfold fillRegister
  simp only [Fill.reader_cons, Fill.reader_nil, Fill.reader_plain, hlast, bind_assoc, pure_bind, map_bind, map_pure]

theorem fillRegisterAck_of_decode {x : Bool × UInt64 × UInt64 × StdString} (h : decodeRegisterAck p = some x) :
    (let a := (fillRegisterAck {} p).1; (a.ok, a.reg, a.keygen, a.msg)) = x := by
  have hlast : ∀ a : RegisterAckArgs,
      Fill.reader (fun a p => ({ a with ok := a.o != 0 }, some p)) a = pure { a with ok := a.o != 0 } :=
    fun _ => rfl
  refine filled_of_fields (k := fun a : RegisterAckArgs => (a.ok, a.reg, a.keygen, a.msg)) ?_ h
  unfold fillRegisterAck
  simp only [Fill.reader_cons, Fill.reader_nil, Fill.reader_plain, hlast, bind_assoc, pure_bind, map_bind, map_pure]

end

end Wire

end RdmaBuffer
