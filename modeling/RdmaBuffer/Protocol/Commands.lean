/-
Commands over the wire: what each payload decoder accepts, the round trip through a frame, and which accepted payloads
are not the ones the encoders write.
-/
import RdmaBuffer.Protocol.DescriptorCodec
import RdmaBuffer.Protocol.Framing

namespace RdmaBuffer

namespace Wire

open Codec Persistence

/-! ## Commands -/

/-- The arguments of a payload encoder. -/
inductive Command
  | hello (role : StdString)
  | helloAck (boot epoch node : UInt64)
  | register (d : BufferDescriptor) (domain backend : UInt64)
  | registerAck (ok : Bool) (reg keygen : UInt64) (msg : StdString)
  | access (reg off len kind : UInt64) (mask : UInt8) (boot expkeygen : UInt64)
  | accessAck (outcome : UInt8) (msg : StdString)
  | result (ok : Bool) (msg : StdString)

inductive PayloadKind
  | hello | helloAck | register | registerAck | access | accessAck | result
  deriving DecidableEq

namespace Command

def payloadKind : Command → PayloadKind
  | .hello _ => .hello
  | .helloAck _ _ _ => .helloAck
  | .register _ _ _ => .register
  | .registerAck _ _ _ _ => .registerAck
  | .access _ _ _ _ _ _ _ => .access
  | .accessAck _ _ => .accessAck
  | .result _ _ => .result

def encode : Command → Bytes
  | .hello role => encodeHello role
  | .helloAck boot epoch node => encodeHelloAck boot epoch node
  | .register d domain backend => encodeRegister d domain backend
  | .registerAck ok reg keygen msg => encodeRegisterAck ok reg keygen msg
  | .access reg off len kind mask boot expkeygen => encodeAccess reg off len kind mask boot expkeygen
  | .accessAck outcome msg => encodeAccessAck outcome msg
  | .result ok msg => encodeResult ok msg

/-- The strings are within the bounds of the decoders. -/
def Bounded : Command → Prop
  | .hello role => role.length ≤ 64
  | .registerAck _ _ _ msg | .accessAck _ msg | .result _ msg => msg.length ≤ 4096
  | _ => True

instance : DecidablePred Bounded
  | .hello role => inferInstanceAs (Decidable (role.length ≤ 64))
  | .registerAck _ _ _ msg | .accessAck _ msg | .result _ msg => inferInstanceAs (Decidable (msg.length ≤ 4096))
  | .helloAck _ _ _ | .register _ _ _ | .access _ _ _ _ _ _ _ => inferInstanceAs (Decidable True)

/-- The flag a command has, if it has one. -/
def flag : Command → Option Bool
  | .registerAck ok _ _ _ | .result ok _ => some ok
  | _ => none

/-- The payload with another byte in the place of the flag. -/
def withFlagByte : Command → UInt8 → Bytes
  | .registerAck _ reg keygen msg, o => putU8 o ++ putU64 reg ++ putU64 keygen ++ putStr msg
  | .result _ msg, o => putU8 o ++ putStr msg
  | c, _ => c.encode

end Command

/-- The decoder of the kind. -/
def PayloadKind.decode (p : Bytes) : PayloadKind → Option Command
  | .hello => (decodeHello p).map .hello
  | .helloAck => (decodeHelloAck p).map fun (boot, epoch, node) => .helloAck boot epoch node
  | .register => (decodeRegister p).map fun (d, domain, backend) => .register d domain backend
  | .registerAck => (decodeRegisterAck p).map fun (ok, reg, keygen, msg) => .registerAck ok reg keygen msg
  | .access => (decodeAccess p).map fun (reg, off, len, kind, mask, boot, expkeygen) =>
      .access reg off len kind mask boot expkeygen
  | .accessAck => (decodeAccessAck p).map fun (outcome, msg) => .accessAck outcome msg
  | .result => (decodeResult p).map fun (ok, msg) => .result ok msg

/-! ## What the decoders accept -/

theorem fields_eq_some {α : Type} {r : Reader α} {p : Bytes} {a : α} :
    fields r p = some a ↔ ∃ rest, r p = some (a, rest) := by
  unfold fields
  rw [Option.map_eq_some_iff]
  constructor
  · rintro ⟨⟨_, rest⟩, h, rfl⟩
    exact ⟨rest, h⟩
  · rintro ⟨rest, h⟩
    exact ⟨(a, rest), h, rfl⟩

theorem pure_eq_some {α : Type} {a b : α} {bs rest : Bytes} :
    (pure a : Reader α) bs = some (b, rest) ↔ a = b ∧ bs = rest := by
  constructor
  · intro h
    cases h
    exact ⟨rfl, rfl⟩
  · rintro ⟨rfl, rfl⟩
    rfl

theorem getStr_eq_some {m : Nat} (hm : m < 2 ^ 64) {bs rest : Bytes} {s : StdString} :
    getStr m bs = some (s, rest) ↔ s.length ≤ m ∧ bs = putStr s ++ rest :=
  getStr_exactOn hm bs s rest

section

variable {p : Bytes}

theorem decodeHello_iff {role : StdString} :
    decodeHello p = some role ↔ role.length ≤ 64 ∧ ∃ rest, p = encodeHello role ++ rest := by
  unfold decodeHello encodeHello
  simp only [fields_eq_some, getStr_eq_some (m := 64) (by decide), exists_and_left]

theorem decodeHelloAck_iff {boot epoch node : UInt64} :
    decodeHelloAck p = some (boot, epoch, node) ↔ ∃ rest, p = encodeHelloAck boot epoch node ++ rest := by
  unfold decodeHelloAck encodeHelloAck
  simp only [fields_eq_some, bind_eq_some, Exact.read_iff, pure_eq_some, Prod.mk.injEq, List.append_assoc]
  constructor
  · rintro ⟨rest, _, _, rfl, _, _, rfl, _, _, rfl, ⟨rfl, rfl, rfl⟩, rfl⟩
    exact ⟨_, rfl⟩
  · rintro ⟨rest, rfl⟩
    exact ⟨rest, _, _, rfl, _, _, rfl, _, _, rfl, ⟨rfl, rfl, rfl⟩, rfl⟩

theorem decodeRegister_iff {d : BufferDescriptor} {domain backend : UInt64} :
    decodeRegister p = some (d, domain, backend) ↔ ∃ rest, p = encodeRegister d domain backend ++ rest := by
  unfold decodeRegister encodeRegister
  simp only [fields_eq_some, bind_eq_some, Exact.read_iff, pure_eq_some, Prod.mk.injEq, List.append_assoc]
  constructor
  · rintro ⟨rest, _, _, hdomain, _, _, hbackend, _, tail, hd, ⟨rfl, rfl, rfl⟩, -⟩
    exact ⟨tail, by rw [hdomain, hbackend, hd]⟩
  · rintro ⟨rest, hp⟩
    exact ⟨rest, domain, _, hp, backend, _, rfl, d, rest, rfl, ⟨rfl, rfl, rfl⟩, rfl⟩

theorem decodeRegisterAck_iff {ok : Bool} {reg keygen : UInt64} {msg : StdString} :
    decodeRegisterAck p = some (ok, reg, keygen, msg) ↔
      msg.length ≤ 4096 ∧ ∃ o rest, (o != 0) = ok ∧
        p = putU8 o ++ putU64 reg ++ putU64 keygen ++ putStr msg ++ rest := by
  unfold decodeRegisterAck
  simp only [fields_eq_some, bind_eq_some, Exact.read_iff, getStr_eq_some (m := 4096) (by decide), pure_eq_some,
    Prod.mk.injEq, List.append_assoc]
  constructor
  · rintro ⟨rest, o, _, rfl, _, _, rfl, _, _, rfl, _, _, ⟨hmsg, rfl⟩, ⟨ho, rfl, rfl, rfl⟩, rfl⟩
    exact ⟨hmsg, o, _, ho, rfl⟩
  · rintro ⟨hmsg, o, rest, ho, rfl⟩
    exact ⟨rest, o, _, rfl, _, _, rfl, _, _, rfl, _, _, ⟨hmsg, rfl⟩, ⟨ho, rfl, rfl, rfl⟩, rfl⟩

theorem decodeAccess_iff {reg off len kind : UInt64} {mask : UInt8} {boot expkeygen : UInt64} :
    decodeAccess p = some (reg, off, len, kind, mask, boot, expkeygen) ↔
      ∃ rest, p = encodeAccess reg off len kind mask boot expkeygen ++ rest := by
  unfold decodeAccess encodeAccess
  simp only [fields_eq_some, bind_eq_some, Exact.read_iff, pure_eq_some, Prod.mk.injEq, List.append_assoc]
  constructor
  · rintro ⟨rest, _, _, rfl, _, _, rfl, _, _, rfl, _, _, rfl, _, _, rfl, _, _, rfl, _, _, rfl,
      ⟨rfl, rfl, rfl, rfl, rfl, rfl, rfl⟩, rfl⟩
    exact ⟨_, rfl⟩
  · rintro ⟨rest, rfl⟩
    exact ⟨rest, _, _, rfl, _, _, rfl, _, _, rfl, _, _, rfl, _, _, rfl, _, _, rfl, _, _, rfl,
      ⟨rfl, rfl, rfl, rfl, rfl, rfl, rfl⟩, rfl⟩

theorem decodeAccessAck_iff {outcome : UInt8} {msg : StdString} :
    decodeAccessAck p = some (outcome, msg) ↔
      msg.length ≤ 4096 ∧ ∃ rest, p = encodeAccessAck outcome msg ++ rest := by
  unfold decodeAccessAck encodeAccessAck
  simp only [fields_eq_some, bind_eq_some, Exact.read_iff, getStr_eq_some (m := 4096) (by decide), pure_eq_some,
    Prod.mk.injEq, List.append_assoc]
  constructor
  · rintro ⟨rest, _, _, rfl, _, _, ⟨hmsg, rfl⟩, ⟨rfl, rfl⟩, rfl⟩
    exact ⟨hmsg, _, rfl⟩
  · rintro ⟨hmsg, rest, rfl⟩
    exact ⟨rest, _, _, rfl, _, _, ⟨hmsg, rfl⟩, ⟨rfl, rfl⟩, rfl⟩

theorem decodeResult_iff {ok : Bool} {msg : StdString} :
    decodeResult p = some (ok, msg) ↔
      msg.length ≤ 4096 ∧ ∃ o rest, (o != 0) = ok ∧ p = putU8 o ++ putStr msg ++ rest := by
  unfold decodeResult
  simp only [fields_eq_some, bind_eq_some, Exact.read_iff, getStr_eq_some (m := 4096) (by decide), pure_eq_some,
    Prod.mk.injEq, List.append_assoc]
  constructor
  · rintro ⟨rest, o, _, rfl, _, _, ⟨hmsg, rfl⟩, ⟨ho, rfl⟩, rfl⟩
    exact ⟨hmsg, o, _, ho, rfl⟩
  · rintro ⟨hmsg, o, rest, ho, rfl⟩
    exact ⟨rest, o, _, rfl, _, _, ⟨hmsg, rfl⟩, ⟨ho, rfl⟩, rfl⟩

end

/-- The flag byte is read as the flag. -/
def Command.FlagByte (c : Command) (o : UInt8) : Prop :=
  ∀ ok, c.flag = some ok → (o != 0) = ok

/-- A command without a flag is encoded with any byte. -/
theorem Command.exists_flagByte {c : Command} (hc : c.flag = none) {q : Bytes → Prop} :
    (∃ o rest, c.FlagByte o ∧ q rest) ↔ ∃ rest, q rest := by
  constructor
  · rintro ⟨o, rest, -, h⟩
    exact ⟨rest, h⟩
  · rintro ⟨rest, h⟩
    refine ⟨0, rest, fun ok hok => ?_, h⟩
    rw [hc] at hok
    cases hok

/-- What a decoder accepts begins with the encoding of a command of its kind, within the bounds and with some flag
byte. -/
theorem of_decode {k : PayloadKind} {p : Bytes} {c : Command} (h : k.decode p = some c) :
    c.payloadKind = k ∧ c.Bounded ∧ ∃ o rest, c.FlagByte o ∧ p = c.withFlagByte o ++ rest := by
  cases k with
  | hello =>
    obtain ⟨role, hd, rfl⟩ := Option.map_eq_some_iff.1 h
    obtain ⟨hb, hp⟩ := decodeHello_iff.1 hd
    exact ⟨rfl, hb, (Command.exists_flagByte rfl).2 hp⟩
  | helloAck =>
    obtain ⟨⟨boot, epoch, node⟩, hd, rfl⟩ := Option.map_eq_some_iff.1 h
    exact ⟨rfl, trivial, (Command.exists_flagByte rfl).2 (decodeHelloAck_iff.1 hd)⟩
  | register =>
    obtain ⟨⟨d, domain, backend⟩, hd, rfl⟩ := Option.map_eq_some_iff.1 h
    exact ⟨rfl, trivial, (Command.exists_flagByte rfl).2 (decodeRegister_iff.1 hd)⟩
  | registerAck =>
    obtain ⟨⟨ok, reg, keygen, msg⟩, hd, rfl⟩ := Option.map_eq_some_iff.1 h
    obtain ⟨hb, o, rest, ho, hp⟩ := decodeRegisterAck_iff.1 hd
    exact ⟨rfl, hb, o, rest, fun _ hok => ho.trans (Option.some.inj hok), hp⟩
  | access =>
    obtain ⟨⟨reg, off, len, kind, mask, boot, expkeygen⟩, hd, rfl⟩ := Option.map_eq_some_iff.1 h
    exact ⟨rfl, trivial, (Command.exists_flagByte rfl).2 (decodeAccess_iff.1 hd)⟩
  | accessAck =>
    obtain ⟨⟨outcome, msg⟩, hd, rfl⟩ := Option.map_eq_some_iff.1 h
    obtain ⟨hb, hp⟩ := decodeAccessAck_iff.1 hd
    exact ⟨rfl, hb, (Command.exists_flagByte rfl).2 hp⟩
  | result =>
    obtain ⟨⟨ok, msg⟩, hd, rfl⟩ := Option.map_eq_some_iff.1 h
    obtain ⟨hb, o, rest, ho, hp⟩ := decodeResult_iff.1 hd
    exact ⟨rfl, hb, o, rest, fun _ hok => ho.trans (Option.some.inj hok), hp⟩

/-- Bytes behind the last field are not looked at. -/
theorem decode_withFlagByte {c : Command} (hb : c.Bounded) {o : UInt8} (ho : c.FlagByte o) {p rest : Bytes}
    (hp : p = c.withFlagByte o ++ rest) : c.payloadKind.decode p = some c := by
  cases c with
  | hello role => exact Option.map_eq_some_iff.2 ⟨role, decodeHello_iff.2 ⟨hb, rest, hp⟩, rfl⟩
  | helloAck boot epoch node =>
    exact Option.map_eq_some_iff.2 ⟨(boot, epoch, node), decodeHelloAck_iff.2 ⟨rest, hp⟩, rfl⟩
  | register d domain backend =>
    exact Option.map_eq_some_iff.2 ⟨(d, domain, backend), decodeRegister_iff.2 ⟨rest, hp⟩, rfl⟩
  | registerAck ok reg keygen msg =>
    exact Option.map_eq_some_iff.2
      ⟨(ok, reg, keygen, msg), decodeRegisterAck_iff.2 ⟨hb, o, rest, ho ok rfl, hp⟩, rfl⟩
  | access reg off len kind mask boot expkeygen =>
    exact Option.map_eq_some_iff.2
      ⟨(reg, off, len, kind, mask, boot, expkeygen), decodeAccess_iff.2 ⟨rest, hp⟩, rfl⟩
  | accessAck outcome msg =>
    exact Option.map_eq_some_iff.2 ⟨(outcome, msg), decodeAccessAck_iff.2 ⟨hb, rest, hp⟩, rfl⟩
  | result ok msg =>
    exact Option.map_eq_some_iff.2 ⟨(ok, msg), decodeResult_iff.2 ⟨hb, o, rest, ho ok rfl, hp⟩, rfl⟩

/-- A decoder accepts the encodings of its kind's commands within the bounds, whatever follows them, and takes any byte
but 0 for a true flag. -/
theorem decode_iff (k : PayloadKind) (p : Bytes) (c : Command) :
    k.decode p = some c ↔
      c.payloadKind = k ∧ c.Bounded ∧ ∃ o rest, c.FlagByte o ∧ p = c.withFlagByte o ++ rest := by
  constructor
  · exact of_decode
  · rintro ⟨rfl, hb, o, rest, ho, hp⟩
    exact decode_withFlagByte hb ho hp

/-! ## Commands survive the wire -/

/-- With a flag byte that an encoder writes it is the encoding. -/
theorem Command.withFlagByte_eq_encode {c : Command} {o : UInt8} (ho : c.FlagByte o) (hle : c.flag ≠ none → o ≤ 1) :
    c.withFlagByte o = c.encode := by
  have hbyte : ∀ ok : Bool, (o != 0) = ok → o ≤ 1 → o = if ok then 1 else 0 := by
    rintro ok rfl hle
    have hnat : o.toNat ≤ 1 := UInt8.le_iff_toNat_le.1 hle
    by_cases h0 : o = 0
    · rw [h0]
      rfl
    · have hne : o.toNat ≠ 0 := fun h => h0 (UInt8.toNat_inj.1 h)
      rw [bne_iff_ne.2 h0]
      exact UInt8.toNat_inj.1 (by rw [if_pos rfl, UInt8.toNat_one]; omega)
  cases c with
  | registerAck ok reg keygen msg =>
    rw [hbyte ok (ho ok rfl) (hle (Option.some_ne_none ok))]
    rfl
  | result ok msg =>
    rw [hbyte ok (ho ok rfl) (hle (Option.some_ne_none ok))]
    rfl
  | _ => rfl

/-- Whatever its flag byte, a payload is read, as a command of the kind. -/
theorem Command.exists_flagged (c : Command) (o : UInt8) :
    ∃ c' : Command, c'.payloadKind = c.payloadKind ∧ (c.Bounded → c'.Bounded) ∧ c'.FlagByte o ∧
      (c'.flag = none ↔ c.flag = none) ∧ c'.withFlagByte o = c.withFlagByte o := by
  cases c with
  | registerAck ok reg keygen msg =>
    exact ⟨.registerAck (o != 0) reg keygen msg, rfl, id, fun _ hok => Option.some.inj hok, by simp [flag], rfl⟩
  | result ok msg => exact ⟨.result (o != 0) msg, rfl, id, fun _ hok => Option.some.inj hok, by simp [flag], rfl⟩
  | _ =>
    refine ⟨_, rfl, id, fun ok hok => ?_, Iff.rfl, rfl⟩
    cases hok

/-- The encoding has the flag byte of the flag. -/
theorem Command.exists_encode (c : Command) : ∃ o, c.FlagByte o ∧ c.encode = c.withFlagByte o := by
  have hbyte : c.FlagByte (if c.flag = some true then 1 else 0) := by
    intro ok hok
    rw [hok]
    cases ok <;> rfl
  refine ⟨_, hbyte, (Command.withFlagByte_eq_encode hbyte fun _ => ?_).symm⟩
  split <;> decide

theorem decode_encode {c : Command} (hc : c.Bounded) : c.payloadKind.decode c.encode = some c := by
  obtain ⟨o, ho, hword⟩ := c.exists_encode
  exact (decode_iff _ _ _).2 ⟨rfl, hc, o, [], ho, by rw [List.append_nil, hword]⟩

theorem length_putStr (s : StdString) : (putStr s).length = 8 + s.length := by
  rw [putStr, List.length_append, putSize, length_putU64]

/-- The payload of a command fits into a frame. -/
theorem length_encode_le {c : Command} (hc : c.Bounded) : c.encode.length ≤ Protocol.maxPayload := by
  have hmax : Protocol.maxPayload = 16777216 := rfl
  rw [hmax]
  cases c with
  | hello role =>
    have hrole : role.length ≤ 64 := hc
    simp only [Command.encode, encodeHello, length_putStr]
    omega
  | helloAck boot epoch node => simp [Command.encode, encodeHelloAck, length_putU64]
  | register d domain backend =>
    simp [Command.encode, encodeRegister, length_putU64, writeDescriptor_eq, length_encodeDescriptor]
  | registerAck ok reg keygen msg =>
    have hmsg : msg.length ≤ 4096 := hc
    simp only [Command.encode, encodeRegisterAck, length_putStr, length_putU64, length_putU8, List.length_append]
    omega
  | access reg off len kind mask boot expkeygen =>
    simp [Command.encode, encodeAccess, length_putU64, length_putU8]
  | accessAck outcome msg =>
    have hmsg : msg.length ≤ 4096 := hc
    simp only [Command.encode, encodeAccessAck, length_putStr, length_putU8, List.length_append]
    omega
  | result ok msg =>
    have hmsg : msg.length ≤ 4096 := hc
    simp only [Command.encode, encodeResult, length_putStr, length_putU8, List.length_append]
    omega

/-- Commands survive the wire: a frame that carries the encoding of a command is decoded to a frame of that kind and
number, whatever follows it, and the decoder of the command returns its arguments. -/
theorem commands_survive (kind : Protocol.MessageKind) (seq : UInt64) (c : Command) (trailing : Bytes)
    (hunknown : kind ≠ .unknown) (hmax : kind ≠ .max) (hc : c.Bounded) :
    ∃ f consumed, Protocol.decodeFrame (Protocol.encodeFrame kind seq c.encode ++ trailing) = .ok (f, consumed) ∧
      f.kind = kind ∧ f.seq = seq ∧ consumed = (Protocol.encodeFrame kind seq c.encode).length ∧
      c.payloadKind.decode f.payload = some c := by
  let f : Protocol.Frame := { kind, seq, payload := c.encode }
  have hf : f.Valid := ⟨hunknown, hmax, length_encode_le hc⟩
  exact ⟨f, _, Protocol.decodeFrame_encode hf trailing, rfl, rfl, (Protocol.Frame.length_encode hf.payload).symm,
    decode_encode hc⟩

/-- A result with a message arrives, with other bytes behind its frame. -/
theorem commands_survive_result :
    ∃ f consumed, Protocol.decodeFrame
        (Protocol.encodeFrame .ok 7 (Command.result true (lit "done")).encode ++ [1, 2, 3]) = .ok (f, consumed) ∧
      f.kind = .ok ∧ f.seq = 7 ∧
      consumed = (Protocol.encodeFrame .ok 7 (Command.result true (lit "done")).encode).length ∧
      PayloadKind.decode f.payload .result = some (Command.result true (lit "done")) :=
  commands_survive .ok 7 (.result true (lit "done")) [1, 2, 3] (by decide) (by decide) (by decide)

/-! ## Payloads no encoder writes -/

/-- The decoder accepts the payload only if it is the encoding of what it reads; with bytes behind the last field or
a flag byte other than 0 and 1 it is rejected. -/
structure CanonicalAt (k : PayloadKind) (p : Bytes) : Prop where
  reencodes : ∀ c, k.decode p = some c → c.encode = p
  trailing : ∀ c : Command, ∀ rest, c.payloadKind = k → c.Bounded → rest ≠ [] → p = c.encode ++ rest → k.decode p = none
  flag : ∀ c : Command, ∀ o rest, c.payloadKind = k → c.Bounded → c.flag ≠ none → 1 < o →
    p = c.withFlagByte o ++ rest → k.decode p = none

/-- The payload has all the fields of its kind, within their bounds, and bytes behind the last one, or a flag byte
other than 0 and 1. -/
def Loose (k : PayloadKind) (p : Bytes) : Prop :=
  ∃ c : Command, ∃ o rest, c.payloadKind = k ∧ c.Bounded ∧ p = c.withFlagByte o ++ rest ∧
    (rest ≠ [] ∨ (c.flag ≠ none ∧ 1 < o))

/-- Payload decoders accept only what the encoders produce, except loose payloads. -/
theorem canonicalAt_iff (k : PayloadKind) (p : Bytes) : CanonicalAt k p ↔ ¬Loose k p := by
  constructor
  · rintro h ⟨c, o, rest, hk, hb, hp, hloose⟩
    obtain ⟨c', hk', hb', ho, hflag, hword⟩ := c.exists_flagged o
    have hread : k.decode p = some c' :=
      (decode_iff k p c').2 ⟨hk'.trans hk, hb' hb, o, rest, ho, by rw [hp, hword]⟩
    by_cases hbad : c.flag ≠ none ∧ 1 < o
    · rw [h.flag c o rest hk hb hbad.1 hbad.2 hp] at hread
      cases hread
    · have hle : c'.flag ≠ none → o ≤ 1 := fun hne => by
        by_contra hgt
        exact hbad ⟨fun hnone => hne (hflag.2 hnone), UInt8.not_le.1 hgt⟩
      have hp' : p = c'.encode ++ rest := by rw [hp, ← hword, Command.withFlagByte_eq_encode ho hle]
      rw [h.trailing c' rest (hk'.trans hk) (hb' hb) (hloose.resolve_right hbad) hp'] at hread
      cases hread
  · intro h
    constructor
    · intro c hc
      obtain ⟨hk, hb, o, rest, ho, hp⟩ := (decode_iff k p c).1 hc
      have hrest : rest = [] := by
        by_contra hne
        exact h ⟨c, o, rest, hk, hb, hp, .inl hne⟩
      have hle : c.flag ≠ none → o ≤ 1 := fun hflag => by
        by_contra hgt
        exact h ⟨c, o, rest, hk, hb, hp, .inr ⟨hflag, UInt8.not_le.1 hgt⟩⟩
      rw [hp, hrest, List.append_nil, Command.withFlagByte_eq_encode ho hle]
    · intro c rest hk hb hne hp
      obtain ⟨o, -, hword⟩ := c.exists_encode
      exact absurd ⟨c, o, rest, hk, hb, hword ▸ hp, .inl hne⟩ h
    · intro c o rest hk hb hflag hgt hp
      exact absurd ⟨c, o, rest, hk, hb, hp, .inr ⟨hflag, hgt⟩⟩ h

/-- A byte behind the last field is ignored, and any flag byte but 0 is taken for true. -/
theorem loose_payloads_accepted :
    ¬CanonicalAt .helloAck (encodeHelloAck 1 1 1 ++ [0]) ∧ ¬CanonicalAt .result (putU8 2 ++ putStr (lit "done")) := by
  constructor
  · intro h
    have hrejected := h.trailing (.helloAck 1 1 1) [0] rfl trivial (List.cons_ne_nil 0 []) rfl
    have haccepted : (PayloadKind.decode (encodeHelloAck 1 1 1 ++ [0]) .helloAck).isSome = true := by decide +kernel
    rw [hrejected] at haccepted
    cases haccepted
  · intro h
    have hrejected := h.flag (.result true (lit "done")) 2 [] rfl (by decide) (Option.some_ne_none true) (by decide)
      (List.append_nil _).symm
    have haccepted : (PayloadKind.decode (putU8 2 ++ putStr (lit "done")) .result).isSome = true := by decide +kernel
    rw [hrejected] at haccepted
    cases haccepted

end Wire

end RdmaBuffer
