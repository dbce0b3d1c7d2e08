/-
Framing is exact: the decoder accepts the encodings of frames with a known kind and a bounded payload, with
anything behind them, and takes a stream of them apart into the frames it was made of.
-/
import RdmaBuffer.Persistence.Acceptance
import RdmaBuffer.Protocol.Frame

namespace RdmaBuffer

namespace Protocol

open Codec Persistence

/-! ## Kinds -/

namespace MessageKind

theorem ofU32_toU32 (kind : MessageKind) : ofU32 kind.toU32 = kind := by
  cases kind <;> rfl

theorem toU32_ofNat : ∀ n < 26, (ofU32 (UInt32.ofNat n)).toU32 = UInt32.ofNat n := by
  decide

theorem toU32_ofU32 {u : UInt32} (h : u < max.toU32) : (ofU32 u).toU32 = u := by
  have hlt : u.toNat < 25 := UInt32.lt_iff_toNat_lt.1 h
  have := toU32_ofNat u.toNat (by omega)
  rwa [UInt32.ofNat_toNat] at this

theorem toU32_eq_zero {kind : MessageKind} : kind.toU32 = 0 ↔ kind = .unknown := by
  cases kind <;> decide

theorem max_le_toU32 {kind : MessageKind} : kind.toU32 ≥ max.toU32 ↔ kind = .max := by
  cases kind <;> decide

end MessageKind

/-! ## Frames -/

instance : Exact get32 put32 := inferInstanceAs (Exact getU32 putU32)

instance : Exact get64 put64 := inferInstanceAs (Exact getU64 putU64)

/-- The bytes of a header. -/
def headerBytes (kindu : UInt32) (seq len : UInt64) : Bytes :=
  put32 frameMagic ++ (put32 frameVersion ++ (put32 kindu ++ (put64 seq ++ put64 len)))

theorem length_headerBytes (kindu : UInt32) (seq len : UInt64) : (headerBytes kindu seq len).length = headerSize := by
  simp [headerBytes, put32, put64, headerSize]

/-- The header is its five fields, read off in this order. -/
theorem headerBytes_append (kindu : UInt32) (seq len : UInt64) (tail : Bytes) :
    headerBytes kindu seq len ++ tail =
      put32 frameMagic ++ (put32 frameVersion ++ (put32 kindu ++ (put64 seq ++ (put64 len ++ tail)))) := by
  simp only [headerBytes, List.append_assoc]

theorem drop_headerBytes (kindu : UInt32) (seq len : UInt64) (tail : Bytes) (n : Nat) :
    (headerBytes kindu seq len ++ tail).drop (headerSize + n) = tail.drop n := by
  rw [← List.drop_drop, List.drop_left' (length_headerBytes kindu seq len)]

theorem take_headerBytes (kindu : UInt32) (seq len : UInt64) (tail : Bytes) (n : Nat) :
    (headerBytes kindu seq len ++ tail).take (headerSize + n) = headerBytes kindu seq len ++ tail.take n := by
  rw [← length_headerBytes kindu seq len, List.take_length_add_append]

namespace Frame

/-- A frame the protocol carries. -/
structure Valid (f : Frame) : Prop where
  known : f.kind ≠ .unknown
  max : f.kind ≠ .max
  payload : f.payload.length ≤ maxPayload

def encode (f : Frame) : Bytes := encodeFrame f.kind f.seq f.payload

/-- The bytes in front of the payload. -/
def header (f : Frame) : Bytes := headerBytes f.kind.toU32 f.seq (UInt64.ofNat f.payload.length)

theorem encode_eq {f : Frame} (h : f.payload.length ≤ maxPayload) : f.encode = sealed (f.header ++ f.payload) := by
  rw [encode, encodeFrame, if_neg (by omega)]
  simp only [header, headerBytes, sealed, List.append_assoc]
  rfl

theorem length_encode {f : Frame} (h : f.payload.length ≤ maxPayload) : f.encode.length = 32 + f.payload.length := by
  rw [encode_eq h, length_sealed, List.length_append, header, length_headerBytes, headerSize]
  omega

end Frame

/-- The decoder by what it reads: a header with a known kind and a bounded length, that many bytes, and their
checksum. -/
theorem decodeFrame_eq_ok {data : Bytes} {x : Frame × Nat} :
    decodeFrame data = .ok x ↔
      ∃ kindu seq len tail rest, data = headerBytes kindu seq len ++ tail ∧
        kindu < MessageKind.max.toU32 ∧ kindu ≠ 0 ∧ len.toNat ≤ maxPayload ∧ len.toNat ≤ tail.length ∧
        tail.drop len.toNat = put32 (crc32 (headerBytes kindu seq len ++ tail.take len.toNat)) ++ rest ∧
        x = ({ kind := MessageKind.ofU32 kindu, seq, payload := tail.take len.toNat }, headerSize + len.toNat + 4) := by
  unfold decodeFrame
  simp only [bind_eq_ok, throw_bind, ite_throw_eq_ok, orErr_eq_ok, Prod.exists, Exact.read_iff]
  constructor
  · -- the five fields are read off the front; `tail` is what is behind them
    rintro ⟨-, magic, _, rfl, version, _, rfl, kindu, _, rfl, seq, _, rfl, len, tail, rfl, hmagic, hversion, hkind,
      hlen, htotal, expected, rest, htrailer, hcrc, hf⟩
    obtain rfl := Decidable.not_not.1 hmagic
    obtain rfl := Decidable.not_not.1 hversion
    obtain rfl := Decidable.not_not.1 hcrc
    rw [← headerBytes_append] at htotal htrailer hf ⊢
    rw [drop_headerBytes, take_headerBytes] at htrailer
    rw [List.drop_left' (length_headerBytes ..)] at hf
    rw [List.length_append, length_headerBytes] at htotal
    cases hf
    exact ⟨kindu, seq, len, tail, rest, rfl, UInt32.not_le.1 fun hle => hkind (.inl hle), fun h0 => hkind (.inr h0),
      by omega, by omega, htrailer, rfl⟩
  · rintro ⟨kindu, seq, len, tail, rest, rfl, hmax, h0, hlen, htail, htrailer, rfl⟩
    -- the trailer is there, so the data is long enough for the whole frame
    have hrest : 4 ≤ (tail.drop len.toNat).length := by
      rw [htrailer]
      simp [put32]
    rw [List.length_drop] at hrest
    refine ⟨?_, frameMagic, _, headerBytes_append kindu seq len tail, frameVersion, _, rfl, kindu, _, rfl, seq, _, rfl,
      len, tail, rfl, ?_, ?_, ?_,
      by omega, ?_, crc32 (headerBytes kindu seq len ++ tail.take len.toNat), rest, ?_, ?_, ?_⟩
    · simp [length_headerBytes]
    · exact not_not_intro rfl
    · exact not_not_intro rfl
    · rintro (hle | h)
      · exact UInt32.not_le.2 hmax hle
      · exact h0 h
    · rw [List.length_append, length_headerBytes]
      omega
    · rw [drop_headerBytes, htrailer]
    · rw [take_headerBytes]
      exact not_not_intro rfl
    · rw [List.drop_left' (length_headerBytes ..)]
      rfl

/-- A frame is decoded exactly where its encoding stands in front. -/
theorem decodeFrame_iff {data : Bytes} {f : Frame} {consumed : Nat} :
    decodeFrame data = .ok (f, consumed) ↔
      f.Valid ∧ (∃ rest, data = f.encode ++ rest) ∧ consumed = 32 + f.payload.length := by
  rw [decodeFrame_eq_ok]
  constructor
  · rintro ⟨kindu, seq, len, tail, rest, rfl, hmax, h0, hlen, htail, htrailer, hf⟩
    have hkind := MessageKind.toU32_ofU32 hmax
    have hpayload : (tail.take len.toNat).length = len.toNat := List.length_take_of_le htail
    have hbound : (tail.take len.toNat).length ≤ maxPayload := by omega
    cases hf
    refine ⟨⟨?_, ?_, hbound⟩, ⟨rest, ?_⟩, ?_⟩
    · intro h
      rw [← MessageKind.toU32_eq_zero, hkind] at h
      exact h0 h
    · intro h
      rw [← MessageKind.max_le_toU32, hkind] at h
      exact UInt32.not_le.2 hmax h
    · -- payload and trailer together are `tail`
      rw [Frame.encode_eq hbound, Frame.header, hkind, hpayload, UInt64.ofNat_toNat, sealed]
      rw [List.append_assoc, List.append_assoc]
      show _ = headerBytes kindu seq len ++
        (tail.take len.toNat ++ (put32 (crc32 (headerBytes kindu seq len ++ tail.take len.toNat)) ++ rest))
      rw [← htrailer, List.take_append_drop]
    · rw [hpayload, headerSize]
      omega
  · rintro ⟨hvalid, ⟨rest, rfl⟩, rfl⟩
    have hlen : f.payload.length < 2 ^ 64 := Nat.lt_of_le_of_lt hvalid.payload (by decide)
    have hsize : (UInt64.ofNat f.payload.length).toNat = f.payload.length := toNat_ofNat hlen
    refine ⟨f.kind.toU32, f.seq, UInt64.ofNat f.payload.length,
      f.payload ++ (put32 (crc32 (f.header ++ f.payload)) ++ rest),
      rest, ?_, ?_, ?_, ?_, ?_, ?_, ?_⟩
    · rw [Frame.encode_eq hvalid.payload, sealed, List.append_assoc, List.append_assoc]
      rfl
    · exact UInt32.not_le.1 fun hle => hvalid.max (MessageKind.max_le_toU32.1 hle)
    · exact fun h0 => hvalid.known (MessageKind.toU32_eq_zero.1 h0)
    · rw [hsize]
      exact hvalid.payload
    · rw [hsize, List.length_append]
      omega
    · rw [hsize, List.drop_left' rfl, List.take_left' rfl]
      rfl
    · rw [hsize, List.take_left' rfl, MessageKind.ofU32_toU32, headerSize]
      simp only [Prod.mk.injEq, true_and]
      omega

theorem decodeFrame_encode {f : Frame} (h : f.Valid) (rest : Bytes) :
    decodeFrame (f.encode ++ rest) = .ok (f, 32 + f.payload.length) :=
  decodeFrame_iff.2 ⟨h, ⟨rest, rfl⟩, rfl⟩

theorem Frame.Valid.encode_ne_nil {f : Frame} (h : f.Valid) : f.encode ≠ [] := by
  intro hnil
  have hlen := Frame.length_encode h.payload
  rw [hnil, List.length_nil] at hlen
  omega

/-- Two frames with one beginning are one. -/
theorem Frame.Valid.eq_of_prefix {f g : Frame} (hf : f.Valid) (hg : g.Valid) (h : f.encode <+: g.encode) : f = g := by
  obtain ⟨rest, hrest⟩ := h
  have hdf := decodeFrame_iff.2 ⟨hf, ⟨rest, hrest.symm⟩, rfl⟩
  have hdg := decodeFrame_iff.2 ⟨hg, ⟨[], (List.append_nil g.encode).symm⟩, rfl⟩
  exact congrArg Prod.fst (Except.ok.inj (hdf.symm.trans hdg))

/-! ## Streams -/

/-- The frames of a stream: decode the first one, drop what it occupied, and go on until nothing is left; at most
`n` frames. -/
def decodeFrames : Nat → Bytes → Except StdString (List Frame)
  | _, [] => .ok []
  | 0, _ :: _ => .error (lit "TRUNCATED")
  | n + 1, b :: bs => do
    let (f, consumed) ← decodeFrame (b :: bs)
    let fs ← decodeFrames n ((b :: bs).drop consumed)
    pure (f :: fs)

theorem decodeFrames_succ {n : Nat} {data : Bytes} (h : data ≠ []) :
    decodeFrames (n + 1) data =
      decodeFrame data >>= fun x => decodeFrames n (data.drop x.2) >>= fun fs => pure (x.1 :: fs) := by
  cases data with
  | nil => exact absurd rfl h
  | cons b bs => rfl

theorem decodeFrames_encode {fs : List Frame} (h : ∀ f ∈ fs, f.Valid) {n : Nat} (hn : fs.length ≤ n) :
    decodeFrames n (fs.flatMap Frame.encode) = .ok fs := by
  induction fs generalizing n with
  | nil => cases n <;> rfl
  | cons f fs ih =>
    obtain _ | n := n
    · cases hn
    have hf := h f (List.mem_cons_self ..)
    have hlen := Frame.length_encode hf.payload
    have hne : f.encode ++ fs.flatMap Frame.encode ≠ [] := by
      intro he
      have := congrArg List.length he
      rw [List.length_append, List.length_nil] at this
      omega
    -- the first frame is consumed, and the rest of the stream is left
    rw [List.flatMap_cons, decodeFrames_succ hne, decodeFrame_encode hf]
    show (decodeFrames n ((f.encode ++ fs.flatMap Frame.encode).drop (32 + f.payload.length)) >>= _) = _
    rw [List.drop_left' hlen, ih (fun g hg => h g (List.mem_cons_of_mem f hg)) (Nat.le_of_succ_le_succ hn)]
    rfl

/-- No proper beginning of a frame is decoded. -/
theorem prefix_refused {f : Frame} (h : f.Valid) {p : Bytes} (hp : p <+: f.encode) (hne : p ≠ f.encode)
    (x : Frame × Nat) :
    decodeFrame p ≠ .ok x := by
  intro hx
  obtain ⟨g, consumed⟩ := x
  obtain ⟨hg, ⟨rest, rfl⟩, -⟩ := decodeFrame_iff.1 hx
  obtain ⟨ext, hext⟩ := hp
  -- the frame begins with the encoding of `g`, so it is `g`
  have hsame : decodeFrame (f.encode ++ []) = decodeFrame (g.encode ++ (rest ++ ext)) := by
    rw [List.append_nil, ← hext, List.append_assoc]
  rw [decodeFrame_encode h, decodeFrame_encode hg] at hsame
  cases hsame
  rw [List.append_assoc] at hext
  have hnil := List.append_right_eq_self.1 hext
  apply hne
  rw [(List.append_eq_nil_iff.1 hnil).1, List.append_nil]

/-- The decoder accepts what begins with the encoding of a frame the protocol carries, and returns the frame and
its length; a stream of frames is taken apart into its frames with nothing left, and no proper beginning of a
frame is accepted. -/
theorem framing_exact :
    (∀ data f consumed, decodeFrame data = .ok (f, consumed) ↔
      f.Valid ∧ (∃ rest, data = encodeFrame f.kind f.seq f.payload ++ rest) ∧ consumed = 32 + f.payload.length) ∧
    (∀ fs : List Frame, (∀ f ∈ fs, f.Valid) →
      ∀ n, fs.length ≤ n → decodeFrames n (fs.flatMap Frame.encode) = .ok fs) ∧
    ∀ f : Frame, f.Valid → ∀ p, p <+: f.encode → p ≠ f.encode → ∀ x, decodeFrame p ≠ .ok x := by
  refine ⟨?_, ?_, ?_⟩
  · intro data f consumed
    exact decodeFrame_iff
  · intro fs h n hn
    exact decodeFrames_encode h hn
  · intro f h p hp hne x
    exact prefix_refused h hp hne x

/-- A greeting. -/
def greeting : Frame := { kind := .hello, seq := 42, payload := lit "hello" }

theorem greeting_valid : greeting.Valid where
  known := by decide
  max := by decide
  payload := by decide

theorem framing_exact_greeting : decodeFrames 2 (greeting.encode ++ greeting.encode) = .ok [greeting, greeting] ∧
    decodeFrame [] ≠ .ok (greeting, 37) := by
  obtain ⟨-, hstream, hprefix⟩ := framing_exact
  constructor
  · have := hstream [greeting, greeting] (by simp [greeting_valid]) 2 (by decide)
    simpa using this
  · apply hprefix greeting greeting_valid [] (List.nil_prefix)
    decide

end Protocol

end RdmaBuffer
