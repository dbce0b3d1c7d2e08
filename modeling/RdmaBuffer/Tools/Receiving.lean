/-
Receiving frames: however recv cuts the stream, `recv_frame` returns the frame that the decoder finds in front of it and
takes no byte behind that frame.
-/
import RdmaBuffer.Protocol.Corruption
import RdmaBuffer.Tools.Sockets

namespace RdmaBuffer

namespace Tools

open Protocol Codec

variable {W : Type} {C : Program.Contract SysCall.Answer W} {s : Socket}

/-! ## The loops -/

/-- The rule for `recv_all`: `J got` is kept by every chunk. -/
theorem recvAllFrom_meets {n : Nat} {J : Bytes → W → Prop} {Q : Option Bytes → W → Prop}
    (hcall : ∀ got w, J got w → got.length < n → C.Calls w (.recv s (n - got.length)))
    (hfail : ∀ got w w', J got w → got.length < n → C.Answers w (.recv s (n - got.length)) none w' → Q none w')
    (hsome : ∀ got w x w', J got w → got.length < n → C.Answers w (.recv s (n - got.length)) (some x) w' →
      J (got ++ x.bytes) w')
    (hdone : ∀ got w, J got w → got.length = n → Q (some got) w)
    (got : Bytes) (w : W) (h : J got w) (hle : got.length ≤ n) : (recvAllFrom s n got).Meets C Q w := by
  rw [recvAllFrom]
  split
  · rename_i hlt
    refine ⟨hcall got w h hlt, fun r w' hr => ?_⟩
    cases r with
    | none => exact hfail got w w' h hlt hr
    | some x =>
      have hx := x.le
      have hpos := List.length_pos_iff.2 x.nonempty
      refine recvAllFrom_meets hcall hfail hsome hdone (got ++ x.bytes) w' (hsome got w x w' h hlt hr) ?_
      rw [List.length_append]
      omega
  · exact hdone got w h (by omega)
termination_by n - got.length
decreasing_by
  rw [List.length_append]
  omega

/-- The rule for `send_all`: `J k` is kept by every call that sends more. -/
theorem sendAllFrom_meets {bs : Bytes} {J : Nat → W → Prop} {Q : Bool → W → Prop}
    (hcall : ∀ k w, J k w → k < bs.length → C.Calls w (.send s (bs.drop k)))
    (hfail : ∀ k w w', J k w → k < bs.length → C.Answers w (.send s (bs.drop k)) none w' → Q false w')
    (hsome : ∀ k w r w', J k w → k < bs.length → C.Answers w (.send s (bs.drop k)) (some r) w' → J (k + r.count) w')
    (hdone : ∀ w, J bs.length w → Q true w)
    (k : Nat) (w : W) (h : J k w) (hle : k ≤ bs.length) : (sendAllFrom s bs k).Meets C Q w := by
  rw [sendAllFrom]
  split
  · rename_i hlt
    refine ⟨hcall k w h hlt, fun r w' hr => ?_⟩
    cases r with
    | none => exact hfail k w w' h hlt hr
    | some r =>
      have hle' : r.count ≤ bs.length - k := List.length_drop .. ▸ r.le
      have hpos := r.pos
      exact sendAllFrom_meets hcall hfail hsome hdone (k + r.count) w' (hsome k w r w' h hlt hr) (by omega)
  · obtain rfl : k = bs.length := by omega
    exact hdone w h
termination_by bs.length - k
decreasing_by omega

/-! ## Headers -/

theorem ofLeBytes_put32 (v : UInt32) : (ofLeBytes (put32 v)).toUInt32 = v := by
  have h : get32 (put32 v) = some (v, []) := (Exact.read_iff _ _ _).2 (List.append_nil _).symm
  have hraw : getRaw 4 (put32 v) = some (put32 v, []) := rfl
  rw [get32, bind_of_some hraw] at h
  exact congrArg Prod.fst (Option.some.inj h)

theorem ofLeBytes_put64 (v : UInt64) : ofLeBytes (put64 v) = v := by
  have h : get64 (put64 v) = some (v, []) := (Exact.read_iff _ _ _).2 (List.append_nil _).symm
  have hraw : getRaw 8 (put64 v) = some (put64 v, []) := rfl
  rw [get64, bind_of_some hraw] at h
  exact congrArg Prod.fst (Option.some.inj h)

theorem header32_append {hdr : Bytes} (rest : Bytes) {p : Nat} (h : p + 4 ≤ hdr.length) :
    header32 (hdr ++ rest) p = header32 hdr p := by
  unfold header32
  rw [List.drop_append_of_le_length (by omega), List.take_append_of_le_length (by rw [List.length_drop]; omega)]

theorem header64_append {hdr : Bytes} (rest : Bytes) {p : Nat} (h : p + 8 ≤ hdr.length) :
    header64 (hdr ++ rest) p = header64 hdr p := by
  unfold header64
  rw [List.drop_append_of_le_length (by omega), List.take_append_of_le_length (by rw [List.length_drop]; omega)]

/-- What the header of a frame says. -/
structure Announces (hdr : Bytes) (f : Frame) : Prop where
  magic : header32 hdr 0 = frameMagic
  version : header32 hdr 4 = frameVersion
  length : (header64 hdr 20).toNat = f.payload.length

theorem announces_encode {f : Frame} (h : f.Valid) (rest : Bytes) : Announces (f.encode ++ rest) f := by
  have hencode : f.encode ++ rest = put32 frameMagic ++ (put32 frameVersion ++ (put32 f.kind.toU32 ++
      (put64 f.seq ++ (put64 (UInt64.ofNat f.payload.length) ++
        (f.payload ++ (putU32 (crc32 (f.header ++ f.payload)) ++ rest)))))) := by
    rw [Frame.encode_eq h.payload, sealed]
    simp only [Frame.header, headerBytes, List.append_assoc]
  constructor
  · rw [hencode]
    exact ofLeBytes_put32 frameMagic
  · rw [hencode]
    exact ofLeBytes_put32 frameVersion
  · rw [header64, lengthField h.payload, ofLeBytes_put64]
    exact toNat_ofNat (Nat.lt_of_le_of_lt h.payload (by decide))

/-- The bytes at the front of a stream that begins with a frame announce the frame. -/
theorem Announces.of_prefix {f : Frame} (h : f.Valid) {got rest : Bytes} (hp : got <+: f.encode ++ rest)
    (hlen : headerSize ≤ got.length) : Announces got f := by
  obtain ⟨tail, ht⟩ := hp
  obtain ⟨hm, hv, hl⟩ := announces_encode h rest
  rw [headerSize] at hlen
  rw [← ht] at hm hv hl
  rw [header32_append tail (by omega)] at hm hv
  rw [header64_append tail (by omega)] at hl
  exact ⟨hm, hv, hl⟩

/-- No stream that begins with a frame begins with these bytes. -/
def Foreign (got : Bytes) : Prop := ∀ f : Frame, f.Valid → ∀ rest, ¬got <+: f.encode ++ rest

/-- The bytes end before the frame does that they announce. -/
def Short (got : Bytes) : Prop := got.length < headerSize ∨ got.length < headerSize + (header64 got 20).toNat + 4

theorem not_short_encode {f : Frame} (h : f.Valid) (rest : Bytes) : ¬Short (f.encode ++ rest) := by
  have hl := (announces_encode h rest).length
  have hlen := Frame.length_encode h.payload
  rintro (hs | hs)
  · rw [headerSize, List.length_append] at hs
    omega
  · rw [headerSize, List.length_append] at hs
    omega

theorem foreign_of_badheader {hdr : Bytes} (hlen : hdr.length = headerSize)
    (h : header32 hdr 0 ≠ frameMagic ∨ header32 hdr 4 ≠ frameVersion ∨ (header64 hdr 20).toNat > maxPayload) :
    Foreign hdr := by
  intro f hf rest hp
  have ha := Announces.of_prefix hf hp (Nat.le_of_eq hlen.symm)
  rcases h with h | h | h
  · exact h ha.magic
  · exact h ha.version
  · rw [ha.length] at h
    exact Nat.not_lt.2 hf.payload h

/-- As many bytes as they announce, taken together, are a frame or none that begins a stream. -/
theorem decodeFrame_announced {got : Bytes} (hlen : got.length = headerSize + (header64 got 20).toNat + 4) :
    (∃ f : Frame, f.Valid ∧ got = f.encode ∧ decodeFrame got = .ok (f, got.length)) ∨
      ∃ err, decodeFrame got = .error err ∧ Foreign got := by
  rw [headerSize] at hlen
  rcases hd : decodeFrame got with err | ⟨f, consumed⟩
  · refine .inr ⟨err, rfl, fun f hf rest hp => ?_⟩
    have ha := Announces.of_prefix hf hp (by rw [headerSize]; omega)
    have hl := Frame.length_encode hf.payload
    -- of the announced length, it is the whole encoding
    have hgot : got = f.encode := by
      obtain ⟨tail, ht⟩ := hp
      exact (List.append_inj ht (by rw [hlen, ha.length, hl]; omega)).1
    rw [decodeFrame_iff.2 ⟨hf, ⟨[], by rw [List.append_nil, hgot]⟩, rfl⟩] at hd
    cases hd
  · obtain ⟨hf, ⟨rest, hgot⟩, hconsumed⟩ := decodeFrame_iff.1 hd
    have ha := (announces_encode hf rest).length
    have hl := Frame.length_encode hf.payload
    rw [← hgot] at ha
    have hrest : rest = [] := by
      have hsum := congrArg List.length hgot
      rw [List.length_append] at hsum
      exact List.length_eq_zero_iff.1 (by omega)
    rw [hrest, List.append_nil] at hgot
    refine .inl ⟨f, hf, hgot, ?_⟩
    rw [hconsumed, hgot, hl]

/-! ## A whole frame -/

/-- The rule for `recv_frame`: `J got` is kept by every chunk, and `got` is what came in so far. -/
theorem recvFrame_meets {J : Bytes → W → Prop} {Q : Except StdString Frame → W → Prop}
    (hcall : ∀ got w n, J got w → Short got → 0 < n → C.Calls w (.recv s n))
    (hfail : ∀ got w n w', J got w → Short got → C.Answers w (.recv s n) none w' → Q (.error (lit "eof")) w')
    (hsome : ∀ got w n x w', J got w → Short got → C.Answers w (.recv s n) (some x) w' → J (got ++ x.bytes) w')
    (hok : ∀ f : Frame, ∀ w, f.Valid → J f.encode w → Q (.ok f) w)
    (hforeign : ∀ got err w, J got w → Foreign got → Q (.error err) w)
    (w : W) (h : J [] w) : (recvFrame s).Meets C Q w := by
  -- a part of the frame is received behind what is there; `short` says that the frame is not over within the part
  have part : ∀ (front : Bytes) (n : Nat) {P : Option Bytes → W → Prop},
      (∀ got, got.length < n → Short (front ++ got)) →
      (∀ w', Q (.error (lit "eof")) w' → P none w') →
      (∀ got w', J (front ++ got) w' → got.length = n → P (some got) w') →
      ∀ w, J front w → (recvAll s n).Meets C P w := by
    intro front n P hshort hnone hdone w hw
    refine recvAllFrom_meets (J := fun got w' => J (front ++ got) w') ?_ ?_ ?_ ?_ [] w ?_ (Nat.zero_le _)
    · exact fun got w' hJ hlt => hcall _ w' _ hJ (hshort got hlt) (by omega)
    · exact fun got w' w'' hJ hlt hr => hnone w'' (hfail _ w' _ w'' hJ (hshort got hlt) hr)
    · intro got w' x w'' hJ hlt hr
      rw [← List.append_assoc]
      exact hsome _ w' _ x w'' hJ (hshort got hlt) hr
    · exact fun got w' hJ hlen => hdone got w' hJ hlen
    · rwa [List.append_nil]
  unfold recvFrame
  rw [Program.meets_bind]
  refine part [] headerSize (fun got hlt => .inl hlt) (fun w' hq => hq) (fun hdr w₁ hJ hlen => ?_) w h
  rw [List.nil_append] at hJ
  dsimp only
  split
  · rename_i hbad
    exact hforeign hdr _ w₁ hJ (foreign_of_badheader hlen hbad)
  · have h64 : ∀ rest, header64 (hdr ++ rest) 20 = header64 hdr 20 := fun rest =>
      header64_append rest (by rw [hlen, headerSize])
    rw [Program.meets_bind]
    refine part hdr _ (fun got hlt => .inr ?_) (fun w' hq => hq) (fun body w₂ hJ hbody => ?_) w₁ hJ
    · rw [h64, List.length_append, hlen]
      omega
    dsimp only
    rw [Program.meets_bind]
    refine part (hdr ++ body) 4 (fun got hlt => .inr ?_) (fun w' hq => hq) (fun trailer w₃ hJ htrailer => ?_) w₂ hJ
    · rw [List.append_assoc, h64, List.length_append, List.length_append, hlen, hbody]
      omega
    dsimp only
    have hannounced : (hdr ++ body ++ trailer).length =
        headerSize + (header64 (hdr ++ body ++ trailer) 20).toNat + 4 := by
      rw [List.append_assoc, h64, List.length_append, List.length_append, hlen, hbody, htrailer]
      omega
    rcases decodeFrame_announced hannounced with ⟨f, hf, hgot, hd⟩ | ⟨err, hd, hforeign'⟩
    · rw [hd]
      exact hok f w₃ hf (hgot ▸ hJ)
    · rw [hd]
      exact hforeign _ err w₃ hJ hforeign'

/-! ## A stream -/

/-- The answers of recv on a connection that carries `data` and ends there. -/
inductive Delivers (s : Socket) : Bytes → (e : SysCall) → e.Answer → Bytes → Prop
  | bytes (n : Nat) (x : Chunk n) (rest : Bytes) : Delivers s (x.bytes ++ rest) (.recv s n) (some x) rest
  | eof (n : Nat) : Delivers s [] (.recv s n) none []

/-- A program that only receives from `s`, never nothing; the view is what is still to come. -/
def stream (s : Socket) : Program.Contract SysCall.Answer Bytes where
  Calls _ e := ∃ n, 0 < n ∧ e = .recv s n
  Answers := Delivers s

/-- However the stream is cut, `recv_frame` returns the frame that the decoder finds in front of it, if there is one, and
leaves what is behind the frame. -/
theorem recvFrame_exact (s : Socket) (data : Bytes) :
    (recvFrame s).Meets (stream s)
      (fun r rest => r.toOption = (decodeFrame data).toOption.map Prod.fst ∧ ∀ f, r = .ok f → data = f.encode ++ rest)
      data := by
  have refused : (∀ f : Frame, f.Valid → ∀ rest, data ≠ f.encode ++ rest) → ∀ err : StdString,
      (Except.error err : Except StdString Frame).toOption = (decodeFrame data).toOption.map Prod.fst := by
    intro h err
    rcases hd : decodeFrame data with e | ⟨f, consumed⟩
    · rfl
    · obtain ⟨hf, ⟨rest, hdata⟩, -⟩ := decodeFrame_iff.1 hd
      exact absurd hdata (h f hf rest)
  refine recvFrame_meets (J := fun got rest => data = got ++ rest) ?_ ?_ ?_ ?_ ?_ data rfl
  · exact fun got w n _ _ hn => ⟨n, hn, rfl⟩
  · intro got w n w' hJ hshort hr
    cases hr
    rw [List.append_nil] at hJ
    refine ⟨refused (fun f hf rest hdata => ?_) _, fun f h => by cases h⟩
    exact not_short_encode hf rest (hdata ▸ hJ ▸ hshort)
  · intro got w n x w' hJ _ hr
    cases hr
    rw [hJ, List.append_assoc]
  · intro f w hf hJ
    refine ⟨?_, fun f' h => by cases h; exact hJ⟩
    rw [decodeFrame_iff.2 ⟨hf, ⟨w, hJ⟩, rfl⟩]
    rfl
  · intro got err w hJ hforeign
    refine ⟨refused (fun f hf rest hdata => ?_) _, fun f h => by cases h⟩
    exact hforeign f hf rest ⟨w, by rw [← hJ, hdata]⟩

end Tools

end RdmaBuffer
