/-
Damage within four bytes. What the file parser and the frame decoder accept is a sealed body, and two sealed
bodies never differ within one window of four bytes.
-/
import RdmaBuffer.Persistence.RoundTrip
import RdmaBuffer.Protocol.Framing

namespace RdmaBuffer

namespace Protocol

open Codec Persistence

/-! ## Files -/

/-- An accepted file is a sealed body. -/
theorem sealed_of_parse {b : Bytes} {s : PersistableState} (h : parse b = .ok s) :
    ∃ body, body ≠ [] ∧ b = sealed body := by
  obtain ⟨w, rfl, -⟩ := parse_eq_ok.1 h
  refine ⟨header ++ w, ?_, rfl⟩
  intro he
  cases he

/-! ## Frames -/

theorem header_ne_nil (f : Frame) : f.header ++ f.payload ≠ [] := by
  intro he
  cases he

/-- The bytes of the length field. -/
theorem lengthField {f : Frame} (h : f.payload.length ≤ maxPayload) (rest : Bytes) :
    ((f.encode ++ rest).drop 20).take 8 = put64 (UInt64.ofNat f.payload.length) := by
  have hfront : (put32 frameMagic ++ (put32 frameVersion ++ (put32 f.kind.toU32 ++ put64 f.seq))).length = 20 := by
    simp [put32, put64]
  have hlen : (put64 (UInt64.ofNat f.payload.length)).length = 8 := length_leBytes 8 _
  have hencode : f.encode ++ rest =
      (put32 frameMagic ++ (put32 frameVersion ++ (put32 f.kind.toU32 ++ put64 f.seq))) ++
        (put64 (UInt64.ofNat f.payload.length) ++ (f.payload ++ (putU32 (crc32 (f.header ++ f.payload)) ++ rest))) := by
    rw [Frame.encode_eq h, sealed]
    simp only [Frame.header, headerBytes, List.append_assoc]
  rw [hencode, List.drop_left' hfront, List.take_left' hlen]

/-- What is decoded from damaged bytes of a frame with an undamaged length field fills them. -/
theorem encode_of_decodeFrame {f g : Frame} {consumed : Nat} {data : Bytes} (hf : f.payload.length ≤ maxPayload)
    (hdata : decodeFrame data = .ok (g, consumed)) (hl : data.length = f.encode.length)
    (hfield : ∀ j, 20 ≤ j → j < 28 → data[j]? = f.encode[j]?) : data = g.encode := by
  obtain ⟨hg, ⟨rest, rfl⟩, -⟩ := decodeFrame_iff.1 hdata
  have hsame : ((g.encode ++ rest).drop 20).take 8 = ((f.encode ++ []).drop 20).take 8 := by
    rw [List.append_nil]
    apply List.ext_getElem?
    intro j
    by_cases hj : j < 8
    · rw [List.getElem?_take_of_lt hj, List.getElem?_take_of_lt hj, List.getElem?_drop, List.getElem?_drop]
      exact hfield (20 + j) (by omega) (by omega)
    · rw [List.getElem?_take_eq_none (by omega), List.getElem?_take_eq_none (by omega)]
  -- the length field is the same, so the payloads have one length
  rw [lengthField hg.payload, lengthField hf] at hsame
  have hlen : UInt64.ofNat g.payload.length = UInt64.ofNat f.payload.length :=
    (Exact.append_inj (r := get64) (congrArg (· ++ []) hsame)).1
  have hsize := congrArg UInt64.toNat hlen
  have hbound : maxPayload < 2 ^ 64 := by decide
  have hg' := hg.payload
  rw [toNat_ofNat (by omega), toNat_ofNat (by omega)] at hsize
  rw [List.length_append, Frame.length_encode hg.payload, Frame.length_encode hf] at hl
  rw [List.eq_nil_of_length_eq_zero (l := rest) (by omega), List.append_nil]

/-- Bytes that differ from an accepted file, or from the encoding of a frame outside its length field, within a
window of four bytes are refused. -/
theorem burst_detected :
    (∀ b s, parse b = .ok s → ∀ b' i, b'.length = b.length →
      (∀ j, j < i ∨ i + 4 ≤ j → b'[j]? = b[j]?) → b' ≠ b → ∀ s', parse b' ≠ .ok s') ∧
    ∀ f : Frame, f.Valid → ∀ data i, data.length = f.encode.length →
      (∀ j, j < i ∨ i + 4 ≤ j → data[j]? = f.encode[j]?) → (∀ j, 20 ≤ j → j < 28 → data[j]? = f.encode[j]?) →
      data ≠ f.encode → ∀ x, decodeFrame data ≠ .ok x := by
  constructor
  · intro b s hs b' i hl hw hne s' hs'
    -- both files are sealed bodies
    obtain ⟨body, hbody, rfl⟩ := sealed_of_parse hs
    obtain ⟨body', hbody', rfl⟩ := sealed_of_parse hs'
    exact hne (sealed_eq_of_window hbody hbody' hl hw)
  · intro f hf data i hl hw hfield hne x hx
    obtain ⟨g, consumed⟩ := x
    obtain rfl := encode_of_decodeFrame hf.payload hx hl hfield
    obtain ⟨hg, -⟩ := decodeFrame_iff.1 hx
    apply hne
    rw [Frame.encode_eq hg.payload, Frame.encode_eq hf.payload] at hl hw ⊢
    exact sealed_eq_of_window (header_ne_nil f) (header_ne_nil g) hl hw

theorem burst_detected_greeting :
    (∀ s', parse ((serialize saved).set 0 0) ≠ .ok s') ∧ ∀ x, decodeFrame (greeting.encode.set 30 0) ≠ .ok x := by
  obtain ⟨hfile, hframe⟩ := burst_detected
  constructor
  · apply hfile _ _ parse_saved _ 0 (List.length_set)
    · intro j hj
      rw [List.getElem?_set_ne (by omega)]
    · intro he
      have hhead := congrArg List.head? he
      cases hhead
  · apply hframe greeting greeting_valid _ 30 (List.length_set)
    · intro j hj
      rw [List.getElem?_set_ne (by omega)]
    · intro j h20 h28
      rw [List.getElem?_set_ne (by omega)]
    · decide +kernel

end Protocol

end RdmaBuffer
