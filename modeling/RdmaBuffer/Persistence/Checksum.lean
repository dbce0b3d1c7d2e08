/-
The CRC-32 of the source as a division over words of 32 bits, and bodies sealed with their checksum: a sealed
body leaves the same remainder whatever it says, so no change within four bytes of it is again a sealed body.
-/
import RdmaBuffer.Lib.Crc
import RdmaBuffer.Persistence.Codec

namespace RdmaBuffer

/-! ## The division -/

/-- The polynomial of CRC-32, lowest power first. -/
def crcPoly : BitVec 32 := 0xEDB88320#32

theorem msb_crcPoly : crcPoly.msb = true := by
  decide

theorem and_one_eq_one {crc : UInt32} : crc &&& 1 = 1 ↔ crc.toBitVec.getLsbD 0 = true := by
  rw [← UInt32.toBitVec_inj, UInt32.toBitVec_and]
  show crc.toBitVec &&& 1#32 = 1#32 ↔ _
  rw [BitVec.and_one_eq_setWidth_ofBool_getLsbD]
  cases crc.toBitVec.getLsbD 0 <;> decide

theorem toBitVec_crcBit (crc : UInt32) : (crcBit crc).toBitVec = Crc.bit crcPoly crc.toBitVec := by
  unfold crcBit Crc.bit
  rw [UInt32.toBitVec_xor, UInt32.toBitVec_and]
  by_cases h : crc &&& 1 = 1
  · rw [if_pos h, if_pos (and_one_eq_one.1 h)]
    rfl
  · rw [if_neg h, if_neg (mt and_one_eq_one.2 h)]
    rfl

theorem toBitVec_crcByte (crc : UInt32) (b : UInt8) :
    (crcByte crc b).toBitVec = Crc.feed crcPoly crc.toBitVec b.toBitVec := by
  unfold crcByte Crc.feed
  simp only [toBitVec_crcBit, UInt32.toBitVec_xor]
  rfl

theorem toBitVec_foldl_crcByte (bytes : Bytes) (crc : UInt32) :
    (bytes.foldl crcByte crc).toBitVec = Crc.run crcPoly crc.toBitVec (bytes.map UInt8.toBitVec) := by
  induction bytes generalizing crc with
  | nil => rfl
  | cons b bytes ih =>
    rw [List.foldl_cons, ih, toBitVec_crcByte]
    rfl

/-- The register the division starts from, and the mask of its result. -/
def crcOnes : BitVec 32 := 0xFFFFFFFF#32

/-- The register after all bytes, before the final mask. -/
def remainder (bytes : Bytes) : BitVec 32 := Crc.run crcPoly crcOnes (bytes.map UInt8.toBitVec)

theorem toBitVec_crc32 {bytes : Bytes} (h : bytes ≠ []) : (crc32 bytes).toBitVec = remainder bytes ^^^ crcOnes := by
  rw [crc32, if_neg h, UInt32.toBitVec_xor, toBitVec_foldl_crcByte]
  rfl

/-! ## Trailers -/

@[simp] theorem length_putU32 (v : UInt32) : (putU32 v).length = 4 :=
  length_leBytes 4 _

theorem getLsbD_pack_leBytes (n : Nat) (v : UInt64) (i : Nat) (hi : i < 32) :
    (Crc.pack 32 ((leBytes n v).map UInt8.toBitVec)).getLsbD i = (decide (i < 8 * n) && v.toBitVec.getLsbD i) := by
  induction n generalizing v i with
  | zero => simp [leBytes, Crc.pack]
  | succ n ih =>
    rw [leBytes, List.map_cons, Crc.pack, BitVec.getLsbD_xor, BitVec.getLsbD_shiftLeft]
    by_cases h : i < 8
    · simp [h, hi, show i < 8 * (n + 1) by omega]
    · rw [ih _ _ (by omega)]
      have hn : i - 8 < 8 * n ↔ i < 8 * (n + 1) := by omega
      simp [h, hi, hn, show 8 + (i - 8) = i by omega]

/-- The bytes of a checksum pack to the checksum. -/
theorem pack_putU32 (v : UInt32) : Crc.pack 32 ((putU32 v).map UInt8.toBitVec) = v.toBitVec := by
  apply BitVec.eq_of_getLsbD_eq
  intro i hi
  rw [putU32, getLsbD_pack_leBytes 4 _ i hi]
  simp [hi]
  omega

/-! ## Sealed bodies -/

/-- A body and its checksum. -/
def sealed (body : Bytes) : Bytes := body ++ putU32 (crc32 body)

theorem sealed_injective : Function.Injective sealed := by
  intro b b' h
  exact (List.append_inj' h (by rw [length_putU32, length_putU32])).1

theorem length_sealed (body : Bytes) : (sealed body).length = body.length + 4 := by
  rw [sealed, List.length_append, length_putU32]

/-- Every sealed body leaves the same remainder. -/
theorem remainder_sealed {body : Bytes} (h : body ≠ []) : remainder (sealed body) = (Crc.bit crcPoly)^[32] crcOnes := by
  unfold remainder sealed
  rw [List.map_append, Crc.run_append, Crc.run_eq_iff msb_crcPoly _ _ _ (by simp), pack_putU32]
  exact toBitVec_crc32 h

/-- Sealed bodies that differ within a window of four bytes only are the same. -/
theorem sealed_eq_of_window {b b' : Bytes} (h : b ≠ []) (h' : b' ≠ []) {i : Nat}
    (hl : (sealed b').length = (sealed b).length)
    (hw : ∀ j, j < i ∨ i + 4 ≤ j → (sealed b')[j]? = (sealed b)[j]?) : sealed b' = sealed b := by
  apply (List.map_inj_right fun _ _ hxy => UInt8.toBitVec_inj.1 hxy).1
  apply Crc.eq_of_window msb_crcPoly (r := crcOnes) (i := i) (n := 4)
  · rw [List.length_map, List.length_map, hl]
  · decide
  · intro j hj
    rw [List.getElem?_map, List.getElem?_map, hw j hj]
  · exact (remainder_sealed h').trans (remainder_sealed h).symm

end RdmaBuffer
