/-
The descriptor on the wire against the descriptor in the file: two codecs that were written apart and are the same.
-/
import RdmaBuffer.Persistence.RecordCodec
import RdmaBuffer.Protocol.Payload

namespace RdmaBuffer

namespace Wire

open Codec Persistence

/-! ## Range checks -/

/-- The value has the greatest ordinal of its enumeration. -/
class IsLast {α : Type} [ByteEnum α] (last : α) : Prop where
  ordinal_succ : ByteEnum.ordinal last + 1 = (ByteEnum.values : List α).length

instance : IsLast MemoryDomain.unknown := ⟨rfl⟩

instance : IsLast PointerKind.unknown := ⟨rfl⟩

instance : IsLast TransferDirection.bidirectional := ⟨rfl⟩

instance : IsLast RegistrationMode.any := ⟨rfl⟩

instance : IsLast LifetimePolicy.ephemeral := ⟨rfl⟩

instance : IsLast Provenance.unknown := ⟨rfl⟩

instance : IsLast Freshness.unknown := ⟨rfl⟩

section

variable {α β : Type} [ByteEnum α] [LawfulByteEnum α] {last : α}

@[simp] theorem castEnum_toByte (a : α) : castEnum last (toByte a) = a := by
  rw [castEnum, ofByte_toByte, Option.getD_some]

variable [hlast : IsLast last]

/-- The bytes that pass the check are those of the values. -/
theorem not_gt_last_iff {u : UInt8} : ¬u > toByte last ↔ ∃ a : α, u = toByte a := by
  have hsucc := hlast.ordinal_succ
  rw [gt_iff_lt, UInt8.lt_iff_toNat_lt, toNat_toByte, Nat.not_lt]
  constructor
  · intro hle
    have hlt : u.toNat < (ByteEnum.values : List α).length := by omega
    exact ⟨_, ofByte_eq_some.1 (List.getElem?_eq_getElem hlt)⟩
  · rintro ⟨a, rfl⟩
    have hlt := ordinal_lt a
    rw [toNat_toByte]
    omega

theorem ite_gt_last {γ : Type} (a : α) (x y : γ) : (if toByte a > toByte last then x else y) = y :=
  if_neg (not_gt_last_iff.2 ⟨a, rfl⟩)

/-- After a range check the byte is that of a value. -/
theorem ensures_range {u : UInt8} {g : PUnit → Reader β} {r : Reader β} {Q : Bytes → β → Bytes → Prop} :
    Ensures (if u > toByte last then failure >>= g else r) Q ↔ ∀ a : α, u = toByte a → Ensures r Q := by
  rw [fail_bind]
  constructor
  · rintro h a rfl
    rwa [ite_gt_last] at h
  · intro h
    by_cases hu : u > toByte last
    · rw [if_pos hu]
      intro bs b rest hb
      cases hb
    · rw [if_neg hu]
      obtain ⟨a, ha⟩ := not_gt_last_iff.1 hu
      exact h a ha

end

/-! ## Descriptors -/

theorem writeDescriptor_eq (d : BufferDescriptor) : writeDescriptor d = encodeDescriptor d :=
  rfl

instance : Exact readDescriptor writeDescriptor := by
  -- the bound on the pointer kind is written as a number
  have hkind : (5 : UInt8) = toByte PointerKind.unknown := rfl
  apply Exact.of_ensures
  · unfold readDescriptor
    rw [hkind]
    simp only [Exact.ensures_bind, ensures_range]
    rintro id generation _ domain rfl address _ kind rfl byteLength alignment pageSize owner process worker node device
      dr am rm lt pv fr direction rfl registrationMode rfl lifetime rfl provenance rfl freshness rfl policyGeneration
    refine ensures_pure.2 fun bs => ?_
    unfold writeDescriptor
    simp only [castEnum_toByte, List.append_assoc]
  · intro d rest
    unfold readDescriptor writeDescriptor
    rw [hkind]
    simp only [List.append_assoc, getU64_bind, getU8_bind, fail_bind, ite_gt_last, castEnum_toByte]
    rfl

/-- The two descriptor codecs write the same bytes, and from any position of any bytes they fail alike, or read the
same descriptor and as many bytes. -/
structure SameCodec (write write' : BufferDescriptor → Bytes) (read read' : Reader BufferDescriptor) : Prop where
  written : ∀ d, write d = write' d
  readFrom : ∀ (data : Bytes) (pos : Nat),
    (read (data.drop pos) = none ∧ read' (data.drop pos) = none) ∨
      ∃ d consumed, pos + consumed ≤ data.length ∧ read (data.drop pos) = some (d, data.drop (pos + consumed)) ∧
        read' (data.drop pos) = some (d, data.drop (pos + consumed))

/-- The two descriptor codecs are the same codec. -/
theorem same_descriptor_codec : SameCodec writeDescriptor encodeDescriptor readDescriptor decodeDescriptor := by
  have hsame : readDescriptor = decodeDescriptor :=
    Exact.unique readDescriptor (inferInstanceAs (Exact decodeDescriptor encodeDescriptor))
  refine ⟨writeDescriptor_eq, fun data pos => ?_⟩
  rw [hsame]
  rcases hread : decodeDescriptor (data.drop pos) with _ | ⟨d, rest⟩
  · exact .inl ⟨rfl, rfl⟩
  · have hword := (Exact.read_iff (r := decodeDescriptor) _ _ _).1 hread
    have hrest : rest = data.drop (pos + (encodeDescriptor d).length) := by
      rw [← List.drop_drop, hword, List.drop_left]
    have hlen := congrArg List.length hword
    rw [List.length_drop, List.length_append] at hlen
    have hpos : 0 < (encodeDescriptor d).length := by rw [length_encodeDescriptor]; omega
    exact .inr ⟨d, (encodeDescriptor d).length, by omega, by rw [← hrest], by rw [← hrest]⟩

end Wire

end RdmaBuffer
