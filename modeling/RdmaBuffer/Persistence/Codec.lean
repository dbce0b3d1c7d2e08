/-
The primitive readers against the primitive writers: bytes, integers, enumerations, strings, and lists
with a count.
-/
import RdmaBuffer.Lib.Codec
import RdmaBuffer.Persistence.Format

namespace RdmaBuffer

open Codec

/-! ## Integers as bytes -/

theorem toNat_cons (b : UInt8) (x : UInt64) (h : x.toNat < 2 ^ 56) :
    (b.toUInt64 ||| x <<< 8).toNat = b.toNat + 256 * x.toNat := by
  have hb : b.toNat < 2 ^ 8 := b.toNat_lt
  rw [UInt64.toNat_or, UInt64.toNat_shiftLeft]
  simp only [UInt8.toNat_toUInt64]
  rw [Nat.or_comm, show (8 : UInt64).toNat % 64 = 8 from rfl, Nat.mod_eq_of_lt (by rw [Nat.shiftLeft_eq]; omega),
    ← Nat.shiftLeft_add_eq_or_of_lt hb, Nat.shiftLeft_eq]
  omega

theorem toNat_ofLeBytes_lt (bs : Bytes) (h : bs.length ≤ 8) : (ofLeBytes bs).toNat < 2 ^ (8 * bs.length) := by
  induction bs with
  | nil => decide
  | cons b bs ih =>
    rw [List.length_cons] at h ⊢
    have hb : b.toNat < 2 ^ 8 := b.toNat_lt
    have hbs := ih (by omega)
    have hle : 2 ^ (8 * bs.length) ≤ 2 ^ 56 := Nat.pow_le_pow_right Nat.two_pos (by omega)
    rw [ofLeBytes, toNat_cons b _ (Nat.lt_of_lt_of_le hbs hle), Nat.mul_succ, Nat.pow_add]
    omega

theorem toNat_ofLeBytes_cons (b : UInt8) (bs : Bytes) (h : bs.length < 8) :
    (ofLeBytes (b :: bs)).toNat = b.toNat + 256 * (ofLeBytes bs).toNat := by
  have hle : 2 ^ (8 * bs.length) ≤ 2 ^ 56 := Nat.pow_le_pow_right Nat.two_pos (by omega)
  exact toNat_cons b _ (Nat.lt_of_lt_of_le (toNat_ofLeBytes_lt bs (by omega)) hle)

@[simp] theorem length_leBytes (n : Nat) (v : UInt64) : (leBytes n v).length = n := by
  induction n generalizing v with
  | zero => rfl
  | succ n ih => simp [leBytes, ih]

theorem leBytes_ofLeBytes (bs : Bytes) (h : bs.length ≤ 8) : leBytes bs.length (ofLeBytes bs) = bs := by
  induction bs with
  | nil => rfl
  | cons b bs ih =>
    rw [List.length_cons] at h
    have hb : b.toNat < 256 := b.toNat_lt
    have hn := toNat_ofLeBytes_cons b bs (by omega)
    have hlow : (ofLeBytes (b :: bs)).toUInt8 = b := by
      apply UInt8.toNat_inj.1
      rw [UInt64.toNat_toUInt8, hn]
      omega
    have hhigh : ofLeBytes (b :: bs) >>> 8 = ofLeBytes bs := by
      apply UInt64.toNat_inj.1
      rw [UInt64.toNat_shiftRight, hn, show (8 : UInt64).toNat % 64 = 8 from rfl, Nat.shiftRight_eq_div_pow]
      omega
    rw [List.length_cons, leBytes, hlow, hhigh, ih (by omega)]

theorem toNat_ofLeBytes_leBytes (n : Nat) (v : UInt64) (hn : n ≤ 8) :
    (ofLeBytes (leBytes n v)).toNat = v.toNat % 2 ^ (8 * n) := by
  induction n generalizing v with
  | zero => simp [leBytes, ofLeBytes, Nat.mod_one]
  | succ n ih =>
    rw [leBytes, toNat_ofLeBytes_cons _ _ (by simp; omega), ih _ (by omega), UInt64.toNat_toUInt8,
      UInt64.toNat_shiftRight, show (8 : UInt64).toNat % 64 = 8 from rfl, Nat.shiftRight_eq_div_pow, Nat.mul_succ,
      Nat.add_comm (8 * n), Nat.pow_add, Nat.mod_mul]

theorem ofLeBytes_leBytes (v : UInt64) : ofLeBytes (leBytes 8 v) = v := by
  apply UInt64.toNat_inj.1
  rw [toNat_ofLeBytes_leBytes 8 v (Nat.le_refl 8)]
  exact Nat.mod_eq_of_lt v.toNat_lt

/-! ## Raw bytes and integers -/

theorem getRaw_append {n : Nat} {w : Bytes} (h : w.length = n) (rest : Bytes) :
    getRaw n (w ++ rest) = some (w, rest) := by
  subst h
  simp [getRaw]

theorem getRaw_eq_some {n : Nat} {bs w rest : Bytes} :
    getRaw n bs = some (w, rest) ↔ bs = w ++ rest ∧ w.length = n := by
  constructor
  · intro h
    unfold getRaw at h
    split at h
    · rename_i hn
      cases h
      exact ⟨(List.take_append_drop n bs).symm, List.length_take_of_le hn⟩
    · cases h
  · rintro ⟨rfl, h⟩
    exact getRaw_append h rest

instance (n : Nat) : Local (getRaw n) where
  read_append bs w rest h ext := by
    obtain ⟨rfl, hn⟩ := getRaw_eq_some.1 h
    rw [List.append_assoc]
    exact getRaw_append hn (rest ++ ext)

theorem length_putU8 (v : UInt8) : (putU8 v).length = 1 :=
  rfl

theorem length_putU64 (v : UInt64) : (putU64 v).length = 8 :=
  length_leBytes 8 v

instance : Exact getU8 putU8 where
  read_iff bs b rest := by
    rcases bs with _ | ⟨c, bs⟩
    · simp [getU8, putU8]
    · simp [getU8, putU8]

instance : Exact getU64 putU64 where
  read_iff bs v rest := by
    unfold getU64
    constructor
    · intro h
      obtain ⟨w, mid, hw, hv⟩ := bind_eq_some.1 h
      obtain ⟨rfl, hn⟩ := getRaw_eq_some.1 hw
      cases hv
      have := leBytes_ofLeBytes w (Nat.le_of_eq hn)
      rw [hn] at this
      rw [putU64, this]
    · rintro rfl
      rw [putU64, bind_of_some (getRaw_append (length_leBytes 8 v) rest), ofLeBytes_leBytes]
      rfl

theorem toUInt64_toUInt32 {v : UInt64} (h : v.toNat < 2 ^ 32) : v.toUInt32.toUInt64 = v := by
  apply UInt64.toNat_inj.1
  rw [UInt32.toNat_toUInt64, UInt64.toNat_toUInt32]
  exact Nat.mod_eq_of_lt h

theorem toUInt32_ofLeBytes (v : UInt32) : (ofLeBytes (leBytes 4 v.toUInt64)).toUInt32 = v := by
  have hlt := v.toNat_lt
  apply UInt32.toNat_inj.1
  rw [UInt64.toNat_toUInt32, toNat_ofLeBytes_leBytes 4 _ (by omega), UInt32.toNat_toUInt64]
  omega

theorem putU32_ofLeBytes {w : Bytes} (h : w.length = 4) : putU32 (ofLeBytes w).toUInt32 = w := by
  have hlt := toNat_ofLeBytes_lt w (by omega)
  have hround := toUInt64_toUInt32 (by simpa [h] using hlt)
  have hw := leBytes_ofLeBytes w (by omega)
  rw [h] at hw
  rw [putU32, hround, hw]

instance : Exact getU32 putU32 where
  read_iff bs v rest := by
    unfold getU32
    constructor
    · intro h
      obtain ⟨w, mid, hw, hv⟩ := bind_eq_some.1 h
      obtain ⟨rfl, hn⟩ := getRaw_eq_some.1 hw
      cases hv
      rw [putU32_ofLeBytes hn]
    · rintro rfl
      rw [putU32, bind_of_some (getRaw_append (length_leBytes 4 v.toUInt64) rest), toUInt32_ofLeBytes]
      rfl

instance {kind : IdKind} : Exact getId fun i : StrongId kind => putU64 i.value :=
  Exact.map getU64 (fun _ => rfl) fun _ => rfl

instance {kind : GenerationKind} : Exact getGeneration fun g : StrongGeneration kind => putU64 g.value :=
  Exact.map getU64 (fun _ => rfl) fun _ => rfl

instance : Exact Persistence.getCounter fun c => putU64 c.value :=
  Exact.map getU64 (fun _ => rfl) fun _ => rfl

section

variable {α : Type}

@[simp] theorem getU8_bind {f : UInt8 → Reader α} (b : UInt8) (rest : Bytes) :
    (getU8 >>= f) (putU8 b ++ rest) = f b rest :=
  Exact.read_bind getU8 b rest

@[simp] theorem getU64_bind {f : UInt64 → Reader α} (v : UInt64) (rest : Bytes) :
    (getU64 >>= f) (putU64 v ++ rest) = f v rest :=
  Exact.read_bind getU64 v rest

@[simp] theorem getId_bind {kind : IdKind} {f : StrongId kind → Reader α} (i : StrongId kind) (rest : Bytes) :
    (getId >>= f) (putU64 i.value ++ rest) = f i rest :=
  Exact.read_bind getId i rest

@[simp] theorem getGeneration_bind {kind : GenerationKind} {f : StrongGeneration kind → Reader α}
    (g : StrongGeneration kind) (rest : Bytes) : (getGeneration >>= f) (putU64 g.value ++ rest) = f g rest :=
  Exact.read_bind getGeneration g rest

@[simp] theorem getCounter_bind {f : Counter → Reader α} (c : Counter) (rest : Bytes) :
    (Persistence.getCounter >>= f) (putU64 c.value ++ rest) = f c rest :=
  Exact.read_bind Persistence.getCounter c rest

end

/-! ## Enumerations -/

/-- The ordinals are the positions in the list of values. -/
class LawfulByteEnum (α : Type) [ByteEnum α] : Prop where
  get_ordinal : ∀ a : α, ByteEnum.values[ByteEnum.ordinal a]? = some a
  nodup : (ByteEnum.values : List α).Nodup
  length_le : (ByteEnum.values : List α).length ≤ 256

instance : LawfulByteEnum MemoryDomain := ⟨by rintro (_ | _) <;> rfl, by decide, by decide⟩

instance : LawfulByteEnum PointerKind := ⟨by rintro (_ | _) <;> rfl, by decide, by decide⟩

instance : LawfulByteEnum TransferDirection := ⟨by rintro (_ | _) <;> rfl, by decide, by decide⟩

instance : LawfulByteEnum RegistrationMode := ⟨by rintro (_ | _) <;> rfl, by decide, by decide⟩

instance : LawfulByteEnum LifetimePolicy := ⟨by rintro (_ | _) <;> rfl, by decide, by decide⟩

instance : LawfulByteEnum Provenance := ⟨by rintro (_ | _) <;> rfl, by decide, by decide⟩

instance : LawfulByteEnum Freshness := ⟨by rintro (_ | _) <;> rfl, by decide, by decide⟩

instance : LawfulByteEnum TransportClass := ⟨by rintro (_ | _) <;> rfl, by decide, by decide⟩

instance : LawfulByteEnum RegistrationLifecycle := ⟨by rintro (_ | _) <;> rfl, by decide, by decide⟩

instance : LawfulByteEnum BackendState := ⟨by rintro (_ | _) <;> rfl, by decide, by decide⟩

instance : LawfulByteEnum CapabilityState := ⟨by rintro (_ | _) <;> rfl, by decide, by decide⟩

section Enum

variable {α : Type} [ByteEnum α] [LawfulByteEnum α]

/-- The byte an enumeration value is stored as. -/
def toByte (a : α) : UInt8 := UInt8.ofNat (ByteEnum.ordinal a)

theorem ordinal_lt (a : α) : ByteEnum.ordinal a < (ByteEnum.values : List α).length := by
  have := LawfulByteEnum.get_ordinal a
  exact (List.getElem?_eq_some_iff.1 this).1

theorem ordinal_inj {a b : α} (h : (ByteEnum.ordinal a : Nat) = ByteEnum.ordinal b) : a = b := by
  have hb := LawfulByteEnum.get_ordinal b
  rw [← h, LawfulByteEnum.get_ordinal a] at hb
  exact Option.some.inj hb

theorem toNat_toByte (a : α) : (toByte a).toNat = ByteEnum.ordinal a := by
  have := ordinal_lt a
  have := LawfulByteEnum.length_le (α := α)
  rw [toByte, UInt8.toNat_ofNat']
  omega

theorem ofByte_eq_some {b : UInt8} {a : α} : ofByte b = some a ↔ b = toByte a := by
  unfold ofByte
  constructor
  · intro h
    apply UInt8.toNat_inj.1
    rw [toNat_toByte]
    obtain ⟨hlt, -⟩ := List.getElem?_eq_some_iff.1 h
    exact (List.getElem?_inj hlt LawfulByteEnum.nodup).1 (h.trans (LawfulByteEnum.get_ordinal a).symm)
  · rintro rfl
    rw [toNat_toByte]
    exact LawfulByteEnum.get_ordinal a

theorem ofByte_toByte (a : α) : ofByte (toByte a) = some a :=
  ofByte_eq_some.2 rfl

theorem checkEnum_eq_some {b : UInt8} {a : α} {bs rest : Bytes} :
    checkEnum b bs = some (a, rest) ↔ b = toByte a ∧ bs = rest := by
  unfold checkEnum
  rcases h : (ofByte b : Option α) with _ | a'
  · constructor
    · intro hb
      cases hb
    · rintro ⟨rfl, -⟩
      rw [ofByte_toByte] at h
      cases h
  · constructor
    · intro hb
      cases hb
      exact ⟨ofByte_eq_some.1 h, rfl⟩
    · rintro ⟨rfl, rfl⟩
      rw [ofByte_toByte] at h
      cases h
      rfl

/-- A byte already read is checked without reading on. -/
instance (b : UInt8) : Local (checkEnum b : Reader α) where
  read_append bs a rest h ext := by
    obtain ⟨hb, rfl⟩ := checkEnum_eq_some.1 h
    exact checkEnum_eq_some.2 ⟨hb, rfl⟩

variable {β : Type} {f : α → Reader β}

@[simp] theorem checkEnum_bind (a : α) (bs : Bytes) : (checkEnum (toByte a) >>= f) bs = f a bs :=
  bind_of_some (checkEnum_eq_some.2 ⟨rfl, rfl⟩)

theorem ensures_checkEnum_bind {b : UInt8} {Q : Bytes → β → Bytes → Prop} :
    Ensures (checkEnum b >>= f) Q ↔ ∀ a, b = toByte a → Ensures (f a) Q := by
  constructor
  · rintro h a rfl bs c rest hc
    exact h bs c rest (by rw [checkEnum_bind, hc])
  · intro h bs c rest hc
    obtain ⟨a, mid, ha, hc⟩ := bind_eq_some.1 hc
    obtain ⟨hb, rfl⟩ := checkEnum_eq_some.1 ha
    exact h a hb bs c rest hc

omit [LawfulByteEnum α] in
theorem putEnum_eq (a : α) : putEnum a = putU8 (toByte a) :=
  rfl

instance : Exact getEnum (putEnum : α → Bytes) where
  read_iff bs a rest := by
    unfold getEnum
    constructor
    · intro h
      obtain ⟨b, mid, hb, ha⟩ := bind_eq_some.1 h
      obtain ⟨rfl, rfl⟩ := checkEnum_eq_some.1 ha
      exact (Exact.read_iff (r := getU8) _ _ _).1 hb
    · rintro rfl
      rw [putEnum_eq, getU8_bind]
      exact checkEnum_eq_some.2 ⟨rfl, rfl⟩

omit [LawfulByteEnum α] in
theorem length_putEnum (a : α) : (putEnum a).length = 1 :=
  rfl

theorem putEnum_append_inj {a b : α} {x y : Bytes} : putEnum a ++ x = putEnum b ++ y ↔ a = b ∧ x = y :=
  Exact.append_inj_iff getEnum

@[simp] theorem getEnum_bind (a : α) (rest : Bytes) : (getEnum >>= f) (putU8 (toByte a) ++ rest) = f a rest :=
  Exact.read_bind getEnum a rest

end Enum

/-! ## Strings -/

theorem toNat_ofNat {n : Nat} (h : n < 2 ^ 64) : (UInt64.ofNat n).toNat = n := by
  rw [UInt64.toNat_ofNat']
  exact Nat.mod_eq_of_lt h

theorem getStr_apply (m : Nat) (n : UInt64) (bs : Bytes) :
    getStr m (putU64 n ++ bs) = if n.toNat ≤ m then getRaw n.toNat bs else none := by
  unfold getStr
  rw [getU64_bind, fail_bind]
  dsimp only
  by_cases h : n.toNat ≤ m
  · rw [if_neg (by omega), if_pos h]
  · rw [if_pos (by omega), if_neg h]
    rfl

theorem getStr_conveys {s : StdString} (hs : s.length < 2 ^ 64) (m : Nat) :
    Conveys (getStr m) putStr (fun s => s.length ≤ m) id s := by
  intro rest
  rw [putStr, putSize, List.append_assoc, getStr_apply, toNat_ofNat hs, getRaw_append rfl]
  rfl

instance (m : Nat) : Local (getStr m) :=
  Local.bind inferInstance fun _ => Local.ite (Local.bind inferInstance fun _ => inferInstance) inferInstance

theorem putStr_append_inj {s t : StdString} (hs : s.length < 2 ^ 64) (ht : t.length < 2 ^ 64) {x y : Bytes} :
    putStr s ++ x = putStr t ++ y ↔ s = t ∧ x = y := by
  constructor
  · intro h
    have hread := getStr_conveys hs (2 ^ 64) x
    rw [h, getStr_conveys ht (2 ^ 64) y, if_pos (Nat.le_of_lt hs), if_pos (Nat.le_of_lt ht)] at hread
    simpa [eq_comm] using hread
  · rintro ⟨rfl, rfl⟩
    rfl

theorem getStr_exactOn {m : Nat} (hm : m < 2 ^ 64) : ExactOn (getStr m) putStr fun s => s.length ≤ m := by
  intro bs s rest
  constructor
  · intro h
    have h' := h
    unfold getStr at h'
    obtain ⟨n, mid, hn, -⟩ := bind_eq_some.1 h'
    obtain rfl := (Exact.read_iff (r := getU64) _ _ _).1 hn
    rw [getStr_apply] at h
    split at h
    · rename_i hle
      obtain ⟨rfl, hlen⟩ := getRaw_eq_some.1 h
      rw [putStr, putSize, hlen, UInt64.ofNat_toNat, List.append_assoc]
      exact ⟨by omega, rfl⟩
    · cases h
  · rintro ⟨h, rfl⟩
    exact (getStr_conveys (by omega) m rest).trans (if_pos h)

theorem ensures_getStr {m : Nat} (hm : m < 2 ^ 64) : Ensures (getStr m) fun _ s _ => s.length ≤ m :=
  fun bs s rest h => ((getStr_exactOn hm bs s rest).1 h).1

/-! ## Lists -/

section Lists

variable {α β : Type}

/-- A count within bounds and that many elements. -/
def getCounted (r : Reader α) : Reader (List α) := do
  let n ← getU64
  if n.toNat > Persistence.maxCount then failure
  getMany n.toNat r

instance {r : Reader α} [Local r] (n : Nat) : Local (getMany n r) := by
  induction n with
  | zero => exact inferInstanceAs (Local (pure []))
  | succ n ih => exact Local.bind inferInstance fun a => Local.bind ih fun as => inferInstance

instance {r : Reader α} [Local r] : Local (getCounted r) :=
  Local.bind inferInstance fun _ => Local.ite (Local.bind inferInstance fun _ => inferInstance) inferInstance

theorem getCounted_bind (r : Reader α) (f : List α → Reader β) :
    getCounted r >>= f =
      getU64 >>= fun n => if n.toNat > Persistence.maxCount then failure else getMany n.toNat r >>= f := by
  funext bs
  unfold getCounted
  rcases h : getU64 bs with _ | ⟨n, mid⟩
  · rw [bind_of_none h, bind_of_none (bind_of_none h)]
  · rw [bind_of_some h]
    show ((getU64 >>= _) bs).bind _ = _
    rw [bind_of_some h]
    by_cases hn : n.toNat > Persistence.maxCount
    · rw [if_pos hn, if_pos hn]
      rfl
    · rw [if_neg hn, if_neg hn]
      rfl

theorem getMany_conveys {dec : Reader β} {enc : α → Bytes} {fits : α → Prop} [DecidablePred fits] {view : α → β}
    (as : List α) (h : ∀ a ∈ as, Conveys dec enc fits view a) (rest : Bytes) :
    getMany as.length dec (as.flatMap enc ++ rest) = if ∀ a ∈ as, fits a then some (as.map view, rest) else none := by
  induction as with
  | nil => rfl
  | cons a as ih =>
    have ha := h a (by simp) (as.flatMap enc ++ rest)
    have has := ih fun a ha => h a (by simp [ha])
    rw [List.flatMap_cons, List.append_assoc, List.length_cons, getMany]
    by_cases hf : fits a
    · rw [if_pos hf] at ha
      rw [bind_of_some ha]
      by_cases hfs : ∀ a ∈ as, fits a
      · rw [if_pos hfs] at has
        rw [bind_of_some has, if_pos (by simpa [hf] using hfs)]
        rfl
      · rw [if_neg hfs] at has
        rw [bind_of_none has, if_neg (by simpa [hf] using hfs)]
    · rw [if_neg hf] at ha
      rw [bind_of_none ha, if_neg (by simp [hf])]

theorem getMany_exact {r : Reader α} {enc : α → Bytes} [Exact r enc] {n : Nat} {bs rest : Bytes} {as : List α} :
    getMany n r bs = some (as, rest) ↔ as.length = n ∧ bs = as.flatMap enc ++ rest := by
  induction n generalizing bs as with
  | zero =>
    constructor
    · intro h
      cases h
      exact ⟨rfl, rfl⟩
    · rintro ⟨hn, rfl⟩
      obtain rfl := List.eq_nil_of_length_eq_zero hn
      rfl
  | succ n ih =>
    constructor
    · intro h
      obtain ⟨a, mid, ha, h⟩ := bind_eq_some.1 h
      obtain ⟨as', mid', has, h⟩ := bind_eq_some.1 h
      cases h
      obtain ⟨rfl, rfl⟩ := ih.1 has
      rw [(Exact.read_iff _ _ _).1 ha, List.flatMap_cons, List.append_assoc]
      exact ⟨rfl, rfl⟩
    · rintro ⟨hn, rfl⟩
      obtain _ | ⟨a, as⟩ := as
      · cases hn
      rw [List.flatMap_cons, List.append_assoc, getMany, Exact.read_bind r,
        bind_of_some (ih.2 ⟨Nat.succ.inj hn, rfl⟩)]
      rfl

theorem getCounted_apply (r : Reader α) (n : UInt64) (bs : Bytes) :
    getCounted r (putU64 n ++ bs) = if n.toNat ≤ Persistence.maxCount then getMany n.toNat r bs else none := by
  unfold getCounted
  rw [getU64_bind, fail_bind]
  dsimp only
  by_cases h : n.toNat ≤ Persistence.maxCount
  · rw [if_neg (by omega), if_pos h]
  · rw [if_pos (by omega), if_neg h]
    rfl

theorem getCounted_conveys {dec : Reader β} {enc : α → Bytes} {fits : α → Prop} [DecidablePred fits] {view : α → β}
    {as : List α} (hl : as.length < 2 ^ 64) (h : ∀ a ∈ as, Conveys dec enc fits view a) :
    Conveys (getCounted dec) (Persistence.encodeList enc)
      (fun as => as.length ≤ Persistence.maxCount ∧ ∀ a ∈ as, fits a) (List.map view) as := by
  intro rest
  rw [Persistence.encodeList, putSize, List.append_assoc, getCounted_apply, toNat_ofNat hl, getMany_conveys as h]
  by_cases hn : as.length ≤ Persistence.maxCount
  · simp [hn]
  · simp [hn]

theorem getCounted_exactOn {r : Reader α} {enc : α → Bytes} [Exact r enc] :
    ExactOn (getCounted r) (Persistence.encodeList enc) fun as => as.length ≤ Persistence.maxCount := by
  intro bs as rest
  constructor
  · intro h
    have h' := h
    unfold getCounted at h'
    obtain ⟨n, mid, hn, -⟩ := bind_eq_some.1 h'
    obtain rfl := (Exact.read_iff (r := getU64) _ _ _).1 hn
    rw [getCounted_apply] at h
    split at h
    · rename_i hle
      obtain ⟨hlen, rfl⟩ := getMany_exact.1 h
      rw [Persistence.encodeList, putSize, hlen, UInt64.ofNat_toNat, List.append_assoc]
      exact ⟨by omega, rfl⟩
    · cases h
  · rintro ⟨h, rfl⟩
    have hlt : as.length < 2 ^ 64 := Nat.lt_of_le_of_lt h (by decide)
    rw [Persistence.encodeList, putSize, List.append_assoc, getCounted_apply, toNat_ofNat hlt, if_pos h]
    exact getMany_exact.2 ⟨rfl, rfl⟩

theorem ensures_getMany {r : Reader α} {P : α → Prop} (h : Ensures r fun _ a _ => P a) (n : Nat) :
    Ensures (getMany n r) fun _ as _ => as.length = n ∧ ∀ a ∈ as, P a := by
  induction n with
  | zero => exact ensures_pure.2 fun bs => ⟨rfl, by simp⟩
  | succ n ih =>
    refine h.value_bind fun a ha => ih.value_bind fun as has => ensures_pure.2 fun bs => ?_
    exact ⟨congrArg (· + 1) has.1, List.forall_mem_cons.2 ⟨ha, has.2⟩⟩

theorem ensures_getCounted {r : Reader α} {P : α → Prop} (h : Ensures r fun _ a _ => P a) :
    Ensures (getCounted r) fun _ as _ => as.length ≤ Persistence.maxCount ∧ ∀ a ∈ as, P a := by
  unfold getCounted
  refine ensures_true.value_bind fun n _ => ?_
  simp only [fail_bind]
  split
  · intro bs as rest has
    cases has
  · rename_i hn
    intro bs as rest has
    obtain ⟨hlen, hall⟩ := ensures_getMany h n.toNat bs as rest has
    exact ⟨by omega, hall⟩

/-- Lists of one length are written alike only when their elements are. -/
theorem encodeList_append_inj {enc : α → Bytes} {v : α → β} {as bs : List α} (hl : as.length = bs.length)
    (h : ∀ a ∈ as, ∀ b ∈ bs, ∀ x y, enc a ++ x = enc b ++ y → v a = v b ∧ x = y) {x y : Bytes}
    (he : Persistence.encodeList enc as ++ x = Persistence.encodeList enc bs ++ y) :
    as.map v = bs.map v ∧ x = y := by
  rw [Persistence.encodeList, Persistence.encodeList, hl, List.append_assoc, List.append_assoc] at he
  exact flatMap_append_inj hl h (List.append_cancel_left he)

/-- A list of values that are all conveyed unchanged. -/
theorem getCounted_conveys_id {dec : Reader α} {enc : α → Bytes} (h : ∀ a rest, dec (enc a ++ rest) = some (a, rest))
    {as : List α} (hl : as.length < 2 ^ 64) :
    Conveys (getCounted dec) (Persistence.encodeList enc) (fun as => as.length ≤ Persistence.maxCount) id as := by
  intro rest
  have ha : ∀ a ∈ as, Conveys dec enc (fun _ => True) id a := fun a _ rest => (h a rest).trans (if_pos trivial).symm
  simpa using getCounted_conveys hl ha rest

end Lists

end RdmaBuffer
