/-
Byte strings and the integer renderings the runtime's messages, handles and digests are built
from; distinct integers have distinct renderings.
-/
import Mathlib.Algebra.Group.Nat.Defs
import Mathlib.Data.List.TakeWhile

namespace RdmaBuffer

/-- `std::string`: its bytes. -/
abbrev StdString := List UInt8

/-- The bytes of a string literal. -/
def lit (s : String) : StdString := s.toUTF8.data.toList

/-- The digits of `n` in base `b`, most significant first, as bytes. -/
def digitBytes (b n : Nat) : StdString := (Nat.toDigits b n).map fun c => UInt8.ofNat c.toNat

/-- `std::to_string` of a 64-bit value. -/
def intToStr (v : UInt64) : StdString := digitBytes 10 v.toNat

/-- `std::to_chars` in base 16: lower case, no leading zeros. -/
def toHex (v : UInt64) : StdString := digitBytes 16 v.toNat

/-- A check that names a reason is passed where no reason is named. -/
theorem ite_reason_nil {c : Prop} [Decidable c] {reason x : StdString} (hr : reason ≠ []) :
    (if c then reason else x) = [] ↔ ¬c ∧ x = [] := by
  split
  · rename_i h
    simp [hr, h]
  · rename_i h
    simp [h]

theorem digitByte_inj : ∀ i < 16, ∀ j < 16,
    UInt8.ofNat (Nat.digitChar i).toNat = UInt8.ofNat (Nat.digitChar j).toNat → i = j := by
  decide

theorem digitBytes_eq {b : Nat} (hb : 1 < b) (n : Nat) :
    digitBytes b n = if n < b then [UInt8.ofNat n.digitChar.toNat]
      else digitBytes b (n / b) ++ [UInt8.ofNat (n % b).digitChar.toNat] := by
  unfold digitBytes
  rw [Nat.toDigits_eq_if hb]
  split <;> simp

theorem digitBytes_ne_nil {b n : Nat} : digitBytes b n ≠ [] := by
  simp [digitBytes, Nat.toDigits_ne_nil]

theorem digitBytes_snoc_ne {b n : Nat} {c d : UInt8} : digitBytes b n ++ [c] ≠ [d] := by
  intro h
  have := List.length_pos_iff.2 (digitBytes_ne_nil (b := b) (n := n))
  have := congrArg List.length h
  simp only [List.length_append, List.length_singleton] at this
  omega

/-- Distinct numbers have distinct digits. -/
theorem digitBytes_inj {b : Nat} (hb : 1 < b) (hb16 : b ≤ 16) :
    ∀ n m : Nat, digitBytes b n = digitBytes b m → n = m := by
  intro n
  induction n using Nat.strongRecOn with
  | ind n ih =>
    intro m h
    rw [digitBytes_eq hb n, digitBytes_eq hb m] at h
    split at h
    · split at h
      · exact digitByte_inj n (by omega) m (by omega) (List.singleton_inj.1 h)
      · exact absurd h.symm digitBytes_snoc_ne
    · split at h
      · exact absurd h digitBytes_snoc_ne
      · have hlt : ∀ k, k % b < 16 := fun k => Nat.lt_of_lt_of_le (Nat.mod_lt k (by omega)) hb16
        obtain ⟨h₁, h₂⟩ := List.append_inj' h rfl
        have hq := ih (n / b) (Nat.div_lt_self (by omega) hb) (m / b) h₁
        have hr := digitByte_inj (n % b) (hlt n) (m % b) (hlt m) (List.singleton_inj.1 h₂)
        rw [← Nat.div_add_mod n b, ← Nat.div_add_mod m b, hq, hr]

theorem intToStr_inj {v w : UInt64} (h : intToStr v = intToStr w) : v = w :=
  UInt64.toNat_inj.1 (digitBytes_inj (by decide) (by decide) _ _ h)

theorem toHex_inj {v w : UInt64} (h : toHex v = toHex w) : v = w :=
  UInt64.toNat_inj.1 (digitBytes_inj (by decide) (by decide) _ _ h)

/-! ## Numerals in a text -/

def isDigit (c : UInt8) : Bool := 48 ≤ c && c ≤ 57

theorem isDigit_digitByte : ∀ i < 10, isDigit (UInt8.ofNat (Nat.digitChar i).toNat) = true := by
  decide

theorem isDigit_of_mem {n : Nat} {c : UInt8} : c ∈ digitBytes 10 n → isDigit c = true := by
  induction n using Nat.strongRecOn with
  | ind n ih =>
    intro hc
    rw [digitBytes_eq (by decide) n] at hc
    split at hc
    · rename_i hn
      rw [List.mem_singleton.1 hc]
      exact isDigit_digitByte n hn
    · rcases List.mem_append.1 hc with hc | hc
      · exact ih (n / 10) (by omega) hc
      · rw [List.mem_singleton.1 hc]
        exact isDigit_digitByte (n % 10) (Nat.mod_lt n (by decide))

/-- The text begins with something that is not a digit. -/
class Separator (s : StdString) : Prop where
  head : ∃ c tail, s = c :: tail ∧ isDigit c = false

theorem takeWhile_intToStr (v : UInt64) {s : StdString} [hs : Separator s] (x : StdString) :
    (intToStr v ++ (s ++ x)).takeWhile isDigit = intToStr v := by
  obtain ⟨c, tail, rfl, hc⟩ := hs.head
  have hdigits : ∀ a ∈ intToStr v, isDigit a = true := fun a ha => isDigit_of_mem ha
  have hnone : ¬isDigit c = true := by simp [hc]
  rw [List.takeWhile_append_of_pos hdigits, List.cons_append, List.takeWhile_cons_of_neg hnone, List.append_nil]

/-- A numeral ends at its separator. -/
theorem intToStr_append_inj {v w : UInt64} {s : StdString} [Separator s] {x y : StdString} :
    intToStr v ++ (s ++ x) = intToStr w ++ (s ++ y) ↔ v = w ∧ x = y := by
  constructor
  · intro h
    have hdigits := congrArg (List.takeWhile isDigit) h
    rw [takeWhile_intToStr, takeWhile_intToStr] at hdigits
    obtain rfl := intToStr_inj hdigits
    exact ⟨rfl, List.append_cancel_left (List.append_cancel_left h)⟩
  · rintro ⟨rfl, rfl⟩
    rfl

/-! ## Reading a numeral -/

/-- `std::isspace`. -/
def isSpace (c : UInt8) : Bool := c == 32 || (9 ≤ c && c ≤ 13)

def digitsValue (ds : StdString) : Nat := ds.foldl (fun n c => 10 * n + (c.toNat - 48)) 0

/-- `std::strtoull` in base 10: blanks, a sign and digits; what exceeds 64 bits is the greatest value. -/
def strtoull (s : StdString) : UInt64 :=
  let s := s.dropWhile isSpace
  let negative := s.head? == some 45
  let s := if negative || s.head? == some 43 then s.tail else s
  let n := digitsValue (s.takeWhile isDigit)
  if n ≥ 2 ^ 64 then 0xFFFFFFFFFFFFFFFF
  else if negative then 0 - UInt64.ofNat n
  else UInt64.ofNat n

theorem digitsValue_digitBytes (n : Nat) : digitsValue (digitBytes 10 n) = n := by
  have hdigit : ∀ i < 10, (UInt8.ofNat (Nat.digitChar i).toNat).toNat - 48 = i := by decide
  induction n using Nat.strongRecOn with
  | ind n ih =>
    rw [digitBytes_eq (by decide) n]
    split
    · rename_i hn
      show 10 * 0 + ((UInt8.ofNat (Nat.digitChar n).toNat).toNat - 48) = n
      rw [hdigit n hn]
      omega
    · have hq := ih (n / 10) (by omega)
      unfold digitsValue at hq ⊢
      rw [List.foldl_append, hq]
      show 10 * (n / 10) + ((UInt8.ofNat (Nat.digitChar (n % 10)).toNat).toNat - 48) = n
      rw [hdigit (n % 10) (by omega)]
      omega

/-- A digit is neither a blank nor a sign. -/
theorem not_space_of_digit {c : UInt8} (h : isDigit c = true) :
    isSpace c = false ∧ (some c == some (45 : UInt8)) = false ∧ (some c == some (43 : UInt8)) = false := by
  unfold isDigit at h
  unfold isSpace
  simp [UInt8.le_iff_toNat_le, ← UInt8.toNat_inj] at h ⊢
  omega

/-- A printed value is read again. -/
theorem strtoull_intToStr (v : UInt64) : strtoull (intToStr v) = v := by
  have hdigits : ∀ c ∈ intToStr v, isDigit c = true := fun c hc => isDigit_of_mem hc
  have hall : (intToStr v).takeWhile isDigit = intToStr v := List.takeWhile_eq_self_iff.2 hdigits
  have hvalue : digitsValue (intToStr v) = v.toNat := digitsValue_digitBytes v.toNat
  have hlt : ¬v.toNat ≥ 2 ^ 64 := Nat.not_le.2 v.toNat_lt
  obtain ⟨c, tail, hv⟩ : ∃ c tail, intToStr v = c :: tail := List.exists_cons_of_ne_nil digitBytes_ne_nil
  obtain ⟨hspace, hminus, hplus⟩ := not_space_of_digit (hdigits c (by rw [hv]; exact List.mem_cons_self))
  have hdrop : (intToStr v).dropWhile isSpace = intToStr v := by
    rw [hv, List.dropWhile_cons_of_neg (by simp [hspace])]
  have hhead : (intToStr v).head? = some c := by rw [hv]; rfl
  unfold strtoull
  simp only [hdrop, hhead, hminus, hplus, hall, hvalue, hlt, Bool.false_or, Bool.false_eq_true, if_false,
    UInt64.ofNat_toNat]

example : intToStr 4096 = lit "4096" := by decide

example : lit "syn-" ++ toHex 0x9E3779B97F4A7C15 = lit "syn-9e3779b97f4a7c15" := by decide

end RdmaBuffer
