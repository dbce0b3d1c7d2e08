/-
Cyclic redundancy checks of any width, least significant bit first. The division is linear and each of
its steps is injective when the polynomial has a constant term, so a change of the message that fits in
the register is never missed, whatever the length of the message.
-/
import Mathlib.Algebra.Group.Nat.Defs
import Mathlib.Logic.Function.Iterate

namespace Crc

variable {w k : Nat} {poly : BitVec w}

/-! ## One bit -/

/-- One bit of the division: the register shifted, less the polynomial when a one falls out. -/
def bit (poly r : BitVec w) : BitVec w := (r >>> 1) ^^^ if r.getLsbD 0 then poly else 0

theorem bit_xor (r s : BitVec w) : bit poly (r ^^^ s) = bit poly r ^^^ bit poly s := by
  unfold bit
  rw [BitVec.getLsbD_xor, BitVec.ushiftRight_xor_distrib]
  cases r.getLsbD 0 with
  | false => cases s.getLsbD 0 <;> simp [BitVec.xor_assoc]
  | true =>
    cases s.getLsbD 0 with
    | false => simp [BitVec.xor_assoc, BitVec.xor_comm poly]
    | true =>
      -- the polynomial is subtracted twice
      have hp : poly ^^^ (s >>> 1 ^^^ poly) = s >>> 1 := by
        rw [BitVec.xor_comm, BitVec.xor_assoc, BitVec.xor_self, BitVec.xor_zero]
      simp [BitVec.xor_assoc, hp]

theorem iterate_bit_xor (n : Nat) (r s : BitVec w) :
    (bit poly)^[n] (r ^^^ s) = (bit poly)^[n] r ^^^ (bit poly)^[n] s := by
  induction n with
  | zero => rfl
  | succ n ih => simp only [Function.iterate_succ_apply', ih, bit_xor]

/-- The bit that falls out is the top bit of the result. -/
theorem msb_bit (h : poly.msb = true) (r : BitVec w) : (bit poly r).msb = r.getLsbD 0 := by
  have hw : 0 < w := by
    rcases Nat.eq_zero_or_pos w with rfl | hw
    · simp [BitVec.of_length_zero] at h
    · exact hw
  rw [BitVec.msb_eq_getLsbD_last] at h ⊢
  unfold bit
  rw [BitVec.getLsbD_xor, BitVec.getLsbD_ushiftRight, BitVec.getLsbD_of_ge r _ (by omega)]
  cases r.getLsbD 0 <;> simp [h]

theorem bit_eq_zero (h : poly.msb = true) {r : BitVec w} (hr : bit poly r = 0) : r = 0 := by
  have hlow : r.getLsbD 0 = false := by
    rw [← msb_bit h r, hr]
    simp
  apply BitVec.eq_of_getLsbD_eq
  intro i hi
  rcases i with _ | i
  · simpa using hlow
  · have := congrArg (fun x : BitVec w => x.getLsbD i) hr
    simpa [bit, hlow, Nat.add_comm 1 i] using this

theorem bit_injective (h : poly.msb = true) : Function.Injective (bit poly) := by
  intro r s hrs
  have hz : bit poly (r ^^^ s) = 0 := by
    rw [bit_xor, hrs]
    exact BitVec.xor_self
  exact BitVec.xor_eq_zero_iff.1 (bit_eq_zero h hz)

/-! ## Bits shifted in from below -/

theorem getLsbD_of_lt {r : BitVec w} {i j : Nat} (h : r.toNat < 2 ^ i) (hj : i ≤ j) : r.getLsbD j = false :=
  Nat.testBit_lt_two_pow (Nat.lt_of_lt_of_le h (Nat.pow_le_pow_right Nat.two_pos hj))

/-- A bit shifted in from below, with nothing lost at the top, is shifted out again. -/
theorem bit_shiftLeft {r : BitVec w} (h : r.toNat < 2 ^ (w - 1)) : bit poly (r <<< 1) = r := by
  unfold bit
  apply BitVec.eq_of_getLsbD_eq
  intro i hi
  by_cases hlast : i = w - 1
  · rw [getLsbD_of_lt h (Nat.le_of_eq hlast.symm)]
    simp [show ¬1 + i < w by omega]
  · simp [show 1 + i < w by omega, BitVec.getLsbD_eq_getElem hi]

theorem toNat_shiftLeft_lt {r : BitVec w} {m n : Nat} (h : r.toNat < 2 ^ m) (hn : m + n ≤ w) :
    (r <<< n).toNat < 2 ^ (m + n) := by
  have hlt : r.toNat * 2 ^ n < 2 ^ (m + n) := by
    rw [Nat.pow_add]
    exact Nat.mul_lt_mul_of_pos_right h (Nat.two_pow_pos n)
  have hw : 2 ^ (m + n) ≤ 2 ^ w := Nat.pow_le_pow_right Nat.two_pos hn
  rw [BitVec.toNat_shiftLeft, Nat.shiftLeft_eq, Nat.mod_eq_of_lt (Nat.lt_of_lt_of_le hlt hw)]
  exact hlt

theorem iterate_bit_shiftLeft (n : Nat) : ∀ {m : Nat} {r : BitVec w}, r.toNat < 2 ^ m → m + n ≤ w →
    (bit poly)^[n] (r <<< n) = r := by
  induction n with
  | zero => simp
  | succ n ih =>
    intro m r h hn
    have hlt := toNat_shiftLeft_lt h (show m + n ≤ w by omega)
    have hbit : bit poly (r <<< n <<< 1) = r <<< n :=
      bit_shiftLeft (Nat.lt_of_lt_of_le hlt (Nat.pow_le_pow_right Nat.two_pos (by omega)))
    rw [Function.iterate_succ_apply, BitVec.shiftLeft_add, hbit, ih h (by omega)]

/-! ## Messages -/

/-- The register after one symbol of `k` bits. -/
def feed (poly r : BitVec w) (x : BitVec k) : BitVec w := (bit poly)^[k] (r ^^^ x.setWidth w)

/-- The register after a message. -/
def run (poly r : BitVec w) (xs : List (BitVec k)) : BitVec w := xs.foldl (feed poly) r

theorem run_append (r : BitVec w) (xs ys : List (BitVec k)) :
    run poly r (xs ++ ys) = run poly (run poly r xs) ys :=
  List.foldl_append ..

theorem run_injective (h : poly.msb = true) (xs : List (BitVec k)) :
    Function.Injective fun r => run poly r xs := by
  induction xs with
  | nil => exact fun _ _ hrs => hrs
  | cons x xs ih =>
    intro r s hrs
    have hfeed : feed poly r x = feed poly s x := ih hrs
    exact BitVec.xor_left_inj _ |>.1 ((bit_injective h).iterate k hfeed)

/-- The symbols of a message as one word, the first one lowest. -/
def pack (w : Nat) : List (BitVec k) → BitVec w
  | [] => 0
  | x :: xs => x.setWidth w ^^^ pack w xs <<< k

theorem pack_lt (xs : List (BitVec k)) (h : k * xs.length ≤ w) : (pack w xs).toNat < 2 ^ (k * xs.length) := by
  induction xs with
  | nil => simp [pack]
  | cons x xs ih =>
    rw [List.length_cons, Nat.mul_succ] at h ⊢
    have hx : (x.setWidth w).toNat < 2 ^ (k * xs.length + k) := by
      rw [BitVec.toNat_setWidth]
      calc x.toNat % 2 ^ w ≤ x.toNat := Nat.mod_le _ _
        _ < 2 ^ k := x.isLt
        _ ≤ 2 ^ (k * xs.length + k) := Nat.pow_le_pow_right Nat.two_pos (by omega)
    have hxs := toNat_shiftLeft_lt (ih (by omega)) h
    rw [pack, BitVec.toNat_xor]
    exact Nat.xor_lt_two_pow hx hxs

/-- A message that fits in the register acts like one word of its length. -/
theorem run_eq_iterate (r : BitVec w) (xs : List (BitVec k)) (h : k * xs.length ≤ w) :
    run poly r xs = (bit poly)^[k * xs.length] (r ^^^ pack w xs) := by
  induction xs generalizing r with
  | nil => simp [run, pack]
  | cons x xs ih =>
    rw [List.length_cons, Nat.mul_succ] at h ⊢
    have htail : (bit poly)^[k] (pack w xs <<< k) = pack w xs :=
      iterate_bit_shiftLeft k (pack_lt xs (by omega)) h
    calc run poly r (x :: xs) = run poly (feed poly r x) xs := rfl
      _ = (bit poly)^[k * xs.length] (feed poly r x ^^^ pack w xs) := ih _ (by omega)
      _ = (bit poly)^[k * xs.length] ((bit poly)^[k] (r ^^^ pack w (x :: xs))) := by
        rw [pack, ← BitVec.xor_assoc, iterate_bit_xor k, htail, feed]
      _ = (bit poly)^[k * xs.length + k] (r ^^^ pack w (x :: xs)) := (Function.iterate_add_apply ..).symm

theorem pack_injective {xs ys : List (BitVec k)} (hl : xs.length = ys.length) (h : k * xs.length ≤ w)
    (hp : pack w xs = pack w ys) : xs = ys := by
  induction xs generalizing ys with
  | nil => exact (List.length_eq_zero_iff.1 hl.symm).symm
  | cons x xs ih =>
    obtain _ | ⟨y, ys⟩ := ys
    · cases hl
    rw [List.length_cons, Nat.mul_succ] at h
    have hl : xs.length = ys.length := Nat.succ.inj hl
    have hk : k * ys.length = k * xs.length := by rw [hl]
    have hbit : ∀ i, (pack w (x :: xs)).getLsbD i = (pack w (y :: ys)).getLsbD i := fun i => by rw [hp]
    have hxy : x = y := by
      apply BitVec.eq_of_getLsbD_eq
      intro i hi
      have := hbit i
      simpa [pack, hi, show i < w by omega] using this
    have hrest : pack w xs = pack w ys := by
      apply BitVec.eq_of_getLsbD_eq
      intro i hi
      by_cases hin : k + i < w
      · have := hbit (k + i)
        simpa [pack, hin, BitVec.getLsbD_eq_getElem hi, Nat.not_lt.2 (Nat.le_add_right k i)] using this
      · rw [getLsbD_of_lt (pack_lt xs (by omega)) (by omega), getLsbD_of_lt (pack_lt ys (by omega)) (by omega)]
    rw [hxy, ih hl (by omega) hrest]

/-- The message ends in the register `f` exactly when its last word is the difference to `f`. -/
theorem run_eq_iff (h : poly.msb = true) (r f : BitVec w) (xs : List (BitVec k)) (hl : k * xs.length = w) :
    run poly r xs = (bit poly)^[w] f ↔ pack w xs = r ^^^ f := by
  rw [run_eq_iterate r xs (Nat.le_of_eq hl), hl, ((bit_injective h).iterate w).eq_iff]
  constructor
  · rintro rfl
    rw [← BitVec.xor_assoc, BitVec.xor_self, BitVec.zero_xor]
  · intro hp
    rw [hp, ← BitVec.xor_assoc, BitVec.xor_self, BitVec.zero_xor]

/-- Messages that differ within one window no longer than the register end in different registers. -/
theorem burst (h : poly.msb = true) {r : BitVec w} {p u v q : List (BitVec k)} (hl : u.length = v.length)
    (hk : k * u.length ≤ w) (he : run poly r (p ++ (u ++ q)) = run poly r (p ++ (v ++ q))) : u = v := by
  rw [run_append, run_append, run_append, run_append] at he
  have hwin := run_injective h q he
  rw [run_eq_iterate _ u hk, run_eq_iterate _ v (hl ▸ hk), hl] at hwin
  have hpack := BitVec.xor_right_inj _ |>.1 ((bit_injective h).iterate _ hwin)
  exact pack_injective hl hk hpack

/-- Messages of one length that agree outside a window no longer than the register, and end in the same
register, are the same. -/
theorem eq_of_window (h : poly.msb = true) {r : BitVec w} {xs ys : List (BitVec k)} {i n : Nat}
    (hl : xs.length = ys.length) (hn : k * n ≤ w) (hw : ∀ j, j < i ∨ i + n ≤ j → xs[j]? = ys[j]?)
    (he : run poly r xs = run poly r ys) : xs = ys := by
  have hsplit : ∀ zs : List (BitVec k), zs = zs.take i ++ ((zs.drop i).take n ++ (zs.drop i).drop n) := by
    intro zs
    rw [List.take_append_drop, List.take_append_drop]
  have hfront : ys.take i = xs.take i := by
    apply List.ext_getElem?
    intro j
    by_cases hj : j < i
    · rw [List.getElem?_take_of_lt hj, List.getElem?_take_of_lt hj, hw j (.inl hj)]
    · rw [List.getElem?_take_eq_none (by omega), List.getElem?_take_eq_none (by omega)]
  have hback : (ys.drop i).drop n = (xs.drop i).drop n := by
    apply List.ext_getElem?
    intro j
    simp only [List.getElem?_drop]
    exact (hw (i + (n + j)) (.inr (by omega))).symm
  have hwin : ((xs.drop i).take n).length = ((ys.drop i).take n).length := by
    simp only [List.length_take, List.length_drop, hl]
  rw [hsplit xs, hsplit ys, hfront, hback] at he
  have hk : k * ((xs.drop i).take n).length ≤ w :=
    Nat.le_trans (Nat.mul_le_mul_left k (List.length_take_le n _)) hn
  rw [hsplit xs, hsplit ys, hfront, hback, burst h hwin hk he]

end Crc
