import Mathlib.Tactic
import Mathlib.Data.ZMod.Basic

/-!
# Remainders of bit sequences

A register of `w` bits that divides a sequence of bits by a polynomial, as cyclic redundancy checks
do. A sequence with an odd number of ones leaves a remainder when the polynomial has an odd number
of lower terms (`divide_odd`), and so does a short burst of ones (`divide_burst`).
-/

namespace ModbusNet

section
variable {w : Nat}

def bitWord (bit : Bool) : BitVec w := (BitVec.ofBool bit).setWidth w

theorem bitWord_getLsbD (bit : Bool) (i : Nat) :
    (bitWord bit : BitVec w).getLsbD i = (decide (i < w) && (decide (i = 0) && bit)) := by
  rw [bitWord, BitVec.getLsbD_setWidth, BitVec.getLsbD_ofBool]

@[simp] theorem bitWord_false : (bitWord false : BitVec w) = 0#w := by
  apply BitVec.eq_of_getLsbD_eq
  intro i bound
  simp [bitWord_getLsbD]

theorem bitWord_xor (a b : Bool) : (bitWord (a ^^ b) : BitVec w) = bitWord a ^^^ bitWord b := by
  apply BitVec.eq_of_getLsbD_eq
  intro i bound
  simp only [BitVec.getLsbD_xor, bitWord_getLsbD, bound, decide_true, Bool.true_and]
  cases decide (i = 0) <;> simp

variable (poly : BitVec w)

def shiftOut (x : BitVec w) : BitVec w := if x.getLsbD 0 then (x >>> 1) ^^^ poly else x >>> 1

def divide (x : BitVec w) (bits : List Bool) : BitVec w :=
  bits.foldl (fun x bit => shiftOut poly (x ^^^ bitWord bit)) x

@[simp] theorem divide_nil (x : BitVec w) : divide poly x [] = x := rfl

@[simp] theorem divide_cons (x : BitVec w) (bit : Bool) (bits : List Bool) :
    divide poly x (bit :: bits) = divide poly (shiftOut poly (x ^^^ bitWord bit)) bits := rfl

theorem divide_append (x : BitVec w) (bits bits' : List Bool) :
    divide poly x (bits ++ bits') = divide poly (divide poly x bits) bits' :=
  List.foldl_append

theorem shiftOut_xor (x y : BitVec w) :
    shiftOut poly (x ^^^ y) = shiftOut poly x ^^^ shiftOut poly y := by
  apply BitVec.eq_of_getLsbD_eq
  intro i bound
  simp only [shiftOut, BitVec.getLsbD_xor]
  cases x.getLsbD 0 <;> cases y.getLsbD 0 <;>
    simp only [Bool.false_eq_true, if_false, if_true, Bool.xor_false, Bool.xor_true, Bool.not_false,
      Bool.not_true, BitVec.getLsbD_xor, BitVec.getLsbD_ushiftRight] <;>
    cases x.getLsbD (1 + i) <;> cases y.getLsbD (1 + i) <;> cases poly.getLsbD i <;> rfl

@[simp] theorem shiftOut_zero : shiftOut poly 0#w = 0#w := by
  simp [shiftOut]

theorem shiftOut_iterate_zero (n : Nat) : (shiftOut poly)^[n] 0#w = 0#w := by
  induction n with
  | zero => rfl
  | succ n ih => rw [Function.iterate_succ_apply, shiftOut_zero, ih]

theorem shiftOut_iterate_xor (n : Nat) (x y : BitVec w) :
    (shiftOut poly)^[n] (x ^^^ y) = (shiftOut poly)^[n] x ^^^ (shiftOut poly)^[n] y := by
  induction n generalizing x y with
  | zero => rfl
  | succ n ih => rw [Function.iterate_succ_apply, shiftOut_xor, ih]; rfl

theorem divide_xor (x y : BitVec w) (bits errors : List Bool) (same : errors.length = bits.length) :
    divide poly (x ^^^ y) (List.zipWith (· ^^ ·) bits errors) =
      divide poly x bits ^^^ divide poly y errors := by
  induction bits generalizing x y errors with
  | nil =>
      rw [List.length_nil, List.length_eq_zero_iff] at same
      rw [same]
      rfl
  | cons bit bits ih =>
      cases errors with
      | nil => cases same
      | cons error errors =>
          rw [List.zipWith_cons_cons, divide_cons, divide_cons, divide_cons,
            ← ih _ _ errors (by simpa using same), ← shiftOut_xor, bitWord_xor]
          congr 2
          rw [BitVec.xor_assoc, BitVec.xor_assoc, ← BitVec.xor_assoc y, BitVec.xor_comm y,
            BitVec.xor_assoc]

theorem divide_zeros (x : BitVec w) (bits : List Bool) (zeros : ∀ bit ∈ bits, bit = false) :
    divide poly x bits = (shiftOut poly)^[bits.length] x := by
  induction bits generalizing x with
  | nil => rfl
  | cons bit bits ih =>
      rw [divide_cons, zeros bit (List.mem_cons_self ..), bitWord_false, BitVec.xor_zero,
        ih _ fun bit' member => zeros bit' (List.mem_cons_of_mem _ member)]
      rfl

def wordOfBits : List Bool → BitVec w
  | [] => 0#w
  | bit :: bits => bitWord bit ^^^ (wordOfBits bits <<< 1)

theorem wordOfBits_getLsbD (bits : List Bool) (i : Nat) (bound : i < w) :
    (wordOfBits bits : BitVec w).getLsbD i = bits.getD i false := by
  induction bits generalizing i with
  | nil => simp [wordOfBits]
  | cons bit bits ih =>
      rw [wordOfBits, BitVec.getLsbD_xor, bitWord_getLsbD, BitVec.getLsbD_shiftLeft]
      cases i with
      | zero => simp [bound]
      | succ i => simp [bound, ih i (by omega)]

theorem shiftOut_shiftLeft (x : BitVec w) (clear : ∀ i, w ≤ i + 1 → x.getLsbD i = false) :
    shiftOut poly (x <<< 1) = x := by
  apply BitVec.eq_of_getLsbD_eq
  intro i bound
  have low : (x <<< 1).getLsbD 0 = false := by simp
  rw [shiftOut, low, if_neg Bool.false_ne_true, BitVec.getLsbD_ushiftRight,
    BitVec.getLsbD_shiftLeft]
  by_cases top : 1 + i < w
  · rw [Nat.add_comm 1 i] at top ⊢
    simp [top]
  · simp [top, clear i (by omega)]

theorem shiftOut_iterate_shiftLeft (n : Nat) (x : BitVec w)
    (clear : ∀ i, w ≤ i + n → x.getLsbD i = false) : (shiftOut poly)^[n] (x <<< n) = x := by
  induction n with
  | zero => simp
  | succ n ih =>
      rw [Function.iterate_succ_apply, BitVec.shiftLeft_add, shiftOut_shiftLeft]
      · exact ih fun i high => clear i (by omega)
      · intro i high
        rw [BitVec.getLsbD_shiftLeft]
        by_cases inside : i < n
        · simp [inside]
        · simp [clear (i - n) (by omega)]

theorem divide_word (x : BitVec w) (bits : List Bool) (fits : bits.length ≤ w) :
    divide poly x bits = (shiftOut poly)^[bits.length] (x ^^^ wordOfBits bits) := by
  induction bits generalizing x with
  | nil => simp [wordOfBits]
  | cons bit bits ih =>
      rw [List.length_cons] at fits
      have clear : ∀ i, w ≤ i + 1 → (wordOfBits bits : BitVec w).getLsbD i = false := by
        intro i high
        by_cases bound : i < w
        · rw [wordOfBits_getLsbD _ _ bound]
          simp [show bits.length ≤ i by omega]
        · exact BitVec.getLsbD_of_ge _ _ (by omega)
      rw [divide_cons, ih _ (by omega), List.length_cons, Function.iterate_succ_apply, wordOfBits,
        ← BitVec.xor_assoc, shiftOut_xor poly (x ^^^ bitWord bit), shiftOut_shiftLeft poly _ clear]

theorem shiftOut_eq_zero (top : poly.msb = true) {x : BitVec w} (zero : shiftOut poly x = 0#w) :
    x = 0#w := by
  have positive : 0 < w := by
    by_contra empty
    obtain rfl : w = 0 := by omega
    simp [BitVec.eq_nil poly] at top
  rw [shiftOut] at zero
  split at zero
  · have high := congrArg BitVec.msb zero
    rw [BitVec.msb_xor, top, BitVec.msb_ushiftRight] at high
    simp at high
  · rename_i low
    apply BitVec.eq_of_getLsbD_eq
    intro i bound
    cases i with
    | zero => simpa using low
    | succ i =>
        have bit := congrArg (BitVec.getLsbD · i) zero
        simpa [Nat.add_comm 1 i] using bit

theorem shiftOut_iterate_eq_zero (top : poly.msb = true) (n : Nat) {x : BitVec w}
    (zero : (shiftOut poly)^[n] x = 0#w) : x = 0#w := by
  induction n with
  | zero => exact zero
  | succ n ih =>
      rw [Function.iterate_succ_apply'] at zero
      exact ih (shiftOut_eq_zero poly top zero)

theorem shiftOut_iterate_injective (top : poly.msb = true) (n : Nat) {x y : BitVec w}
    (same : (shiftOut poly)^[n] x = (shiftOut poly)^[n] y) : x = y := by
  apply BitVec.xor_eq_zero_iff.mp
  apply shiftOut_iterate_eq_zero poly top n
  rw [shiftOut_iterate_xor, same, BitVec.xor_self]

def Burst (n : Nat) (bits : List Bool) : Prop :=
  ∃ start, ∀ i, bits.getD i false = true → start ≤ i ∧ i < start + n

theorem divide_burst (top : poly.msb = true) {bits : List Bool} (burst : Burst w bits)
    (some : true ∈ bits) : divide poly 0#w bits ≠ 0#w := by
  obtain ⟨start, inside⟩ := burst
  have zeros : ∀ part : List Bool, ∀ offset, (∀ i, part.getD i false = true →
      bits.getD (offset + i) false = true ∧ ¬ (start ≤ offset + i ∧ offset + i < start + w)) →
      ∀ bit ∈ part, bit = false := by
    intro part offset outside bit member
    obtain ⟨i, bound, rfl⟩ := List.getElem_of_mem member
    by_contra one
    have at_i : part.getD i false = true := by simpa [bound] using one
    obtain ⟨found, beyond⟩ := outside i at_i
    exact beyond (inside _ found)
  have front : ∀ bit ∈ bits.take start, bit = false := by
    refine zeros _ 0 fun i one => ?_
    have bound : i < start := by
      by_contra beyond
      simp [List.getD_eq_getElem?_getD, beyond] at one
    rw [Nat.zero_add]
    exact ⟨by simpa [List.getD_eq_getElem?_getD, List.getElem?_take, bound] using one, by omega⟩
  have back : ∀ bit ∈ (bits.drop start).drop w, bit = false := by
    refine zeros _ (start + w) fun i one => ⟨?_, by omega⟩
    simpa [List.getD_eq_getElem?_getD, List.getElem?_drop, Nat.add_assoc, Nat.add_comm] using one
  -- Zeros only shift the register, and no word but zero is shifted to zero.
  have split : bits = bits.take start ++ ((bits.drop start).take w ++ (bits.drop start).drop w) := by
    rw [List.take_append_drop, List.take_append_drop]
  have fits : ((bits.drop start).take w).length ≤ w := List.length_take_le _ _
  intro zero
  rw [split, divide_append, divide_append, divide_zeros poly _ _ front, shiftOut_iterate_zero,
    divide_zeros poly _ _ back, divide_word poly _ _ fits, BitVec.zero_xor] at zero
  have word := shiftOut_iterate_eq_zero poly top _ (shiftOut_iterate_eq_zero poly top _ zero)
  obtain ⟨i, bound, one⟩ := List.getElem_of_mem some
  obtain ⟨low, high⟩ := inside i (by simp [bound, one])
  have bit := congrArg (BitVec.getLsbD · (i - start)) word
  simp only [wordOfBits_getLsbD _ _ (show i - start < w by omega), BitVec.getLsbD_zero] at bit
  rw [List.getD_eq_getElem?_getD, List.getElem?_take_of_lt (by omega), List.getElem?_drop,
    show start + (i - start) = i by omega, List.getElem?_eq_getElem bound, one] at bit
  cases bit

def bitValue (bit : Bool) : ZMod 2 := if bit then 1 else 0

theorem bitValue_xor (a b : Bool) : bitValue (a ^^ b) = bitValue a + bitValue b := by
  cases a <;> cases b <;> decide

def parity (x : BitVec w) : ZMod 2 := ∑ i ∈ Finset.range w, bitValue (x.getLsbD i)

theorem parity_xor (x y : BitVec w) : parity (x ^^^ y) = parity x + parity y := by
  simp only [parity, BitVec.getLsbD_xor, bitValue_xor, Finset.sum_add_distrib]

theorem parity_shift (x : BitVec w) : parity (x >>> 1) + bitValue (x.getLsbD 0) = parity x := by
  have last : bitValue (x.getLsbD w) = 0 := by simp [bitValue]
  have whole := Finset.sum_range_succ' (fun i => bitValue (x.getLsbD i)) w
  rw [Finset.sum_range_succ, last, add_zero] at whole
  simp only [parity, BitVec.getLsbD_ushiftRight, Nat.add_comm 1]
  exact whole.symm

theorem parity_bitWord (positive : 0 < w) (bit : Bool) :
    parity (bitWord bit : BitVec w) = bitValue bit := by
  rw [parity, Finset.sum_eq_single_of_mem 0 (Finset.mem_range.mpr positive)]
  · rw [bitWord_getLsbD]
    simp [positive]
  · intro i _ other
    simp [bitWord_getLsbD, other, bitValue]

theorem parity_shiftOut (odd : parity poly = 1) (x : BitVec w) :
    parity (shiftOut poly x) = parity x := by
  have shifted := parity_shift x
  rw [shiftOut]
  split
  · rename_i one
    rw [one] at shifted
    rw [parity_xor, odd]
    exact shifted
  · rename_i zero
    rw [Bool.eq_false_of_not_eq_true zero] at shifted
    exact (add_zero _).symm.trans shifted

theorem parity_divide (odd : parity poly = 1) (x : BitVec w) (bits : List Bool) :
    parity (divide poly x bits) = parity x + (bits.count true : ZMod 2) := by
  have positive : 0 < w := by
    by_contra empty
    obtain rfl : w = 0 := by omega
    simp [parity] at odd
  induction bits generalizing x with
  | nil => simp
  | cons bit bits ih =>
      rw [divide_cons, ih, parity_shiftOut poly odd, parity_xor, parity_bitWord positive, add_assoc]
      cases bit <;> simp [bitValue, add_comm]

theorem divide_odd (odd : parity poly = 1) {bits : List Bool} (ones : Odd (bits.count true)) :
    divide poly 0#w bits ≠ 0#w := by
  intro zero
  have sum := parity_divide poly odd 0#w bits
  rw [zero, (ZMod.natCast_eq_one_iff_odd).mpr ones] at sum
  simp at sum

end
end ModbusNet
