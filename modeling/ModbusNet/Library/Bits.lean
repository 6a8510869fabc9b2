import ModbusNet.Library.Words

namespace ModbusNet

def bitAt (bytes : Buffer) (k : Nat) : Bool := (bytes (k / 8)).getLsbD (k % 8)

theorem AgreeBelow.bitAt_eq {n : Nat} {b b' : Buffer} (agree : AgreeBelow n b b') {k : Nat}
    (bound : k < 8 * n) : bitAt b k = bitAt b' k := by
  unfold bitAt
  rw [agree (k / 8) (by omega)]

theorem and_shift_ne_zero (x s : Nat) : x &&& 1 <<< s ≠ 0 ↔ x.testBit s = true := by
  constructor
  · intro nonzero
    by_contra off
    apply nonzero
    apply Nat.eq_of_testBit_eq
    intro j
    rw [Nat.testBit_and, Nat.one_shiftLeft, Nat.testBit_two_pow]
    by_cases same : s = j
    · rw [← same, Bool.eq_false_of_not_eq_true off]
      simp
    · simp [same]
  · intro set zero
    have at_s := congrArg (Nat.testBit · s) zero
    simp [Nat.testBit_and, set] at at_s

theorem byte_masked (b : Byte) (s : Nat) : b.toNat &&& 1 <<< s ≠ 0 ↔ b.getLsbD s = true :=
  and_shift_ne_zero _ _

def byteCount (n : Nat) : Nat := n / 8 + if n % 8 = 0 then 0 else 1

theorem byteCount_eq (n : Nat) : byteCount n = (n + 7) / 8 := by
  unfold byteCount
  split <;> omega

/-- Packing values with `shift` bits already collected in `acc`. A value above 1 spills into the
bits after its own. -/
def packFrom (shift acc : Nat) : List Nat → List Byte
  | [] => if shift = 0 then [] else [BitVec.ofNat 8 acc]
  | v :: vs =>
      if shift = 7 then BitVec.ofNat 8 (acc ||| v <<< shift) :: packFrom 0 0 vs
      else packFrom (shift + 1) (acc ||| v <<< shift) vs

def packValues (values : List Nat) : List Byte := packFrom 0 0 values

def packBits (bits : List Bool) : List Byte := packValues (bits.map Bool.toNat)

theorem packFrom_length (values : List Nat) (shift acc : Nat) (partial_byte : shift ≤ 7) :
    (packFrom shift acc values).length = byteCount (shift + values.length) := by
  induction values generalizing shift acc with
  | nil =>
      simp only [packFrom, byteCount_eq, List.length_nil]
      split
      · simp_all
      · simp only [List.length_singleton]
        omega
  | cons v values ih =>
      simp only [packFrom]
      split
      · rw [List.length_cons, ih 0 0 (by omega)]
        simp only [byteCount_eq, List.length_cons]
        omega
      · rw [ih (shift + 1) _ (by omega)]
        simp only [byteCount_eq, List.length_cons]
        omega

@[simp] theorem packValues_length (values : List Nat) :
    (packValues values).length = byteCount values.length := by
  rw [packValues, packFrom_length _ _ _ (by omega), Nat.zero_add]

@[simp] theorem packBits_length (bits : List Bool) :
    (packBits bits).length = byteCount bits.length := by
  rw [packBits, packValues_length, List.length_map]

theorem or_shift_lt (acc shift : Nat) (b : Bool) (small : acc < 2 ^ shift) :
    acc ||| b.toNat <<< shift < 2 ^ (shift + 1) := by
  apply Nat.or_lt_two_pow (small.trans (Nat.pow_lt_pow_right (by omega) (by omega)))
  rw [Nat.shiftLeft_eq, Nat.pow_succ, Nat.mul_comm]
  have : b.toNat < 2 := Bool.toNat_lt b
  exact Nat.mul_lt_mul_of_pos_left this (Nat.two_pow_pos _)

theorem testBit_or_shift (acc shift : Nat) (b : Bool) (j : Nat) (small : acc < 2 ^ shift)
    (bound : j ≤ shift) :
    (acc ||| b.toNat <<< shift).testBit j = if j = shift then b else acc.testBit j := by
  rw [Nat.testBit_or, Nat.testBit_shiftLeft]
  by_cases top : j = shift
  · subst top
    rw [Nat.testBit_lt_two_pow small]
    cases b <;> simp
  · simp [top, show ¬ shift ≤ j by omega]

theorem bitAt_head (b : Byte) (bytes : List Byte) {k : Nat} (inside : k < 8) :
    bitAt (ofBytes (b :: bytes)) k = b.getLsbD k := by
  have first : k / 8 = 0 ∧ k % 8 = k := by omega
  rw [bitAt, first.1, first.2]
  rfl

theorem bitAt_tail (b : Byte) (bytes : List Byte) {k : Nat} (beyond : ¬ k < 8) :
    bitAt (ofBytes (b :: bytes)) k = bitAt (ofBytes bytes) (k - 8) := by
  have place : k / 8 = (k - 8) / 8 + 1 ∧ k % 8 = (k - 8) % 8 := by omega
  rw [bitAt, bitAt, place.1, place.2]
  rfl

theorem packFrom_bit (bits : List Bool) (shift acc : Nat) (partial_byte : shift ≤ 7)
    (small : acc < 2 ^ shift) (k : Nat) :
    bitAt (ofBytes (packFrom shift acc (bits.map Bool.toNat))) k =
      if k < shift then acc.testBit k else bits.getD (k - shift) false := by
  induction bits generalizing shift acc k with
  | nil =>
      rw [List.map_nil, packFrom, List.getD_nil]
      by_cases start : shift = 0
      · rw [if_pos start, if_neg (by omega)]
        simp [bitAt, ofBytes]
      · rw [if_neg start]
        by_cases inside : k < 8
        · rw [bitAt_head _ _ inside, BitVec.getLsbD_ofNat, decide_eq_true inside, Bool.true_and]
          by_cases low : k < shift
          · rw [if_pos low]
          · rw [if_neg low]
            exact Nat.testBit_lt_two_pow
              (small.trans_le (Nat.pow_le_pow_right (by omega) (not_lt.mp low)))
        · rw [bitAt_tail _ _ inside, if_neg (by omega)]
          simp [bitAt, ofBytes]
  | cons b bits ih =>
      have small' := or_shift_lt acc shift b small
      simp only [List.map_cons, packFrom]
      split
      · rename_i full
        by_cases inside : k < 8
        · rw [bitAt_head _ _ inside, BitVec.getLsbD_ofNat, decide_eq_true inside, Bool.true_and,
            testBit_or_shift acc shift b k small (by omega)]
          by_cases top : k = shift
          · simp [top]
          · simp [top, show k < shift by omega]
        · rw [bitAt_tail _ _ inside, ih 0 0 (by omega) (by simp) (k - 8)]
          have later : k - shift = (k - 8) + 1 := by omega
          simp [show ¬ k < shift by omega, later]
      · rw [ih (shift + 1) _ (by omega) small' k]
        by_cases old : k < shift
        · rw [if_pos (by omega), if_pos old, testBit_or_shift acc shift b k small (by omega),
            if_neg (by omega)]
        · by_cases top : k = shift
          · rw [if_pos (by omega), if_neg old, testBit_or_shift acc shift b k small (by omega),
              if_pos top]
            simp [top]
          · rw [if_neg (by omega), if_neg old, show k - shift = (k - (shift + 1)) + 1 by omega]
            simp

theorem packBits_getD (bits : List Bool) (k : Nat) :
    bitAt (ofBytes (packBits bits)) k = bits.getD k false := by
  rw [packBits, packValues, packFrom_bit bits 0 0 (by omega) (by simp) k]
  rfl

theorem packBits_bit (bits : List Bool) (k : Nat) (bound : k < bits.length) :
    bitAt (ofBytes (packBits bits)) k = bits[k] := by
  rw [packBits_getD, List.getD_eq_getElem _ _ bound]

theorem packBits_byte (bits : List Bool) (j k : Nat) (bound : k < 8) :
    (ofBytes (packBits bits) j).getLsbD k = bits.getD (8 * j + k) false := by
  have place : (8 * j + k) / 8 = j ∧ (8 * j + k) % 8 = k := by omega
  rw [← packBits_getD, bitAt, place.1, place.2]

theorem packFrom_spill (values : List Nat) (shift acc k : Nat) (partial_byte : shift ≤ 7)
    (bound : k < shift + values.length) :
    bitAt (ofBytes (packFrom shift acc values)) k = true ↔
      (k < 8 ∧ acc.testBit k = true) ∨ ∃ j, shift + j ≤ k ∧ (shift + j) / 8 = k / 8 ∧
        (values.getD j 0).testBit (k - (shift + j)) = true := by
  induction values generalizing shift acc k with
  | nil =>
      rw [List.length_nil] at bound
      have inside : k < 8 := by omega
      rw [packFrom, if_neg (by omega), bitAt_head _ _ inside]
      simp only [BitVec.getLsbD_ofNat, List.getD_nil, Nat.zero_testBit, inside, decide_true,
        Bool.true_and, true_and, Bool.false_eq_true, and_false, exists_false, or_false]
  | cons v values ih =>
      rw [List.length_cons] at bound
      have next : ∀ place, (∃ j, place + j ≤ k ∧ (place + j) / 8 = k / 8 ∧
          ((v :: values).getD j 0).testBit (k - (place + j)) = true) ↔
          (place ≤ k ∧ place / 8 = k / 8 ∧ v.testBit (k - place) = true) ∨
            ∃ j, place + 1 + j ≤ k ∧ (place + 1 + j) / 8 = k / 8 ∧
              (values.getD j 0).testBit (k - (place + 1 + j)) = true := by
        intro place
        rw [← Nat.or_exists_add_one]
        simp only [Nat.add_zero, List.getD_cons_zero, List.getD_cons_succ, ← Nat.add_assoc,
          Nat.add_right_comm place _ 1]
      rw [packFrom, next shift]
      -- A full byte is finished, and the bits that a value has beyond it are lost.
      by_cases full : shift = 7
      · rw [if_pos full, full]
        by_cases inside : k < 8
        · rw [bitAt_head _ _ inside]
          simp only [BitVec.getLsbD_ofNat, inside, decide_true, Bool.true_and, Nat.testBit_or,
            Nat.testBit_shiftLeft, Bool.or_eq_true, Bool.and_eq_true, decide_eq_true_eq, true_and]
          constructor
          · rintro (old | ⟨after, set⟩)
            · exact .inl old
            · exact .inr (.inl ⟨after, by omega, set⟩)
          · rintro (old | ⟨after, -, set⟩ | ⟨j, after, -⟩)
            · exact .inl old
            · exact .inr ⟨after, set⟩
            · omega
        · rw [bitAt_tail _ _ inside, ih 0 0 (k - 8) (by omega) (by omega)]
          constructor
          · rintro (⟨-, set⟩ | ⟨j, before, same, set⟩)
            · simp at set
            · refine .inr (.inr ⟨j, by omega, by omega, ?_⟩)
              rwa [show k - (7 + 1 + j) = k - 8 - (0 + j) by omega]
          · rintro (⟨inside', -⟩ | ⟨-, same, -⟩ | ⟨j, before, same, set⟩)
            · exact absurd inside' inside
            · omega
            · refine .inr ⟨j, by omega, by omega, ?_⟩
              rwa [show k - 8 - (0 + j) = k - (7 + 1 + j) by omega]
      · rw [if_neg full, ih (shift + 1) _ k (by omega) (by omega), Nat.testBit_or,
          Nat.testBit_shiftLeft, Bool.or_eq_true, Bool.and_eq_true, decide_eq_true_eq]
        constructor
        · rintro (⟨inside, old | ⟨after, set⟩⟩ | later)
          · exact .inl ⟨inside, old⟩
          · exact .inr (.inl ⟨after, by omega, set⟩)
          · exact .inr (.inr later)
        · rintro (⟨inside, old⟩ | ⟨after, same, set⟩ | later)
          · exact .inl ⟨inside, .inl old⟩
          · exact .inl ⟨by omega, .inr ⟨after, set⟩⟩
          · exact .inr later

end ModbusNet
