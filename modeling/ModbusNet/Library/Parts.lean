import Mathlib.Tactic

namespace ModbusNet

variable {e w : Nat}

/-- The OR of `n` parts, each shifted to its place; part 0 is the least significant. -/
def joinParts (extend : BitVec e → BitVec w) (part : Nat → BitVec e) : Nat → BitVec w
  | 0 => 0
  | n + 1 => extend (part n) <<< (e * n) ||| joinParts extend part n

def PartsOf (value : BitVec w) (part : Nat → BitVec e) (n : Nat) : Prop :=
  ∀ k < n, part k = value.extractLsb' (e * k) e

def OnesAbove (e : Nat) (value : BitVec w) : Prop :=
  ∀ k, value.getLsbD (e * (k + 1) - 1) = true →
    ∀ j, e * (k + 1) ≤ j → j < w → value.getLsbD j = true

theorem joinParts_bit (extend : BitVec e → BitVec w) (part : Nat → BitVec e) (n j : Nat) :
    (joinParts extend part n).getLsbD j = true ↔
      j < w ∧ ∃ k < n, e * k ≤ j ∧ (extend (part k)).getLsbD (j - e * k) = true := by
  induction n with
  | zero => simp [joinParts]
  | succ n ih =>
      rw [joinParts, BitVec.getLsbD_or, Bool.or_eq_true, ih, BitVec.getLsbD_shiftLeft,
        Bool.and_eq_true, Bool.and_eq_true, decide_eq_true_eq, Bool.not_eq_true',
        decide_eq_false_iff_not, not_lt]
      constructor
      · rintro (⟨⟨inside, reached⟩, set⟩ | ⟨inside, k, below, reached, set⟩)
        · exact ⟨inside, n, Nat.lt_succ_self n, reached, set⟩
        · exact ⟨inside, k, Nat.lt_succ_of_lt below, reached, set⟩
      · rintro ⟨inside, k, below, reached, set⟩
        rcases Nat.eq_or_lt_of_le (Nat.le_of_lt_succ below) with rfl | lower
        · exact .inl ⟨⟨inside, reached⟩, set⟩
        · exact .inr ⟨inside, k, lower, reached, set⟩

section
variable {value : BitVec w} {part : Nat → BitVec e} {n : Nat}

theorem PartsOf.bit (parts : PartsOf value part n) {k : Nat} (below : k < n) (i : Nat) :
    (part k).getLsbD i = (decide (i < e) && value.getLsbD (e * k + i)) := by
  rw [parts k below, BitVec.getLsbD_extractLsb']

theorem part_of_bit (positive : 0 < e) {j : Nat} (inside : j < e * n) :
    j / e < n ∧ e * (j / e) ≤ j ∧ j - e * (j / e) < e ∧ e * (j / e) + (j - e * (j / e)) = j := by
  have split := Nat.div_add_mod j e
  have small := Nat.mod_lt j positive
  refine ⟨Nat.div_lt_of_lt_mul inside, by omega, by omega, by omega⟩

theorem joinParts_setWidth (positive : 0 < e) (whole : w = e * n) (parts : PartsOf value part n) :
    joinParts (BitVec.setWidth w) part n = value := by
  apply BitVec.eq_of_getLsbD_eq
  intro j inside
  rw [Bool.eq_iff_iff, joinParts_bit]
  constructor
  · rintro ⟨-, k, below, reached, set⟩
    rw [BitVec.getLsbD_setWidth, parts.bit below, Nat.add_sub_cancel' reached] at set
    exact ((Bool.and_eq_true _ _).mp ((Bool.and_eq_true _ _).mp set).2).2
  · intro set
    obtain ⟨below, reached, within, place⟩ := part_of_bit positive (whole ▸ inside)
    refine ⟨inside, j / e, below, reached, ?_⟩
    rw [BitVec.getLsbD_setWidth, parts.bit below, place, set]
    simp only [within, decide_true, Bool.and_true, decide_eq_true_eq]
    omega

theorem PartsOf.signExtend_bit (parts : PartsOf value part n) (positive : 0 < e) {k : Nat}
    (below : k < n) {j : Nat} (inside : j < w) (reached : e * k ≤ j) :
    ((part k).signExtend w).getLsbD (j - e * k) =
      if j < e * (k + 1) then value.getLsbD j else value.getLsbD (e * (k + 1) - 1) := by
  have next : e * (k + 1) = e * k + e := Nat.mul_succ e k
  have small : j - e * k < w := by omega
  rw [BitVec.getLsbD_signExtend, decide_eq_true small, Bool.true_and]
  by_cases own : j - e * k < e
  · rw [if_pos own, if_pos (by omega), parts.bit below, Nat.add_sub_cancel' reached,
      decide_eq_true own, Bool.true_and]
  · have top : e * k + (e - 1) = e * (k + 1) - 1 := by omega
    have last : e - 1 < e := by omega
    rw [if_neg own, if_neg (by omega), BitVec.msb_eq_getLsbD_last, parts.bit below, top,
      decide_eq_true last, Bool.true_and]

theorem joinParts_signExtend_iff (positive : 0 < e) (whole : w = e * n)
    (parts : PartsOf value part n) :
    joinParts (BitVec.signExtend w) part n = value ↔ OnesAbove e value := by
  constructor
  · intro same k set j reached inside
    have next : e * (k + 1) = e * k + e := Nat.mul_succ e k
    have below : k < n := by
      have room : e * (k + 1) < e * n := by omega
      have := Nat.lt_of_mul_lt_mul_left room
      omega
    rw [← same, joinParts_bit]
    refine ⟨inside, k, below, by omega, ?_⟩
    rw [parts.signExtend_bit positive below inside (by omega), if_neg (by omega), set]
  -- The ones that extend a part do no harm where the value has ones.
  · intro ones
    apply BitVec.eq_of_getLsbD_eq
    intro j inside
    rw [Bool.eq_iff_iff, joinParts_bit]
    constructor
    · rintro ⟨-, k, below, reached, set⟩
      rw [parts.signExtend_bit positive below inside reached] at set
      by_cases own : j < e * (k + 1)
      · rwa [if_pos own] at set
      · rw [if_neg own] at set
        exact ones k set j (not_lt.mp own) inside
    · intro set
      obtain ⟨below, reached, within, -⟩ := part_of_bit positive (whole ▸ inside)
      refine ⟨inside, j / e, below, reached, ?_⟩
      have next : e * (j / e + 1) = e * (j / e) + e := Nat.mul_succ e (j / e)
      rw [parts.signExtend_bit positive below inside reached, if_pos (by omega), set]

end

end ModbusNet
