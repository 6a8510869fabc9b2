import Mathlib.Tactic
import Mathlib.Data.Int.Log

/-!
# Single precision numbers

Binary32 values as rationals with two infinities and one NaN; the zeros of both signs are one value.
Sums of integers up to `2 ^ 24` are exact (`add_intCast`, `sub_intCast`).
-/

namespace ModbusNet

inductive Binary32
  | finite (q : ℚ)
  | infinity (negative : Bool)
  | nan
  deriving DecidableEq

namespace Binary32

def roundEven (q : ℚ) : ℤ :=
  if q - ⌊q⌋ < 1 / 2 ∨ q - ⌊q⌋ = 1 / 2 ∧ ⌊q⌋ % 2 = 0 then ⌊q⌋ else ⌊q⌋ + 1

def ulpExponent (q : ℚ) : ℤ := max (Int.log 2 |q| - 23) (-149)

def round (q : ℚ) : Binary32 :=
  let r := roundEven (q / 2 ^ ulpExponent q) * (2 : ℚ) ^ ulpExponent q
  if |r| < 2 ^ 128 then finite r else infinity (decide (r < 0))

def neg : Binary32 → Binary32
  | finite q => finite (-q)
  | infinity negative => infinity !negative
  | nan => nan

def add : Binary32 → Binary32 → Binary32
  | finite p, finite q => round (p + q)
  | infinity s, infinity t => if s = t then infinity s else nan
  | infinity s, finite _ => infinity s
  | finite _, infinity t => infinity t
  | _, _ => nan

instance : Zero Binary32 := ⟨finite 0⟩
instance : Add Binary32 := ⟨add⟩
instance : Sub Binary32 := ⟨fun x y => add x (neg y)⟩

def differs : Binary32 → Binary32 → Bool
  | nan, _ => true
  | _, nan => true
  | x, y => x ≠ y

/-- Truncated and taken modulo `2 ^ 16`. -/
def toUint16 : Binary32 → Option (BitVec 16)
  | finite q => some (BitVec.ofInt 16 (q.num.tdiv q.den))
  | _ => none

theorem roundEven_intCast (n : ℤ) : roundEven n = n := by
  simp [roundEven]

theorem round_exact {q : ℚ} {n : ℤ} (integral : q / 2 ^ ulpExponent q = n) (bounded : |q| < 2 ^ 128) :
    round q = finite q := by
  have back : (n : ℚ) * 2 ^ ulpExponent q = q := by
    rw [← integral]
    exact div_mul_cancel₀ q (zpow_ne_zero _ two_ne_zero)
  simp only [round, integral, roundEven_intCast, back, bounded, if_true]

theorem ulpExponent_le {n : ℤ} (small : |n| ≤ 2 ^ 24) :
    ulpExponent n ≤ 0 ∨ ulpExponent n = 1 ∧ |n| = 2 ^ 24 := by
  by_cases zero : n = 0
  · left
    simp [zero, ulpExponent]
  · have positive : (0 : ℚ) < |(n : ℚ)| := by
      rw [abs_pos]
      exact_mod_cast zero
    have cast : |(n : ℚ)| = ((|n| : ℤ) : ℚ) := by push_cast; rfl
    by_cases last : |n| = 2 ^ 24
    · right
      refine ⟨?_, last⟩
      have log : Int.log 2 |(n : ℚ)| = 24 := by
        have power : ((2 ^ 24 : ℤ) : ℚ) = ((2 : ℕ) : ℚ) ^ (24 : ℤ) := by norm_num
        rw [cast, last, power]
        exact Int.log_zpow (by norm_num) 24
      rw [ulpExponent, log]
      norm_num
    · left
      have below : Int.log 2 |(n : ℚ)| < 24 := by
        rw [← Int.lt_zpow_iff_log_lt (by norm_num) positive, cast]
        have strict : |n| < 2 ^ 24 := lt_of_le_of_ne small last
        exact_mod_cast strict
      rw [ulpExponent]
      omega

theorem round_intCast {n : ℤ} (small : |n| ≤ 2 ^ 24) : round n = finite n := by
  have bounded : |(n : ℚ)| < 2 ^ 128 := by
    have : |n| < 2 ^ 128 := lt_of_le_of_lt small (by norm_num)
    exact_mod_cast this
  rcases ulpExponent_le small with whole | ⟨one, last⟩
  · obtain ⟨k, exponent⟩ := Int.eq_ofNat_of_zero_le (show 0 ≤ -ulpExponent n by omega)
    refine round_exact (n := n * 2 ^ k) ?_ bounded
    have flipped : ulpExponent n = -(k : ℤ) := by omega
    rw [flipped, zpow_neg, div_inv_eq_mul, zpow_natCast]
    push_cast
    rfl
  · have half : ∃ m : ℤ, n = m * 2 := by
      rcases abs_choice n with same | opposite
      · exact ⟨2 ^ 23, by omega⟩
      · exact ⟨-2 ^ 23, by omega⟩
    obtain ⟨m, rfl⟩ := half
    refine round_exact (n := m) ?_ bounded
    rw [one]
    push_cast
    simp

theorem add_intCast {m n : ℤ} (small : |m + n| ≤ 2 ^ 24) :
    finite m + finite n = finite (m + n : ℤ) := by
  have sum : finite m + finite n = round ((m : ℚ) + n) := rfl
  rw [sum, ← Int.cast_add, round_intCast small]

theorem sub_intCast {m n : ℤ} (small : |m - n| ≤ 2 ^ 24) :
    finite m - finite n = finite (m - n : ℤ) := by
  have difference : finite m - finite n = round ((m : ℚ) + -n) := rfl
  rw [difference, ← sub_eq_add_neg, ← Int.cast_sub, round_intCast small]

theorem toUint16_intCast (n : ℤ) : (finite n).toUint16 = some (BitVec.ofInt 16 n) := by
  simp [toUint16]

theorem finite_differs (p q : ℚ) : (finite p).differs (finite q) = decide (p ≠ q) := by
  simp [differs]

end Binary32
end ModbusNet
