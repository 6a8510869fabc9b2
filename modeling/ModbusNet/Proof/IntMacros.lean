import ModbusNet.Library.Parts
import ModbusNet.Model.IntMacros

namespace ModbusNet

/-- A value is got back from the `n` elements in which it is set, as an integer of its width, and no
other element changes. -/
structure ReadsBack {e v w : Nat} (get : (Nat → BitVec e) → Nat → BitVec w)
    (set : (Nat → BitVec e) → Nat → BitVec v → Nat → BitVec e) (n : Nat) (tab : Nat → BitVec e)
    (index : Nat) (value : BitVec v) : Prop where
  got : (get (set tab index value) index).setWidth v = value
  kept : ∀ j, j < index ∨ index + n ≤ j → set tab index value j = tab j

theorem setWidth_sshiftRight {v e k : Nat} (value : BitVec v) (inside : k + e ≤ v) :
    (value.sshiftRight k).setWidth e = value.extractLsb' k e := by
  apply BitVec.eq_of_getLsbD_eq
  intro j bound
  have low : ¬ v ≤ j := by omega
  have within : k + j < v := by omega
  rw [BitVec.getLsbD_setWidth, BitVec.getLsbD_extractLsb', BitVec.getLsbD_sshiftRight,
    if_pos within, decide_eq_false low, decide_eq_true bound]
  rfl

theorem extractLsb'_signExtend {v w e k : Nat} (value : BitVec v) (inside : k + e ≤ v)
    (wider : v ≤ w) : (value.signExtend w).extractLsb' k e = value.extractLsb' k e := by
  apply BitVec.eq_of_getLsbD_eq
  intro j bound
  have within : k + j < v := by omega
  have wide : k + j < w := by omega
  rw [BitVec.getLsbD_extractLsb', BitVec.getLsbD_extractLsb', BitVec.getLsbD_signExtend,
    if_pos within, decide_eq_true wide, Bool.true_and]

theorem setWidth_signExtend {v w : Nat} (x : BitVec v) (wider : v ≤ w) :
    (x.signExtend w).setWidth v = x := by
  rw [BitVec.setWidth_eq_extractLsb' wider, extractLsb'_signExtend x (by omega) wider,
    BitVec.extractLsb'_eq_self]

theorem readsBack_iff {e v w n index : Nat} {t : Signedness} {tab : Nat → BitVec e}
    {get : (Nat → BitVec e) → Nat → BitVec w}
    {set : (Nat → BitVec e) → Nat → BitVec v → Nat → BitVec e} {value : BitVec v}
    (positive : 0 < e) (whole : v = e * n)
    (joined : ∀ tab, (get tab index).setWidth v =
      joinParts (fun x => t.widen v x) (fun k => tab (index + (n - 1 - k))) n)
    (parts : PartsOf value (fun k => set tab index value (index + (n - 1 - k))) n)
    (kept : ∀ j, j < index ∨ index + n ≤ j → set tab index value j = tab j) :
    ReadsBack get set n tab index value ↔ t = .unsigned ∨ OnesAbove e value := by
  have got : (get (set tab index value) index).setWidth v = value ↔
      t = .unsigned ∨ OnesAbove e value := by
    rw [joined]
    cases t with
    | signed => exact (joinParts_signExtend_iff positive whole parts).trans (by simp)
    | unsigned => exact iff_of_true (joinParts_setWidth positive whole parts) (.inl rfl)
  exact ⟨fun back => got.mp back.got, fun fits => ⟨got.mpr fits, kept⟩⟩

section
variable (t : Signedness) (index : Nat)

theorem int16_readsBack_iff (tab : Nat → Byte) (value : BitVec 16) :
    ReadsBack (modbusGetInt16FromInt8 t) modbusSetInt16ToInt8 2 tab index value ↔
      t = .unsigned ∨ OnesAbove 8 value := by
  refine readsBack_iff (n := 2) (by decide) (by decide) ?_ ?_ ?_
  · intro tab
    simp [modbusGetInt16FromInt8, joinParts, setWidth_signExtend]
  · intro k below
    have high := setWidth_sshiftRight (value.signExtend 32) (e := 8) (k := 8) (by decide)
    rw [extractLsb'_signExtend value (by decide) (by decide)] at high
    have cases : k = 0 ∨ k = 1 := by omega
    rcases cases with rfl | rfl
    · simp [modbusSetInt16ToInt8, BitVec.setWidth_eq_extractLsb']
    · simp [modbusSetInt16ToInt8, high]
  · intro j outside
    rw [modbusSetInt16ToInt8, Function.update_of_ne (by omega), Function.update_of_ne (by omega)]

theorem int32_readsBack_iff (tab : Nat → Word) (value : BitVec 32) :
    ReadsBack (modbusGetInt32FromInt16 t) modbusSetInt32ToInt16 2 tab index value ↔
      t = .unsigned ∨ OnesAbove 16 value := by
  refine readsBack_iff (n := 2) (by decide) (by decide) ?_ ?_ ?_
  · intro tab
    simp [modbusGetInt32FromInt16, joinParts]
  · intro k below
    have cases : k = 0 ∨ k = 1 := by omega
    rcases cases with rfl | rfl
    · simp [modbusSetInt32ToInt16, BitVec.setWidth_eq_extractLsb']
    · simp [modbusSetInt32ToInt16, setWidth_sshiftRight]
  · intro j outside
    rw [modbusSetInt32ToInt16, Function.update_of_ne (by omega), Function.update_of_ne (by omega)]

theorem int64_readsBack_iff (tab : Nat → Word) (value : BitVec 64) :
    ReadsBack (modbusGetInt64FromInt16 t) modbusSetInt64ToInt16 4 tab index value ↔
      t = .unsigned ∨ OnesAbove 16 value := by
  refine readsBack_iff (n := 4) (by decide) (by decide) ?_ ?_ ?_
  · intro tab
    simp [modbusGetInt64FromInt16, joinParts, BitVec.or_assoc]
  · intro k below
    have cases : k = 0 ∨ k = 1 ∨ k = 2 ∨ k = 3 := by omega
    rcases cases with rfl | rfl | rfl | rfl
    · simp [modbusSetInt64ToInt16, BitVec.setWidth_eq_extractLsb']
    · simp [modbusSetInt64ToInt16, setWidth_sshiftRight]
    · simp [modbusSetInt64ToInt16, setWidth_sshiftRight]
    · simp [modbusSetInt64ToInt16, setWidth_sshiftRight]
  · intro j outside
    rw [modbusSetInt64ToInt16, Function.update_of_ne (by omega), Function.update_of_ne (by omega),
      Function.update_of_ne (by omega), Function.update_of_ne (by omega)]

theorem intMacros_readBack_iff :
    (∀ tab value, ReadsBack (modbusGetInt16FromInt8 t) modbusSetInt16ToInt8 2 tab index value ↔
        t = .unsigned ∨ OnesAbove 8 value) ∧
      (∀ tab value, ReadsBack (modbusGetInt32FromInt16 t) modbusSetInt32ToInt16 2 tab index value ↔
        t = .unsigned ∨ OnesAbove 16 value) ∧
      ∀ tab value, ReadsBack (modbusGetInt64FromInt16 t) modbusSetInt64ToInt16 4 tab index value ↔
        t = .unsigned ∨ OnesAbove 16 value :=
  ⟨int16_readsBack_iff t index, int32_readsBack_iff t index, int64_readsBack_iff t index⟩

end

theorem int16_sign_spreads :
    ¬ ReadsBack (modbusGetInt16FromInt8 .signed) modbusSetInt16ToInt8 2 (fun _ => 0) 0 0x0080 ∧
      (modbusGetInt16FromInt8 .signed (modbusSetInt16ToInt8 (fun _ => 0) 0 0x0080) 0).setWidth 16 =
        0xFF80#16 :=
  ⟨fun back => absurd back.got (by decide), by decide⟩

end ModbusNet
