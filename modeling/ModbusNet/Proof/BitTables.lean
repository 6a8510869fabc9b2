import ModbusNet.Proof.ClientRequests
import ModbusNet.Proof.Reply

/-!
# Tables of bits with any contents

`response_io_status` and `modbus_get_byte_from_bits` shift whole entries, so an entry other than 0 and
1 reaches the bits of the entries after it. When every entry is reported as if it were alone
(`bitTables_iff`).
-/

namespace ModbusNet

/-- A bit of entry `j` that lands on a later entry `k` of the same byte. -/
def Spills (entry : Nat → Byte) (j k : Nat) : Prop :=
  j < k ∧ j / 8 = k / 8 ∧ (entry j).getLsbD (k - j) = true

/-- No entry reaches one that is 0, and every other entry is odd or reached by one before it. -/
def Separate (entry : Nat → Byte) (nb : Nat) : Prop :=
  ∀ k < nb, (entry k = 0 → ∀ j, ¬ Spills entry j k) ∧
    (entry k ≠ 0 → (entry k).getLsbD 0 = true ∨ ∃ j, Spills entry j k)

def Reported (entry : Nat → Byte) (k : Nat) : Prop :=
  (entry k).getLsbD 0 = true ∨ ∃ j, Spills entry j k

theorem separate_iff (entry : Nat → Byte) (nb : Nat) :
    Separate entry nb ↔ ∀ k < nb, (Reported entry k ↔ entry k ≠ 0) := by
  refine forall₂_congr fun k _ => ?_
  have even : entry k = 0 → ¬ (entry k).getLsbD 0 = true := by
    intro zero
    rw [zero]
    decide
  rw [Reported, ← not_exists]
  tauto

theorem reported_iff (entry : Nat → Byte) (k : Nat) :
    Reported entry k ↔ ∃ j ≤ k, j / 8 = k / 8 ∧ (entry j).getLsbD (k - j) = true := by
  constructor
  · rintro (own | ⟨j, before, same, set⟩)
    · exact ⟨k, le_rfl, rfl, by rwa [Nat.sub_self]⟩
    · exact ⟨j, before.le, same, set⟩
  · rintro ⟨j, before, same, set⟩
    rcases Nat.eq_or_lt_of_le before with rfl | later
    · rw [Nat.sub_self] at set
      exact .inl set
    · exact .inr ⟨j, later, same, set⟩

theorem separate_of_binary (entry : Nat → Byte) (binary : ∀ k, entry k = 0 ∨ entry k = 1) (nb : Nat) :
    Separate entry nb := by
  have alone : ∀ j k, ¬ Spills entry j k := by
    rintro j k ⟨later, -, set⟩
    rcases binary j with zero | one
    · rw [zero] at set
      simp at set
    · rw [one] at set
      simp [BitVec.getLsbD_one, show k - j ≠ 0 by omega] at set
  intro k _
  refine ⟨fun _ j => alone j k, fun nonzero => .inl ?_⟩
  rw [(binary k).resolve_left nonzero]
  decide

def StatusReported (tab : List Byte) (address nb : Nat) (rsp : List Byte) (dest : Buffer) : Prop :=
  ∃ packed, responseIoStatus tab address nb rsp = .ok packed ∧
    ∀ k < nb, unpackLoop (ofBytes packed) nb (byteCount nb) rsp.length 0 dest k =
      if ofBytes tab (address + k) ≠ 0 then 1 else 0

theorem statusReported_iff (tab : List Byte) (address nb : Nat) (inside : address + nb ≤ tab.length)
    (rsp : List Byte) (dest : Buffer) :
    StatusReported tab address nb rsp dest ↔ Separate (fun k => ofBytes tab (address + k)) nb := by
  set values := (slice tab address nb).map BitVec.toNat with values_def
  have packed : responseIoStatus tab address nb rsp = .ok (rsp ++ packValues values) := by
    have closed : responseIoStatus tab address nb rsp =
        (responseIoStatusLoop tab nb address 0 0 rsp).map closeStatus := by
      rw [responseIoStatus]
      cases responseIoStatusLoop tab nb address 0 0 rsp <;> rfl
    rw [closed, responseIoStatusLoop_inside _ _ _ _ _ _ inside]
    rfl
  have length : values.length = nb := by
    rw [List.length_map, slice_length _ _ _ inside]
  have value : ∀ j < nb, values.getD j 0 = (ofBytes tab (address + j)).toNat := by
    intro j bound
    simp [values_def, slice, ofBytes, List.getD_eq_getElem?_getD, bound,
      show address + j < tab.length by omega]
  have bits : ∀ k < nb, bitAt (ofBytes (packValues values)) k = true ↔
      Reported (fun k => ofBytes tab (address + k)) k := by
    intro k bound
    rw [reported_iff, packValues, packFrom_spill values 0 0 k (by omega) (by omega)]
    simp only [Nat.zero_testBit, Bool.false_eq_true, and_false, false_or, Nat.zero_add]
    refine exists_congr fun j => and_congr_right fun before => and_congr_right fun _ => ?_
    rw [value j (by omega)]
    rfl
  have unpacked : ∀ k < nb, unpackLoop (ofBytes (rsp ++ packValues values)) nb (byteCount nb)
      rsp.length 0 dest k = if bitAt (ofBytes (packValues values)) k then 1 else 0 := by
    intro k bound
    have behind : (fun j => ofBytes (rsp ++ packValues values) (rsp.length + j)) =
        ofBytes (packValues values) := funext fun j => ofBytes_append_right _ _ _
    rw [unpackLoop_eq _ _ _ _ _ _ (Nat.zero_le _), behind, byteCount_eq]
    exact if_pos (by omega)
  rw [separate_iff]
  constructor
  · rintro ⟨packed', run, report⟩ k bound
    obtain rfl := Except.ok.inj (packed.symm.trans run)
    have cell := report k bound
    rw [unpacked k bound] at cell
    rw [← bits k bound]
    by_cases zero : ofBytes tab (address + k) = 0
    · by_cases set : bitAt (ofBytes (packValues values)) k = true
      · rw [if_pos set, if_neg (not_not.mpr zero)] at cell
        cases cell
      · exact iff_of_false set (not_not.mpr zero)
    · by_cases set : bitAt (ofBytes (packValues values)) k = true
      · exact iff_of_true set zero
      · rw [if_neg set, if_pos zero] at cell
        cases cell
  · intro separate
    refine ⟨_, packed, fun k bound => ?_⟩
    rw [unpacked k bound]
    exact if_congr ((bits k bound).trans (separate k bound)) rfl rfl

theorem byteFromBitsLoop_bit (src : Buffer) (idx left i : Nat) (value : Byte) (k : Nat) :
    (byteFromBitsLoop src idx left i value).getLsbD k = true ↔
      value.getLsbD k = true ∨
        ∃ j, i ≤ j ∧ j < i + left ∧ j ≤ k ∧ k < 8 ∧ (src (idx + j)).getLsbD (k - j) = true := by
  induction left generalizing i value with
  | zero =>
      rw [byteFromBitsLoop]
      refine (or_iff_left ?_).symm
      rintro ⟨j, low, high, -⟩
      omega
  | succ left ih =>
      rw [byteFromBitsLoop, ih, BitVec.getLsbD_or, BitVec.getLsbD_shiftLeft, Bool.or_eq_true,
        Bool.and_eq_true, Bool.and_eq_true, decide_eq_true_eq, Bool.not_eq_true', decide_eq_false_iff_not,
        or_assoc]
      refine or_congr_right ?_
      constructor
      · rintro (⟨⟨inside, after⟩, set⟩ | ⟨j, low, high, rest⟩)
        · exact ⟨i, le_rfl, by omega, not_lt.mp after, inside, set⟩
        · exact ⟨j, by omega, by omega, rest⟩
      · rintro ⟨j, low, high, before, inside, set⟩
        rcases Nat.eq_or_lt_of_le low with rfl | later
        · exact .inl ⟨⟨inside, not_lt.mpr before⟩, set⟩
        · exact .inr ⟨j, later, by omega, before, inside, set⟩

def ByteReported (src : Buffer) (idx nbBits : Nat) : Prop :=
  ∀ k < nbBits, ((modbusGetByteFromBits src idx nbBits).getLsbD k = true ↔ src (idx + k) ≠ 0)

theorem byteReported_iff (src : Buffer) (idx nbBits : Nat) (few : nbBits ≤ 8) :
    ByteReported src idx nbBits ↔ Separate (fun k => src (idx + k)) nbBits := by
  rw [separate_iff, ByteReported]
  refine forall₂_congr fun k bound => iff_congr ?_ Iff.rfl
  rw [reported_iff, modbusGetByteFromBits, if_neg (not_lt.mpr few), byteFromBitsLoop_bit]
  constructor
  · rintro (start | ⟨j, -, -, before, inside, set⟩)
    · simp at start
    · exact ⟨j, before, by omega, set⟩
  · rintro ⟨j, before, -, set⟩
    exact .inr ⟨j, Nat.zero_le j, by omega, before, by omega, set⟩

/-- The entries of a slice are reported one by one, in a response and in a byte, exactly when they are
separate. -/
theorem bitTables_iff (tab : List Byte) (address nb : Nat) (inside : address + nb ≤ tab.length)
    (rsp : List Byte) (dest : Buffer) :
    (StatusReported tab address nb rsp dest ↔ Separate (fun k => ofBytes tab (address + k)) nb) ∧
      (nb ≤ 8 → (ByteReported (ofBytes tab) address nb ↔
        Separate (fun k => ofBytes tab (address + k)) nb)) :=
  ⟨statusReported_iff tab address nb inside rsp dest, byteReported_iff (ofBytes tab) address nb⟩

theorem bitTables_iff_ones :
    StatusReported [1, 0, 1] 0 3 [] (fun _ => 0) ∧ ByteReported (ofBytes [1, 0, 1]) 0 3 := by
  have separate : Separate (fun k => ofBytes [1, 0, 1] (0 + k)) 3 := by
    refine separate_of_binary _ (fun k => ?_) 3
    rcases Nat.lt_or_ge (0 + k) 3 with inside | behind
    · have entries : ∀ i < 3, ofBytes [1, 0, 1] i = 0 ∨ ofBytes [1, 0, 1] i = 1 := by decide
      exact entries _ inside
    · exact .inl (List.getD_eq_default _ _ behind)
  have both := bitTables_iff [1, 0, 1] 0 3 (by decide) [] fun _ => 0
  exact ⟨both.1.mpr separate, (both.2 (by decide)).mpr separate⟩

theorem entry2_misreported :
    (responseIoStatus [2, 0] 0 2 []).toOption = some [0x02] ∧
      modbusGetByteFromBits (ofBytes [2, 0]) 0 2 = 0x02 ∧
      ¬ StatusReported [2, 0] 0 2 [] (fun _ => 0) ∧ ¬ ByteReported (ofBytes [2, 0]) 0 2 := by
  have mixed : ¬ Separate (fun k => ofBytes [2, 0] (0 + k)) 2 := by
    intro separate
    rcases (separate 0 (by decide)).2 (by decide) with odd | ⟨j, before, -⟩
    · exact absurd odd (by decide)
    · omega
  have packed : responseIoStatus [2, 0] 0 2 [] = .ok [0x02] := rfl
  refine ⟨by rw [packed]; rfl, by decide, fun reported => mixed ?_, fun reported => mixed ?_⟩
  · exact (statusReported_iff [2, 0] 0 2 (by decide) _ _).mp reported
  · exact (byteReported_iff (ofBytes [2, 0]) 0 2 (by decide)).mp reported

end ModbusNet
