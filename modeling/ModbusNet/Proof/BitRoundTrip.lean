import ModbusNet.Proof.BitTables

namespace ModbusNet

def readBackBytes (src : Buffer) (idx nb : Nat) : List Byte :=
  (List.range (byteCount nb)).map fun j =>
    modbusGetByteFromBits src (idx + 8 * j) (min 8 (nb - 8 * j))

structure BitsRoundTrip (dest : List Byte) (idx nb : Nat) (tabByte : Buffer) (dest' : List Byte) :
    Prop where
  length : dest'.length = dest.length
  inside : ∀ k < nb, dest'[idx + k]? = some (if (tabByte (k / 8)).getLsbD (k % 8) then 1 else 0)
  outside : ∀ i, i < idx ∨ idx + nb ≤ i → dest'[i]? = dest[i]?
  full : ∀ j < nb / 8, modbusGetByteFromBits (ofBytes dest') (idx + 8 * j) 8 = tabByte j
  last : nb % 8 ≠ 0 → modbusGetByteFromBits (ofBytes dest') (idx + 8 * (nb / 8)) (nb % 8) =
    tabByte (nb / 8) &&& BitVec.ofNat 8 (2 ^ (nb % 8) - 1)
  packed : nb ≤ maxWriteBits → ∀ req, packBytesLoop (fun k => ofBytes dest' (idx + k)) nb
    (ClientOp.writeBitsByteCount nb).toNat 0 0 req = req ++ readBackBytes (ofBytes dest') idx nb

theorem modbusGetByteFromBits_bit (src : Buffer) (idx nb : Nat) (few : nb ≤ 8) (bit : Nat → Bool)
    (binary : ∀ k < nb, src (idx + k) = if bit k then 1 else 0) (k : Nat) :
    (modbusGetByteFromBits src idx nb).getLsbD k = (decide (k < nb) && bit k) := by
  -- Entries are 0 or 1, so that each reaches its own bit only.
  have own : ∀ j < nb, j ≤ k →
      ((src (idx + j)).getLsbD (k - j) = true ↔ k = j ∧ bit j = true) := by
    intro j inside before
    rw [binary j inside]
    cases bit j with
    | false => simp
    | true =>
        have lowest : BitVec.getLsbD (1 : Byte) (k - j) = decide (k - j = 0) := by
          simp [BitVec.getLsbD_one]
        rw [if_pos rfl, lowest, decide_eq_true_eq, and_iff_left rfl]
        omega
  rw [Bool.eq_iff_iff, modbusGetByteFromBits, if_neg (not_lt.mpr few), byteFromBitsLoop_bit,
    Bool.and_eq_true, decide_eq_true_eq]
  constructor
  · rintro (start | ⟨j, -, inside, before, -, set⟩)
    · simp at start
    · obtain ⟨rfl, set⟩ := (own j (by omega) before).mp set
      exact ⟨by omega, set⟩
  · rintro ⟨inside, set⟩
    exact .inr ⟨k, by omega, by omega, le_rfl, by omega, (own k inside le_rfl).mpr ⟨rfl, set⟩⟩

theorem getLsbD_masked (b : Byte) (n k : Nat) (inside : k < 8) :
    (b &&& BitVec.ofNat 8 (2 ^ n - 1)).getLsbD k = (decide (k < n) && b.getLsbD k) := by
  rw [BitVec.getLsbD_and, BitVec.getLsbD_ofNat, Nat.testBit_two_pow_sub_one, Bool.and_comm]
  simp [inside]

section
variable {src tabByte : Buffer} {idx nb : Nat}

theorem modbusGetByteFromBits_masked
    (bits : ∀ k < nb, src (idx + k) = if bitAt tabByte k then 1 else 0) (j n : Nat) (few : n ≤ 8)
    (inside : 8 * j + n ≤ nb) :
    modbusGetByteFromBits src (idx + 8 * j) n = tabByte j &&& BitVec.ofNat 8 (2 ^ n - 1) := by
  have binary : ∀ k < n, src (idx + 8 * j + k) = if (tabByte j).getLsbD k then 1 else 0 := by
    intro k bound
    have place : (8 * j + k) / 8 = j ∧ (8 * j + k) % 8 = k := by omega
    have bit := bits (8 * j + k) (by omega)
    rwa [bitAt, place.1, place.2, ← Nat.add_assoc] at bit
  apply BitVec.eq_of_getLsbD_eq
  intro k bound
  rw [modbusGetByteFromBits_bit _ _ _ few _ binary, getLsbD_masked _ _ _ bound]

theorem packBits_readBack
    (bits : ∀ k < nb, src (idx + k) = if bitAt tabByte k then 1 else 0) :
    packBits (ClientOp.sourceBits (fun k => src (idx + k)) nb) = readBackBytes src idx nb := by
  apply List.ext_getElem
  · simp [readBackBytes, ClientOp.sourceBits]
  · intro j bound bound'
    have step : 8 * j + min 8 (nb - 8 * j) ≤ nb := by
      simp only [readBackBytes, List.length_map, List.length_range, byteCount_eq] at bound'
      omega
    have packed := packBits_byte (ClientOp.sourceBits (fun k => src (idx + k)) nb) j
    rw [ofBytes, List.getD_eq_getElem _ _ bound] at packed
    simp only [readBackBytes, List.getElem_map, List.getElem_range]
    rw [modbusGetByteFromBits_masked bits j _ (Nat.min_le_left _ _) step]
    apply BitVec.eq_of_getLsbD_eq
    intro k inside
    rw [packed k inside, getLsbD_masked _ _ _ inside, ClientOp.sourceBits]
    by_cases more : 8 * j + k < nb
    · have place : (8 * j + k) / 8 = j ∧ (8 * j + k) % 8 = k := by omega
      rw [List.getD_eq_getElem _ _ (by simpa using more), List.getElem_map, List.getElem_range,
        bits _ more, bitAt, place.1, place.2]
      have counted : k < min 8 (nb - 8 * j) := by omega
      cases (tabByte j).getLsbD k <;> simp [counted]
    · rw [List.getD_eq_default _ _ (by simpa using more)]
      have beyond : ¬ k < min 8 (nb - 8 * j) := by omega
      simp [beyond]

end

theorem modbusSetBitsFromBytes_roundTrip (dest : List Byte) (idx nb : Nat) (tabByte : Buffer)
    (fits : idx + nb ≤ dest.length) :
    ∃ dest', modbusSetBitsFromBytes dest idx nb tabByte = .ok dest' ∧
      BitsRoundTrip dest idx nb tabByte dest' := by
  have cells : (bitCellsFrom tabByte 0 nb).length = nb := bitCellsFrom_length tabByte 0 nb
  have entry := store_getElem? dest idx (bitCellsFrom tabByte 0 nb) (by rw [cells]; exact fits)
  rw [cells] at entry
  have inside : ∀ k < nb, (store dest idx (bitCellsFrom tabByte 0 nb))[idx + k]? =
      some (if bitAt tabByte k then 1 else 0) := by
    intro k bound
    rw [entry, if_pos (by omega), Nat.add_sub_cancel_left]
    simp [bitCellsFrom, bound]
  have bits : ∀ k < nb, ofBytes (store dest idx (bitCellsFrom tabByte 0 nb)) (idx + k) =
      if bitAt tabByte k then 1 else 0 := by
    intro k bound
    rw [ofBytes, List.getD_eq_getElem?_getD, inside k bound, Option.getD_some]
  refine ⟨store dest idx (bitCellsFrom tabByte 0 nb),
    setBitsFromBytesLoop_inside idx tabByte nb 0 dest fits, ?_⟩
  constructor
  · exact store_length dest idx _ (by rw [cells]; exact fits)
  · exact inside
  · intro i out
    rw [entry, if_neg (by omega)]
  · intro j whole
    have all : BitVec.ofNat 8 (2 ^ 8 - 1) = BitVec.allOnes 8 := rfl
    rw [modbusGetByteFromBits_masked bits j 8 le_rfl (by omega), all, BitVec.and_allOnes]
  · intro _
    exact modbusGetByteFromBits_masked bits (nb / 8) (nb % 8) (by omega) (by omega)
  · intro _ req
    rw [ClientOp.packBytesLoop_packBits, packBits_readBack bits]

theorem modbusSetBitsFromBytes_roundTrip_ten :
    ∃ dest', modbusSetBitsFromBytes (List.replicate 14 7) 3 10 (ofBytes [0xCD, 0x6B]) = .ok dest' ∧
      BitsRoundTrip (List.replicate 14 7) 3 10 (ofBytes [0xCD, 0x6B]) dest' :=
  modbusSetBitsFromBytes_roundTrip _ 3 10 _ (by decide)

end ModbusNet
