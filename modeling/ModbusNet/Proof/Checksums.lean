import ModbusNet.Library.Remainders
import ModbusNet.Proof.Backends

namespace ModbusNet

def crcPolynomial : Word := 0xA001

def modbusCrc (buffer : List Byte) : Word :=
  buffer.foldl (fun crc b => (shiftOut crcPolynomial)^[8] (crc ^^^ b.setWidth 16)) 0xFFFF

theorem tables_eq : List.zipWith wordOf tableCrcLo tableCrcHi =
    (List.range 256).map fun i => (shiftOut crcPolynomial)^[8] (BitVec.ofNat 16 i) := by
  decide +kernel

theorem table_entry (i : Byte) : wordOf (tableCrcLo.getD i.toNat 0) (tableCrcHi.getD i.toNat 0) =
    (shiftOut crcPolynomial)^[8] (i.setWidth 16) := by
  have lengths : tableCrcLo.length = 256 ∧ tableCrcHi.length = 256 := by decide +kernel
  have lo : i.toNat < tableCrcLo.length := lengths.1 ▸ i.isLt
  have hi : i.toNat < tableCrcHi.length := lengths.2 ▸ i.isLt
  have entry := congrArg (·[i.toNat]?) tables_eq
  simpa [List.getElem?_zipWith, lo, hi, i.isLt] using entry

theorem wordOf_append (hi lo : Byte) : wordOf hi lo = hi ++ lo := by
  apply BitVec.eq_of_toNat_eq
  rw [wordOf_toNat, BitVec.toNat_append, beWord, ← Nat.shiftLeft_add_eq_or_of_lt lo.isLt,
    Nat.shiftLeft_eq, Nat.mul_comm]

theorem wordOf_getLsbD (hi lo : Byte) (i : Nat) :
    (wordOf hi lo).getLsbD i = if i < 8 then lo.getLsbD i else hi.getLsbD (i - 8) := by
  rw [wordOf_append, BitVec.getLsbD_append]

theorem wordOf_xor (hi hi' lo lo' : Byte) :
    wordOf (hi ^^^ hi') (lo ^^^ lo') = wordOf hi lo ^^^ wordOf hi' lo' := by
  apply BitVec.eq_of_getLsbD_eq
  intro i bound
  simp only [BitVec.getLsbD_xor, wordOf_getLsbD]
  split <;> rfl

theorem wordOf_low (lo : Byte) : wordOf 0#8 lo = lo.setWidth 16 := by
  apply BitVec.eq_of_getLsbD_eq
  intro i bound
  rw [wordOf_getLsbD, BitVec.getLsbD_setWidth]
  by_cases low : i < 8
  · simp [low, bound]
  · simp [low, BitVec.getLsbD_of_ge lo i (by omega)]

theorem wordOf_high (hi : Byte) : wordOf hi 0#8 = hi.setWidth 16 <<< 8 := by
  apply BitVec.eq_of_getLsbD_eq
  intro i bound
  rw [wordOf_getLsbD, BitVec.getLsbD_shiftLeft, BitVec.getLsbD_setWidth]
  by_cases low : i < 8
  · simp [low]
  · simp [low, bound, show i - 8 < 16 by omega]

theorem shiftOut_high (hi : Byte) :
    (shiftOut crcPolynomial)^[8] (wordOf hi 0#8) = wordOf 0#8 hi := by
  rw [wordOf_high, wordOf_low]
  refine shiftOut_iterate_shiftLeft _ 8 _ fun i high => ?_
  rw [BitVec.getLsbD_setWidth, BitVec.getLsbD_of_ge hi i (by omega), Bool.and_false]

theorem crcStep_eq (s : CrcState) (b : Byte) :
    wordOf (crcStep s b).crcHi (crcStep s b).crcLo =
      (shiftOut crcPolynomial)^[8] (wordOf s.crcHi s.crcLo ^^^ b.setWidth 16) := by
  have entry := table_entry (s.crcLo ^^^ b)
  rw [← wordOf_low] at entry
  calc wordOf (crcStep s b).crcHi (crcStep s b).crcLo
      = wordOf 0#8 s.crcHi ^^^ wordOf (tableCrcLo.getD (s.crcLo ^^^ b).toNat 0)
          (tableCrcHi.getD (s.crcLo ^^^ b).toNat 0) := by
        rw [← wordOf_xor, BitVec.zero_xor]
        rfl
    _ = (shiftOut crcPolynomial)^[8] (wordOf s.crcHi 0#8 ^^^ wordOf 0#8 (s.crcLo ^^^ b)) := by
        rw [entry, shiftOut_iterate_xor, shiftOut_high]
    _ = (shiftOut crcPolynomial)^[8] (wordOf s.crcHi s.crcLo ^^^ b.setWidth 16) := by
        rw [← wordOf_low b, ← wordOf_xor, ← wordOf_xor, BitVec.zero_xor, BitVec.xor_zero]

theorem crc16_eq (buffer : List Byte) : crc16 buffer = modbusCrc buffer := by
  have folded : ∀ s : CrcState, wordOf (buffer.foldl crcStep s).crcHi (buffer.foldl crcStep s).crcLo =
      buffer.foldl (fun crc b => (shiftOut crcPolynomial)^[8] (crc ^^^ b.setWidth 16))
        (wordOf s.crcHi s.crcLo) := by
    induction buffer with
    | nil => exact fun s => rfl
    | cons b buffer ih =>
        intro s
        rw [List.foldl_cons, List.foldl_cons, ih, crcStep_eq]
  exact folded _

def byteBits (b : Byte) : List Bool := (List.range 8).map b.getLsbD

def transmitted (frame : List Byte) : List Bool := frame.flatMap byteBits

theorem transmitted_cons (b : Byte) (frame : List Byte) :
    transmitted (b :: frame) = byteBits b ++ transmitted frame := List.flatMap_cons

theorem wordOfBits_byteBits (b : Byte) : (wordOfBits (byteBits b) : Word) = b.setWidth 16 := by
  apply BitVec.eq_of_getLsbD_eq
  intro i bound
  rw [wordOfBits_getLsbD _ _ bound, BitVec.getLsbD_setWidth]
  by_cases low : i < 8
  · simp [byteBits, low, bound]
  · simp [byteBits, low, BitVec.getLsbD_of_ge b i (by omega)]

theorem divide_byteBits (x : Word) (b : Byte) :
    divide crcPolynomial x (byteBits b) = (shiftOut crcPolynomial)^[8] (x ^^^ b.setWidth 16) := by
  rw [divide_word _ _ _ (by simp [byteBits]), wordOfBits_byteBits]
  simp [byteBits]

theorem divide_transmitted (x : Word) (frame : List Byte) :
    divide crcPolynomial x (transmitted frame) =
      frame.foldl (fun crc b => (shiftOut crcPolynomial)^[8] (crc ^^^ b.setWidth 16)) x := by
  induction frame generalizing x with
  | nil => rfl
  | cons b frame ih =>
      rw [transmitted, List.flatMap_cons, divide_append, divide_byteBits]
      exact ih _

theorem crc16_divide (buffer : List Byte) :
    crc16 buffer = divide crcPolynomial 0xFFFF (transmitted buffer) := by
  rw [crc16_eq, divide_transmitted, modbusCrc]

theorem shiftOut_injective {x y : Word}
    (same : (shiftOut crcPolynomial)^[8] x = (shiftOut crcPolynomial)^[8] y) : x = y :=
  shiftOut_iterate_injective crcPolynomial (by decide) 8 same

theorem divide_checksum (crc : Word) (hi lo : Byte) :
    divide crcPolynomial crc (transmitted [lo, hi]) = 0#16 ↔ crc = wordOf hi lo := by
  have parts : wordOf hi 0#8 ^^^ wordOf 0#8 lo = wordOf hi lo := by
    rw [← wordOf_xor, BitVec.xor_zero, BitVec.zero_xor]
  rw [divide_transmitted, List.foldl_cons, List.foldl_cons, List.foldl_nil, ← wordOf_low, ← wordOf_low]
  constructor
  · intro zero
    have balanced := BitVec.xor_eq_zero_iff.mp (shiftOut_iterate_eq_zero crcPolynomial (by decide) 8 zero)
    rw [← shiftOut_high hi] at balanced
    have low := shiftOut_injective balanced
    rw [← parts, ← low, BitVec.xor_assoc, BitVec.xor_self, BitVec.xor_zero]
  · rintro rfl
    rw [← parts, BitVec.xor_assoc, BitVec.xor_self, BitVec.xor_zero, shiftOut_high, BitVec.xor_self,
      shiftOut_iterate_zero]

theorem crcMatches_iff (frame : List Byte) (long : 2 ≤ frame.length) :
    crcMatches frame = true ↔ divide crcPolynomial 0xFFFF (transmitted frame) = 0#16 := by
  set m := frame.take (frame.length - 2)
  set lo := frame.getD (frame.length - 2) 0
  set hi := frame.getD (frame.length - 1) 0
  have split : frame = m ++ [lo, hi] := by
    have tail : frame.drop (frame.length - 2) = [lo, hi] := by
      have next : frame.length - 2 + 1 = frame.length - 1 := by omega
      rw [List.drop_eq_getElem_cons (by omega), List.drop_eq_getElem_cons (by omega),
        List.drop_eq_nil_of_le (by omega)]
      simp [lo, hi, next, show frame.length - 2 < frame.length by omega,
        show frame.length - 1 < frame.length by omega]
    rw [← tail, List.take_append_drop]
  have joined : transmitted frame = transmitted m ++ transmitted [lo, hi] := by
    conv_lhs => rw [split]
    exact List.flatMap_append
  rw [joined, divide_append, ← crc16_divide, divide_checksum, crcMatches, beq_iff_eq]

theorem byteBits_xor (a b : Byte) :
    byteBits (a ^^^ b) = List.zipWith (· ^^ ·) (byteBits a) (byteBits b) := by
  simp [byteBits, List.zipWith_map, BitVec.getLsbD_xor]

theorem transmitted_xor (frame error : List Byte) (same : error.length = frame.length) :
    transmitted (List.zipWith (· ^^^ ·) frame error) =
      List.zipWith (· ^^ ·) (transmitted frame) (transmitted error) := by
  induction frame generalizing error with
  | nil => rfl
  | cons b frame ih =>
      cases error with
      | nil => cases same
      | cons e error =>
          rw [List.zipWith_cons_cons, transmitted_cons, transmitted_cons, transmitted_cons,
            ih error (by simpa using same), byteBits_xor, List.zipWith_append (by simp [byteBits])]

theorem transmitted_length (frame : List Byte) : (transmitted frame).length = 8 * frame.length := by
  induction frame with
  | nil => rfl
  | cons b frame ih =>
      rw [transmitted_cons, List.length_append, ih, List.length_cons]
      simp [byteBits]
      omega

/-- An odd number of flipped bits, or flipped bits within 16 places in the order of transmission. -/
def Detectable (error : List Byte) : Prop :=
  Odd ((transmitted error).count true) ∨ true ∈ transmitted error ∧ Burst 16 (transmitted error)

def flipped (frame error : List Byte) : List Byte := List.zipWith (· ^^^ ·) frame error

theorem crcMatches_flipped {frame error : List Byte} (long : 2 ≤ frame.length)
    (same : error.length = frame.length) (right : crcMatches frame = true)
    (detectable : Detectable error) : crcMatches (flipped frame error) = false := by
  have length : (flipped frame error).length = frame.length := by
    rw [flipped, List.length_zipWith, same, Nat.min_self]
  have remainder : divide crcPolynomial 0#16 (transmitted error) ≠ 0#16 := by
    rcases detectable with odd | ⟨some, burst⟩
    · exact divide_odd crcPolynomial (by decide) odd
    · exact divide_burst crcPolynomial (by decide) burst some
  rw [Bool.eq_false_iff, ne_eq, crcMatches_iff _ (by omega), flipped, transmitted_xor _ _ same]
  rw [crcMatches_iff _ long] at right
  have sum := divide_xor crcPolynomial 0xFFFF 0#16 (transmitted frame) (transmitted error)
    (by rw [transmitted_length, transmitted_length, same])
  rw [right, BitVec.xor_zero, BitVec.zero_xor] at sum
  rw [sum]
  exact remainder

section
variable {σ : Type} (dev : Device σ) (c : Conn σ)

theorem crc16_refines :
    (∀ buffer, crc16 buffer = modbusCrc buffer) ∧
      ∀ msg : List Byte, ((msg.getD 0 0).toNat : Int) = c.ctx.slave → 2 ≤ msg.length →
        modbusRtuCheckIntegrity dev c (modbusRtuSendMsgPre msg) =
          (.ok (modbusRtuSendMsgPre msg).length, c) := by
  refine ⟨crc16_eq, fun msg own long => ?_⟩
  have head : (modbusRtuSendMsgPre msg).getD 0 0 = msg.getD 0 0 := by
    rw [modbusRtuSendMsgPre, List.getD_append _ _ _ _ (by omega)]
  rw [modbusRtuCheckIntegrity, head, crcMatches_send]
  simp only
  rw [if_neg fun foreign => foreign.1 own, if_pos trivial]

theorem crc16_refines_readRegisters :
    modbusRtuCheckIntegrity logDevice (.established (newRtu 17) [])
        (modbusRtuSendMsgPre [17, 3, 0, 0, 0, 1]) =
      (.ok 8, .established (newRtu 17) []) :=
  (crc16_refines logDevice (.established (newRtu 17) [])).2 [17, 3, 0, 0, 0, 1] rfl (by decide)

theorem checkIntegrity_detects {frame error : List Byte} (long : 2 ≤ frame.length)
    (accepted : (modbusRtuCheckIntegrity dev c frame).1 = .ok frame.length)
    (same : error.length = frame.length) (detectable : Detectable error) :
    (modbusRtuCheckIntegrity dev c (flipped frame error)).1 =
      if (((flipped frame error).getD 0 0).toNat : Int) ≠ c.ctx.slave ∧
          ((flipped frame error).getD 0 0).toNat ≠ broadcastAddress then .ok 0
      else .error (.errno .embbadcrc) := by
  have right : crcMatches frame = true := by
    rw [modbusRtuCheckIntegrity] at accepted
    split at accepted
    · exact absurd (Except.ok.inj accepted) (by omega)
    · split at accepted
      · assumption
      · cases accepted
  have wrong := crcMatches_flipped long same right detectable
  rw [modbusRtuCheckIntegrity, wrong]
  simp only [Bool.false_eq_true, if_false]
  split <;> rfl

theorem checkIntegrity_detects_burst :
    (modbusRtuCheckIntegrity logDevice (.established (newRtu 17) [])
        (flipped (modbusRtuSendMsgPre [17, 3, 0, 0, 0, 1]) [0, 0x80, 0x41, 0, 0, 0, 0, 0])).1 =
      .error (.errno .embbadcrc) := by
  refine checkIntegrity_detects logDevice (.established (newRtu 17) []) (by decide)
    (by decide +kernel) rfl (.inr ⟨by decide, 15, fun i one => ?_⟩)
  have bound : i < 64 := by
    by_contra beyond
    rw [List.getD_eq_getElem?_getD, List.getElem?_eq_none (not_lt.mp beyond)] at one
    cases one
  revert one
  revert i
  decide +kernel

end

end ModbusNet
