import ModbusNet.Protocol.Pdu
import ModbusNet.Proof.Framing

namespace ModbusNet

def pduAt (b : Backend) (msg : Buffer) : Buffer := fun i => msg (b.headerLength + i)

def pduDataLength (msgType : MsgType) (pdu : Buffer) : Nat :=
  let function := (pdu 0).toNat
  match msgType with
  | .indication =>
      if function = fcWriteMultipleCoils ∨ function = fcWriteMultipleRegisters then (pdu 5).toNat
      else if function = fcWriteAndReadRegisters then (pdu 9).toNat
      else 0
  | .confirmation =>
      if function ≤ fcReadInputRegisters ∨ function = fcReportSlaveId ∨
          function = fcWriteAndReadRegisters then (pdu 1).toNat
      else 0

def pduHeadLength (msgType : MsgType) (pdu : Buffer) : Nat :=
  1 + computeMetaLengthAfterFunction (pdu 0).toNat msgType

def pduLength (msgType : MsgType) (pdu : Buffer) : Nat :=
  pduHeadLength msgType pdu + pduDataLength msgType pdu

theorem headLength_eq (b : Backend) (msgType : MsgType) (msg : Buffer) :
    headLength b msgType msg = b.headerLength + pduHeadLength msgType (pduAt b msg) := by
  simp only [headLength, pduHeadLength, pduAt, Nat.add_zero, Nat.add_assoc]

theorem frameLength_eq (b : Backend) (msgType : MsgType) (msg : Buffer) :
    frameLength b msgType msg =
      b.headerLength + pduLength msgType (pduAt b msg) + b.checksumLength := by
  have data : computeDataLengthAfterMeta b msg msgType =
      pduDataLength msgType (pduAt b msg) + b.checksumLength := by
    cases msgType <;> rfl
  rw [frameLength, headLength_eq, data, pduLength]
  omega

theorem maxAduLength_eq (b : Backend) :
    b.maxAduLength = b.headerLength + maxPduLength + b.checksumLength := by
  cases b <;> rfl

theorem delimits_iff (b : Backend) (msgType : MsgType) (msg : Buffer) (n : Nat) :
    Delimits b msgType msg n ↔
      n = b.headerLength + pduLength msgType (pduAt b msg) + b.checksumLength ∧
        pduLength msgType (pduAt b msg) ≤ maxPduLength := by
  constructor
  · rintro ⟨length, fits⟩
    rw [frameLength_eq] at length
    rw [maxAduLength_eq] at fits
    exact ⟨length, by omega⟩
  · rintro ⟨length, fits⟩
    refine ⟨by rw [frameLength_eq, length], ?_⟩
    rw [maxAduLength_eq]
    omega

structure Whole (msgType : MsgType) (pdu : List Byte) : Prop where
  length : pdu.length = pduLength msgType (ofBytes pdu)
  fits : pdu.length ≤ maxPduLength

theorem pduLength_agree {msgType : MsgType} {pdu pdu' : Buffer}
    (agree : AgreeBelow (pduHeadLength msgType pdu) pdu pdu') :
    pduLength msgType pdu = pduLength msgType pdu' := by
  -- The same fact for the messages with an empty header and checksum is already there.
  have shift : ∀ q : Buffer, pduAt .rtu (fun i => q (i - 1)) = q := by
    intro q
    funext i
    simp [pduAt]
  have shifted : AgreeBelow (headLength .rtu msgType fun i => pdu (i - 1)) (fun i => pdu (i - 1))
      fun i => pdu' (i - 1) := by
    rw [headLength_eq, shift]
    intro i bound
    simp only [Backend.headerLength] at bound
    cases i with
    | zero => exact agree 0 (by unfold pduHeadLength; omega)
    | succ i => exact agree i (by omega)
  have lengths := frameLength_agree shifted
  rw [frameLength_eq, frameLength_eq, shift, shift] at lengths
  omega

theorem pduHeadLength_congr {pdu pdu' : Buffer} (msgType : MsgType) (head : pdu 0 = pdu' 0) :
    pduHeadLength msgType pdu = pduHeadLength msgType pdu' := by
  rw [pduHeadLength, pduHeadLength, head]

theorem pduHeadLength_le (msgType : MsgType) (pdu : Buffer) :
    pduHeadLength msgType pdu ≤ pduLength msgType pdu := Nat.le_add_right _ _

theorem ofBytes_append_right (xs ys : List Byte) (i : Nat) :
    ofBytes (xs ++ ys) (xs.length + i) = ofBytes ys i := by
  rw [ofBytes, List.getD_append_right _ _ _ _ (Nat.le_add_right _ _), Nat.add_sub_cancel_left]
  rfl

theorem Whole.delimits {b : Backend} {msgType : MsgType} {header pdu checksum : List Byte}
    (whole : Whole msgType pdu) (header_length : header.length = b.headerLength)
    (checksum_length : checksum.length = b.checksumLength) :
    Delimits b msgType (ofBytes (header ++ (pdu ++ checksum)))
      (header ++ (pdu ++ checksum)).length := by
  have agree : AgreeBelow pdu.length (ofBytes pdu)
      (pduAt b (ofBytes (header ++ (pdu ++ checksum)))) := by
    intro i bound
    rw [pduAt, ← header_length, ofBytes_append_right]
    exact (ofBytes_append_left pdu checksum i bound).symm
  have same : pduLength msgType (ofBytes pdu) =
      pduLength msgType (pduAt b (ofBytes (header ++ (pdu ++ checksum)))) := by
    apply pduLength_agree
    intro i bound
    apply agree i
    have := pduHeadLength_le msgType (ofBytes pdu)
    have := whole.length
    omega
  rw [delimits_iff, ← same, ← whole.length]
  refine ⟨?_, whole.fits⟩
  simp only [List.length_append, header_length, checksum_length]
  omega

namespace Request

theorem decode_payload (pdu : Buffer) :
    (decode pdu).payload = bytesAt pdu 1 (computeMetaLengthAfterFunction (pdu 0).toNat .indication +
      pduDataLength .indication pdu) := by
  cases functionCase (pdu 0).toNat with
  | unknown f =>
      simp only [knownFunctions, List.mem_cons, List.not_mem_nil, or_false, not_or] at f
      have small : (pdu 0).toNat ≤ fcWriteSingleRegister ↔ (pdu 0).toNat = 0 := by
        simp only [fcReadCoils, fcReadDiscreteInputs, fcReadHoldingRegisters, fcReadInputRegisters,
          fcWriteSingleCoil, fcWriteSingleRegister] at f ⊢
        omega
      simp only [decode, f, if_false, payload, computeMetaLengthAfterFunction, pduDataLength, small,
        or_self, Nat.add_zero]
  | _ f =>
      simp [decode, f, payload, computeMetaLengthAfterFunction, pduDataLength, wordBytes_wordAt,
        bytesAt_add]
      all_goals rfl

theorem encode_decode (pdu : Buffer) :
    (decode pdu).encode = bytesAt pdu 0 (pduLength .indication pdu) := by
  rw [pduLength, pduHeadLength, Nat.add_assoc, Nat.add_comm, bytesAt_succ, encode, decode_function,
    decode_payload, loByte_of_toNat]

theorem decode_agree {pdu pdu' : Buffer} (agree : AgreeBelow (pduLength .indication pdu) pdu pdu') :
    decode pdu = decode pdu' := by
  have same : pduLength .indication pdu = pduLength .indication pdu' :=
    pduLength_agree fun i bound => agree i (bound.trans_le (pduHeadLength_le _ _))
  have encoded : (decode pdu).encode = (decode pdu').encode := by
    rw [encode_decode, encode_decode, ← same, agree.bytesAt_eq (by omega)]
  rw [← decode_ofBytes _ (decode_encodable pdu), encoded, decode_ofBytes _ (decode_encodable pdu')]

theorem encode_length (pdu : Buffer) :
    (decode pdu).encode.length = pduLength .indication pdu := by
  rw [encode_decode, bytesAt_length]

theorem whole (r : Request) (encodable : r.Encodable) (fits : r.encode.length ≤ maxPduLength) :
    Whole .indication r.encode where
  length := by rw [← encode_length, decode_ofBytes r encodable]
  fits := fits

end Request

theorem whole_of_head {msgType : MsgType} {pdu : List Byte} {function : Nat} (small : function < 256)
    (head : ofBytes pdu 0 = loByte function) (fits : pdu.length ≤ maxPduLength)
    (length : pdu.length = 1 + computeMetaLengthAfterFunction function msgType +
      pduDataLength msgType (ofBytes pdu)) : Whole msgType pdu where
  length := by rw [length, pduLength, pduHeadLength, head, loByte_toNat _ small]
  fits := fits

theorem known_small {r : Request} (known : r.function ∈ knownFunctions) : r.function < 0x80 := by
  simp only [knownFunctions, List.mem_cons, List.not_mem_nil, or_false] at known
  rcases known with h | h | h | h | h | h | h | h | h | h | h | h <;> rw [h] <;> decide

theorem Request.Answer.short {r : Request} {response : Response} (answer : r.Answer response)
    (fits : r.encode.length ≤ maxPduLength) : response.encode.length ≤ maxPduLength := by
  cases response with
  | values function data =>
      obtain ⟨-, short, -⟩ := answer
      simp only [maxPduLength] at short
      simp only [Response.encode, List.length_cons, maxPduLength]
      omega
  | echo request =>
      obtain ⟨rfl, -⟩ := answer
      exact fits
  | _ => exact Nat.le_of_ble_eq_true rfl

theorem exception_whole (function code : Nat) (small : function < 0x80) :
    Whole .confirmation (Response.exception function code).encode := by
  have marked : function + 0x80 < 256 := by omega
  refine whole_of_head marked rfl (Nat.le_of_ble_eq_true rfl) ?_
  simp only [Response.encode, pduDataLength, ofBytes, List.getD_cons_zero]
  rw [← Nat.cast_ofNat (n := 0x80), ← Nat.cast_add, loByte_toNat _ marked]
  simp [computeMetaLengthAfterFunction]

theorem Request.Answer.whole {r : Request} {response : Response} (answer : r.Answer response)
    (small : r.function < 0x80) : Whole .confirmation response.encode := by
  cases response with
  | exception function code =>
      obtain rfl : function = r.function := answer
      exact exception_whole _ code small
  | values function data =>
      obtain ⟨rfl, short, normal⟩ := answer
      have count : (loByte data.length).toNat = data.length :=
        loByte_toNat _ (by simp only [maxPduLength] at short; omega)
      refine whole_of_head r.function_lt rfl
        (by simp only [Response.encode, List.length_cons, maxPduLength] at short ⊢; omega) ?_
      have data_length : pduDataLength .confirmation
          (ofBytes (Response.values r.function data).encode) = data.length := by
        simp only [Response.encode, pduDataLength, ofBytes, List.getD_cons_zero,
          List.getD_cons_succ, count, loByte_toNat _ r.function_lt]
        apply if_pos
        cases r with
        | readBits isInput => cases isInput <;> simp [Request.function, readBitsFunction]
        | readRegisters isInput => cases isInput <;> simp [Request.function, readRegistersFunction]
        | reportSlaveId => simp [Request.function]
        | writeAndReadRegisters => simp [Request.function]
        | _ => exact normal.elim
      have meta_length : computeMetaLengthAfterFunction r.function .confirmation = 1 := by
        cases r with
        | readBits isInput => cases isInput <;> rfl
        | readRegisters isInput => cases isInput <;> rfl
        | reportSlaveId => rfl
        | writeAndReadRegisters => rfl
        | _ => exact normal.elim
      rw [data_length, meta_length, Response.encode, List.length_cons, List.length_cons]
      omega
  | echo request =>
      obtain ⟨rfl, normal⟩ := answer
      cases request with
      | writeSingleCoil => exact whole_of_head (Request.function_lt _) rfl (Nat.le_of_ble_eq_true rfl) rfl
      | writeSingleRegister =>
          exact whole_of_head (Request.function_lt _) rfl (Nat.le_of_ble_eq_true rfl) rfl
      | maskWriteRegister =>
          exact whole_of_head (Request.function_lt _) rfl (Nat.le_of_ble_eq_true rfl) rfl
      | _ => exact normal.elim
  | written function address nb =>
      obtain ⟨rfl, normal⟩ := answer
      cases r with
      | writeMultipleCoils =>
          exact whole_of_head (Request.function_lt _) rfl (Nat.le_of_ble_eq_true rfl) rfl
      | writeMultipleRegisters =>
          exact whole_of_head (Request.function_lt _) rfl (Nat.le_of_ble_eq_true rfl) rfl
      | _ => exact normal.elim
  | exceptionStatus status =>
      exact whole_of_head (Request.function_lt .readExceptionStatus) rfl
        (Nat.le_of_ble_eq_true rfl) rfl

end ModbusNet
