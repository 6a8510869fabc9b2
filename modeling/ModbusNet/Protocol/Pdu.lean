import ModbusNet.Model.Types

namespace ModbusNet

inductive Request
  | readBits (isInput : Bool) (address nb : Word)
  | readRegisters (isInput : Bool) (address nb : Word)
  | writeSingleCoil (address data : Word)
  | writeSingleRegister (address data : Word)
  | writeMultipleCoils (address nb : Word) (data : List Byte)
  | writeMultipleRegisters (address nb : Word) (data : List Byte)
  | readExceptionStatus
  | reportSlaveId
  | maskWriteRegister (address andMask orMask : Word)
  | writeAndReadRegisters (address nb addressWrite nbWrite : Word) (data : List Byte)
  | other (function : Byte) (data : List Byte)
  deriving DecidableEq, Repr

def knownFunctions : List Nat := [fcReadCoils, fcReadDiscreteInputs, fcReadHoldingRegisters,
  fcReadInputRegisters, fcWriteSingleCoil, fcWriteSingleRegister, fcReadExceptionStatus,
  fcWriteMultipleCoils, fcWriteMultipleRegisters, fcReportSlaveId, fcMaskWriteRegister,
  fcWriteAndReadRegisters]

inductive FunctionCase (f : Nat) : Prop
  | unknown (function : f ∉ knownFunctions)
  | readCoils (function : f = fcReadCoils)
  | readDiscreteInputs (function : f = fcReadDiscreteInputs)
  | readHoldingRegisters (function : f = fcReadHoldingRegisters)
  | readInputRegisters (function : f = fcReadInputRegisters)
  | writeSingleCoil (function : f = fcWriteSingleCoil)
  | writeSingleRegister (function : f = fcWriteSingleRegister)
  | readExceptionStatus (function : f = fcReadExceptionStatus)
  | writeMultipleCoils (function : f = fcWriteMultipleCoils)
  | writeMultipleRegisters (function : f = fcWriteMultipleRegisters)
  | reportSlaveId (function : f = fcReportSlaveId)
  | maskWriteRegister (function : f = fcMaskWriteRegister)
  | writeAndReadRegisters (function : f = fcWriteAndReadRegisters)

theorem functionCase (f : Nat) : FunctionCase f := by
  by_cases known : f ∈ knownFunctions
  · simp only [knownFunctions, List.mem_cons, List.not_mem_nil, or_false] at known
    rcases known with h | h | h | h | h | h | h | h | h | h | h | h
    · exact .readCoils h
    · exact .readDiscreteInputs h
    · exact .readHoldingRegisters h
    · exact .readInputRegisters h
    · exact .writeSingleCoil h
    · exact .writeSingleRegister h
    · exact .readExceptionStatus h
    · exact .writeMultipleCoils h
    · exact .writeMultipleRegisters h
    · exact .reportSlaveId h
    · exact .maskWriteRegister h
    · exact .writeAndReadRegisters h
  · exact .unknown known

def readBitsFunction (isInput : Bool) : Nat :=
  if isInput then fcReadDiscreteInputs else fcReadCoils

def readRegistersFunction (isInput : Bool) : Nat :=
  if isInput then fcReadInputRegisters else fcReadHoldingRegisters

namespace Request

def function : Request → Nat
  | .readBits isInput _ _ => readBitsFunction isInput
  | .readRegisters isInput _ _ => readRegistersFunction isInput
  | .writeSingleCoil _ _ => fcWriteSingleCoil
  | .writeSingleRegister _ _ => fcWriteSingleRegister
  | .writeMultipleCoils _ _ _ => fcWriteMultipleCoils
  | .writeMultipleRegisters _ _ _ => fcWriteMultipleRegisters
  | .readExceptionStatus => fcReadExceptionStatus
  | .reportSlaveId => fcReportSlaveId
  | .maskWriteRegister _ _ _ => fcMaskWriteRegister
  | .writeAndReadRegisters _ _ _ _ _ => fcWriteAndReadRegisters
  | .other function _ => function.toNat

def payload : Request → List Byte
  | .readBits _ address nb => wordBytes address ++ wordBytes nb
  | .readRegisters _ address nb => wordBytes address ++ wordBytes nb
  | .writeSingleCoil address data => wordBytes address ++ wordBytes data
  | .writeSingleRegister address data => wordBytes address ++ wordBytes data
  | .writeMultipleCoils address nb data =>
      wordBytes address ++ wordBytes nb ++ loByte data.length :: data
  | .writeMultipleRegisters address nb data =>
      wordBytes address ++ wordBytes nb ++ loByte data.length :: data
  | .readExceptionStatus => []
  | .reportSlaveId => []
  | .maskWriteRegister address andMask orMask =>
      wordBytes address ++ wordBytes andMask ++ wordBytes orMask
  | .writeAndReadRegisters address nb addressWrite nbWrite data =>
      wordBytes address ++ wordBytes nb ++ wordBytes addressWrite ++ wordBytes nbWrite ++
        loByte data.length :: data
  | .other _ data => data

def encode (r : Request) : List Byte := loByte r.function :: r.payload

def decode (pdu : Buffer) : Request :=
  let function := (pdu 0).toNat
  if function = fcReadCoils then .readBits false (wordAt pdu 1) (wordAt pdu 3)
  else if function = fcReadDiscreteInputs then .readBits true (wordAt pdu 1) (wordAt pdu 3)
  else if function = fcReadHoldingRegisters then .readRegisters false (wordAt pdu 1) (wordAt pdu 3)
  else if function = fcReadInputRegisters then .readRegisters true (wordAt pdu 1) (wordAt pdu 3)
  else if function = fcWriteSingleCoil then .writeSingleCoil (wordAt pdu 1) (wordAt pdu 3)
  else if function = fcWriteSingleRegister then .writeSingleRegister (wordAt pdu 1) (wordAt pdu 3)
  else if function = fcWriteMultipleCoils then
    .writeMultipleCoils (wordAt pdu 1) (wordAt pdu 3) (bytesAt pdu 6 (pdu 5).toNat)
  else if function = fcWriteMultipleRegisters then
    .writeMultipleRegisters (wordAt pdu 1) (wordAt pdu 3) (bytesAt pdu 6 (pdu 5).toNat)
  else if function = fcReportSlaveId then .reportSlaveId
  else if function = fcReadExceptionStatus then .readExceptionStatus
  else if function = fcMaskWriteRegister then
    .maskWriteRegister (wordAt pdu 1) (wordAt pdu 3) (wordAt pdu 5)
  else if function = fcWriteAndReadRegisters then
    .writeAndReadRegisters (wordAt pdu 1) (wordAt pdu 3) (wordAt pdu 5) (wordAt pdu 7)
      (bytesAt pdu 10 (pdu 9).toNat)
  else .other (pdu 0) (bytesAt pdu 1 (if function = 0 then 4 else 0))

def Encodable : Request → Prop
  | .writeMultipleCoils _ _ data => data.length < 256
  | .writeMultipleRegisters _ _ data => data.length < 256
  | .writeAndReadRegisters _ _ _ _ data => data.length < 256
  | .other function data =>
      function.toNat ∉ knownFunctions ∧ data.length = if function.toNat = 0 then 4 else 0
  | _ => True

end Request

inductive Response
  | exception (function : Nat) (code : Nat)
  | values (function : Nat) (data : List Byte)
  | echo (request : Request)
  | written (function : Nat) (address nb : Word)
  | exceptionStatus (status : Byte)
  deriving DecidableEq, Repr

def Response.encode : Response → List Byte
  | .exception function code => [loByte (function + 0x80), loByte code]
  | .values function data => loByte function :: loByte data.length :: data
  | .echo request => request.encode
  | .written function address nb => loByte function :: (wordBytes address ++ wordBytes nb)
  | .exceptionStatus status => [loByte fcReadExceptionStatus, status]

theorem Response.encode_pos (response : Response) : 0 < response.encode.length := by
  cases response <;> exact Nat.succ_pos _

/-- The responses to a request: any exception of its function, or the normal response with any
data. -/
def Request.Answer (r : Request) : Response → Prop
  | .exception function _ => function = r.function
  | .values function data => function = r.function ∧ data.length ≤ maxPduLength - 2 ∧
      match r with
      | .readBits _ _ _ | .readRegisters _ _ _ | .reportSlaveId
      | .writeAndReadRegisters _ _ _ _ _ => True
      | _ => False
  | .echo request => request = r ∧
      match r with
      | .writeSingleCoil _ _ | .writeSingleRegister _ _ | .maskWriteRegister _ _ _ => True
      | _ => False
  | .written function address nb => function = r.function ∧
      match r with
      | .writeMultipleCoils address' nb' _ | .writeMultipleRegisters address' nb' _ =>
          address = address' ∧ nb = nb'
      | _ => False
  | .exceptionStatus _ => r = .readExceptionStatus

theorem loByte_toNat (n : Nat) (small : n < 256) : (loByte n).toNat = n := by
  simp only [loByte, BitVec.toNat_ofInt]
  omega

@[simp] theorem loByte_of_toNat (b : Byte) : loByte b.toNat = b := by
  apply BitVec.eq_of_toNat_eq
  rw [loByte_toNat _ b.isLt]

namespace Request

theorem function_lt (r : Request) : r.function < 256 := by
  cases r with
  | readBits isInput => cases isInput <;> simp [function, readBitsFunction]
  | readRegisters isInput => cases isInput <;> simp [function, readRegistersFunction]
  | other function => exact function.isLt
  | _ => simp [function]

theorem encode_head (r : Request) : (ofBytes r.encode 0).toNat = r.function :=
  loByte_toNat _ r.function_lt

section
variable {pdu : Buffer}

theorem decode_readExceptionStatus (function : (pdu 0).toNat = fcReadExceptionStatus) :
    decode pdu = .readExceptionStatus := by
  simp only [decode, function]
  rfl

theorem decode_other (function : (pdu 0).toNat ∉ knownFunctions) :
    ∃ data, decode pdu = .other (pdu 0) data := by
  simp only [knownFunctions, List.mem_cons, List.not_mem_nil, or_false, not_or] at function
  simp only [decode, function, if_false]
  exact ⟨_, rfl⟩

theorem decode_readHoldingRegisters (function : (pdu 0).toNat = fcReadHoldingRegisters) :
    decode pdu = .readRegisters false (wordAt pdu 1) (wordAt pdu 3) := by
  simp only [decode, function]
  rfl

theorem decode_writeSingleRegister (function : (pdu 0).toNat = fcWriteSingleRegister) :
    decode pdu = .writeSingleRegister (wordAt pdu 1) (wordAt pdu 3) := by
  simp only [decode, function]
  rfl

theorem decode_writeMultipleRegisters (function : (pdu 0).toNat = fcWriteMultipleRegisters) :
    decode pdu =
      .writeMultipleRegisters (wordAt pdu 1) (wordAt pdu 3) (bytesAt pdu 6 (pdu 5).toNat) := by
  simp only [decode, function]
  rfl

end

theorem decode_function (pdu : Buffer) : (decode pdu).function = (pdu 0).toNat := by
  cases functionCase (pdu 0).toNat with
  | unknown f =>
      simp only [knownFunctions, List.mem_cons, List.not_mem_nil, or_false, not_or] at f
      simp only [decode, f, if_false, function]
  | _ f => simp [decode, f, function, readBitsFunction, readRegistersFunction]

theorem decode_encodable (pdu : Buffer) : (decode pdu).Encodable := by
  cases functionCase (pdu 0).toNat with
  | unknown f =>
      have unknown := f
      simp only [knownFunctions, List.mem_cons, List.not_mem_nil, or_false, not_or] at unknown
      simp only [decode, unknown, if_false, Encodable, bytesAt_length]
      exact ⟨f, trivial⟩
  | writeMultipleCoils f => simpa [decode, f, Encodable] using (pdu 5).isLt
  | writeMultipleRegisters f => simpa [decode, f, Encodable] using (pdu 5).isLt
  | writeAndReadRegisters f => simpa [decode, f, Encodable] using (pdu 9).isLt
  | _ f => simp [decode, f, Encodable]

theorem bytesAt_behind (front data : List Byte) :
    bytesAt (ofBytes (front ++ data)) front.length data.length = data := by
  simpa using bytesAt_ofBytes_append front data []

theorem decode_ofBytes (r : Request) (encodable : r.Encodable) : decode (ofBytes r.encode) = r := by
  have head := r.encode_head
  cases r with
  | readBits isInput address nb =>
      cases isInput <;> simp only [function, readBitsFunction] at head <;> simp [decode, head] <;>
        simp [wordAt, ofBytes, encode, payload, wordBytes]
  | readRegisters isInput address nb =>
      cases isInput <;> simp only [function, readRegistersFunction] at head <;>
        simp [decode, head] <;> simp [wordAt, ofBytes, encode, payload, wordBytes]
  | writeMultipleCoils address nb data =>
      have count : (loByte data.length).toNat = data.length := loByte_toNat _ encodable
      have block := bytesAt_behind ([loByte fcWriteMultipleCoils] ++ wordBytes address ++
        wordBytes nb ++ [loByte data.length]) data
      simp only [function] at head
      simp [decode, head]
      simp [wordAt, ofBytes, encode, payload, wordBytes, count]
      exact block
  | writeMultipleRegisters address nb data =>
      have count : (loByte data.length).toNat = data.length := loByte_toNat _ encodable
      have block := bytesAt_behind ([loByte fcWriteMultipleRegisters] ++ wordBytes address ++
        wordBytes nb ++ [loByte data.length]) data
      simp only [function] at head
      simp [decode, head]
      simp [wordAt, ofBytes, encode, payload, wordBytes, count]
      exact block
  | writeAndReadRegisters address nb addressWrite nbWrite data =>
      have count : (loByte data.length).toNat = data.length := loByte_toNat _ encodable
      have block := bytesAt_behind ([loByte fcWriteAndReadRegisters] ++ wordBytes address ++
        wordBytes nb ++ wordBytes addressWrite ++ wordBytes nbWrite ++ [loByte data.length]) data
      simp only [function] at head
      simp [decode, head]
      simp [wordAt, ofBytes, encode, payload, wordBytes, count]
      exact block
  | other f data =>
      obtain ⟨unknown, count⟩ := encodable
      have block := bytesAt_behind [loByte f.toNat] data
      simp only [function] at head
      simp only [knownFunctions, List.mem_cons, List.not_mem_nil, or_false, not_or] at unknown
      simp only [decode, head, unknown, if_false, ← count]
      simpa [encode, payload, function, ofBytes] using block
  | readExceptionStatus => rfl
  | reportSlaveId => rfl
  | _ =>
      simp only [function] at head
      simp [decode, head]
      simp [wordAt, ofBytes, encode, payload, wordBytes]

end Request
end ModbusNet
