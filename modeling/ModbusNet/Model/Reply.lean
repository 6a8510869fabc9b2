import ModbusNet.Model.Data
import ModbusNet.Model.Backend

/-!
# Answering a request

`modbus_reply` and `modbus_reply_exception` of `modbus.c`. Every arm of the switch computes the
response and the new mapping; an access outside a table is `undefined`.
-/

namespace ModbusNet

/-- What an arm of the switch leaves in `rsp`, and whether it flushes the line first. -/
structure Answer where
  rsp : List Byte
  toFlush : Bool

def responseIoStatusLoop (tabIoStatus : List Byte) :
    Nat → Nat → Nat → Nat → List Byte → Except Failure (Nat × Nat × List Byte)
  | 0, _, shift, oneByte, rsp => .ok (shift, oneByte, rsp)
  | left + 1, i, shift, oneByte, rsp => do
      let entry ← readTab tabIoStatus i
      let oneByte := oneByte ||| entry.toNat <<< shift
      if shift = 7 then responseIoStatusLoop tabIoStatus left (i + 1) 0 0 (rsp ++ [loByte oneByte])
      else responseIoStatusLoop tabIoStatus left (i + 1) (shift + 1) oneByte rsp

def responseIoStatus (tabIoStatus : List Byte) (address nb : Nat) (rsp : List Byte) :
    Except Failure (List Byte) := do
  let (shift, oneByte, rsp) ← responseIoStatusLoop tabIoStatus nb address 0 0 rsp
  return if shift ≠ 0 then rsp ++ [loByte oneByte] else rsp

def responseRegisters (tabRegisters : List Word) :
    Nat → Nat → List Byte → Except Failure (List Byte)
  | 0, _, rsp => .ok rsp
  | left + 1, i, rsp => do
      let value ← readTab tabRegisters i
      responseRegisters tabRegisters left (i + 1)
        (rsp ++ [hiByte value.toNat, loByte value.toNat])

def storeRegisters (req : Buffer) : Nat → Nat → Nat → List Word → Except Failure (List Word)
  | 0, _, _, tabRegisters => .ok tabRegisters
  | left + 1, i, j, tabRegisters => do
      let tabRegisters ← writeTab tabRegisters i (wordOf (req j) (req (j + 1)))
      storeRegisters req left (i + 1) (j + 2) tabRegisters

def copyRequest (req : Buffer) (reqLength : Int) : Except Failure (List Byte) :=
  if 0 ≤ reqLength ∧ reqLength ≤ maxMessageLength then .ok (bytesAt req 0 reqLength.toNat)
  else .error .undefined

def responseException (b : Backend) (sft : Sft) (exceptionCode : Nat) (toFlush : Bool) : Answer :=
  { rsp := buildResponseBasis b { sft with function := sft.function + 0x80 } ++
      [loByte exceptionCode]
    toFlush }

section
variable (b : Backend) (sft : Sft) (req : Buffer) (reqLength : Int) (mb : ModbusMapping)

def replyReadBits (isInput : Bool) : Except Failure (Answer × ModbusMapping) :=
  let startBits := if isInput then mb.startInputBits else mb.startBits
  let nbBits := if isInput then mb.nbInputBits else mb.nbBits
  let tabBits := if isInput then mb.tabInputBits else mb.tabBits
  let address := be16 req (b.headerLength + 1)
  let nb := be16 req (b.headerLength + 3)
  let mappingAddress : Int := address - startBits
  if nb < 1 ∨ maxReadBits < nb then
    .ok (responseException b sft exceptionIllegalDataValue true, mb)
  else if mappingAddress < 0 ∨ nbBits < mappingAddress + nb then
    .ok (responseException b sft exceptionIllegalDataAddress false, mb)
  else do
    let rsp := buildResponseBasis b sft ++ [loByte (byteCount nb)]
    let rsp ← responseIoStatus tabBits mappingAddress.toNat nb rsp
    return ({ rsp, toFlush := false }, mb)

def replyReadRegisters (isInput : Bool) : Except Failure (Answer × ModbusMapping) :=
  let startRegisters := if isInput then mb.startInputRegisters else mb.startRegisters
  let nbRegisters := if isInput then mb.nbInputRegisters else mb.nbRegisters
  let tabRegisters := if isInput then mb.tabInputRegisters else mb.tabRegisters
  let address := be16 req (b.headerLength + 1)
  let nb := be16 req (b.headerLength + 3)
  let mappingAddress : Int := address - startRegisters
  if nb < 1 ∨ maxReadRegisters < nb then
    .ok (responseException b sft exceptionIllegalDataValue true, mb)
  else if mappingAddress < 0 ∨ nbRegisters < mappingAddress + nb then
    .ok (responseException b sft exceptionIllegalDataAddress false, mb)
  else do
    let rsp := buildResponseBasis b sft ++ [loByte (2 * nb)]
    let rsp ← responseRegisters tabRegisters nb mappingAddress.toNat rsp
    return ({ rsp, toFlush := false }, mb)

def replyWriteSingleCoil : Except Failure (Answer × ModbusMapping) :=
  let address := be16 req (b.headerLength + 1)
  let mappingAddress : Int := address - mb.startBits
  if mappingAddress < 0 ∨ mb.nbBits ≤ mappingAddress then
    .ok (responseException b sft exceptionIllegalDataAddress false, mb)
  else
    let data := be16 req (b.headerLength + 3)
    if data = 0xFF00 ∨ data = 0 then do
      let tabBits ← writeTab mb.tabBits mappingAddress.toNat (if data ≠ 0 then 1 else 0)
      let rsp ← copyRequest req reqLength
      return ({ rsp, toFlush := false }, { mb with tabBits })
    else .ok (responseException b sft exceptionIllegalDataValue false, mb)

def replyWriteSingleRegister : Except Failure (Answer × ModbusMapping) :=
  let address := be16 req (b.headerLength + 1)
  let mappingAddress : Int := address - mb.startRegisters
  if mappingAddress < 0 ∨ mb.nbRegisters ≤ mappingAddress then
    .ok (responseException b sft exceptionIllegalDataAddress false, mb)
  else do
    let data := wordOf (req (b.headerLength + 3)) (req (b.headerLength + 4))
    let tabRegisters ← writeTab mb.tabRegisters mappingAddress.toNat data
    let rsp ← copyRequest req reqLength
    return ({ rsp, toFlush := false }, { mb with tabRegisters })

def responseWriteMultiple : Answer :=
  let rsp := buildResponseBasis b sft
  { rsp := rsp ++ bytesAt req rsp.length 4, toFlush := false }

def replyWriteMultipleCoils : Except Failure (Answer × ModbusMapping) :=
  let address := be16 req (b.headerLength + 1)
  let nb := be16 req (b.headerLength + 3)
  let nbBits := (req (b.headerLength + 5)).toNat
  let mappingAddress : Int := address - mb.startBits
  if nb < 1 ∨ maxWriteBits < nb ∨ nbBits * 8 < nb then
    .ok (responseException b sft exceptionIllegalDataValue true, mb)
  else if mappingAddress < 0 ∨ mb.nbBits < mappingAddress + nb then
    .ok (responseException b sft exceptionIllegalDataAddress false, mb)
  else do
    let tabBits ← modbusSetBitsFromBytes mb.tabBits mappingAddress.toNat nb
      fun k => req (b.headerLength + 6 + k)
    return (responseWriteMultiple b sft req, { mb with tabBits })

def replyWriteMultipleRegisters : Except Failure (Answer × ModbusMapping) :=
  let address := be16 req (b.headerLength + 1)
  let nb := be16 req (b.headerLength + 3)
  let nbBytes := (req (b.headerLength + 5)).toNat
  let mappingAddress : Int := address - mb.startRegisters
  if nb < 1 ∨ maxWriteRegisters < nb ∨ nbBytes ≠ nb * 2 then
    .ok (responseException b sft exceptionIllegalDataValue true, mb)
  else if mappingAddress < 0 ∨ mb.nbRegisters < mappingAddress + nb then
    .ok (responseException b sft exceptionIllegalDataAddress false, mb)
  else do
    let tabRegisters ← storeRegisters req nb mappingAddress.toNat (b.headerLength + 6)
      mb.tabRegisters
    return (responseWriteMultiple b sft req, { mb with tabRegisters })

def slaveIdPrefix : List Byte := [0x4C, 0x4D, 0x42]

def replyReportSlaveId (version : VersionString) : Except Failure (Answer × ModbusMapping) :=
  let data : List Byte := [loByte reportSlaveId, 0xFF] ++ slaveIdPrefix ++ version.val
  .ok ({ rsp := buildResponseBasis b sft ++ [loByte data.length] ++ data, toFlush := false }, mb)

def replyMaskWriteRegister : Except Failure (Answer × ModbusMapping) :=
  let address := be16 req (b.headerLength + 1)
  let mappingAddress : Int := address - mb.startRegisters
  if mappingAddress < 0 ∨ mb.nbRegisters ≤ mappingAddress then
    .ok (responseException b sft exceptionIllegalDataAddress false, mb)
  else do
    let data ← readTab mb.tabRegisters mappingAddress.toNat
    let andMask := wordOf (req (b.headerLength + 3)) (req (b.headerLength + 4))
    let orMask := wordOf (req (b.headerLength + 5)) (req (b.headerLength + 6))
    let data := (data &&& andMask) ||| (orMask &&& ~~~andMask)
    let tabRegisters ← writeTab mb.tabRegisters mappingAddress.toNat data
    let rsp ← copyRequest req reqLength
    return ({ rsp, toFlush := false }, { mb with tabRegisters })

def replyWriteAndReadRegisters : Except Failure (Answer × ModbusMapping) :=
  let address := be16 req (b.headerLength + 1)
  let nb := be16 req (b.headerLength + 3)
  let addressWrite := be16 req (b.headerLength + 5)
  let nbWrite := be16 req (b.headerLength + 7)
  let nbWriteBytes := (req (b.headerLength + 9)).toNat
  let mappingAddress : Int := address - mb.startRegisters
  let mappingAddressWrite : Int := addressWrite - mb.startRegisters
  if nbWrite < 1 ∨ maxWrWriteRegisters < nbWrite ∨ nb < 1 ∨ maxWrReadRegisters < nb ∨
      nbWriteBytes ≠ nbWrite * 2 then
    .ok (responseException b sft exceptionIllegalDataValue true, mb)
  else if mappingAddress < 0 ∨ mb.nbRegisters < mappingAddress + nb ∨
      mappingAddressWrite < 0 ∨ mb.nbRegisters < mappingAddressWrite + nbWrite then
    .ok (responseException b sft exceptionIllegalDataAddress false, mb)
  else do
    let rsp := buildResponseBasis b sft ++ [loByte (2 * nb)]
    -- Write first, and read the data for the response.
    let tabRegisters ← storeRegisters req nbWrite mappingAddressWrite.toNat
      (b.headerLength + 10) mb.tabRegisters
    let rsp ← responseRegisters tabRegisters nb mappingAddress.toNat rsp
    return ({ rsp, toFlush := false }, { mb with tabRegisters })

end

def replySwitch (ctx : Ctx) (req : Buffer) (reqLength : Int) (mb : ModbusMapping) :
    Except Failure (Answer × ModbusMapping) :=
  let b := ctx.backend
  let function := (req b.headerLength).toNat
  let (tId, reqLength) := prepareResponseTid b req reqLength
  let sft : Sft := { slave := (req (b.headerLength - 1)).toNat, function, tId }
  if function = fcReadCoils then replyReadBits b sft req mb false
  else if function = fcReadDiscreteInputs then replyReadBits b sft req mb true
  else if function = fcReadHoldingRegisters then replyReadRegisters b sft req mb false
  else if function = fcReadInputRegisters then replyReadRegisters b sft req mb true
  else if function = fcWriteSingleCoil then replyWriteSingleCoil b sft req reqLength mb
  else if function = fcWriteSingleRegister then replyWriteSingleRegister b sft req reqLength mb
  else if function = fcWriteMultipleCoils then replyWriteMultipleCoils b sft req mb
  else if function = fcWriteMultipleRegisters then replyWriteMultipleRegisters b sft req mb
  else if function = fcReportSlaveId then replyReportSlaveId b sft mb ctx.version
  else if function = fcReadExceptionStatus then .error (.errno .enoprotoopt)
  else if function = fcMaskWriteRegister then replyMaskWriteRegister b sft req reqLength mb
  else if function = fcWriteAndReadRegisters then replyWriteAndReadRegisters b sft req mb
  else .ok (responseException b sft exceptionIllegalFunction true, mb)

/-- Responses are suppressed in RTU when the request was a broadcast, unless the quirk is on. -/
def suppressed (ctx : Ctx) (req : Buffer) : Bool :=
  ctx.backend == .rtu && (req (ctx.backend.headerLength - 1)).toNat == broadcastAddress &&
    !ctx.replyToBroadcast

def sendAnswer {σ : Type} (dev : Device σ) (c : Conn σ) (req : Buffer) (answer : Answer) :
    Except Failure Int × Conn σ :=
  let c := if answer.toFlush then sleepAndFlush dev c else c
  if suppressed c.ctx req then (.ok 0, c) else sendMsg dev c answer.rsp

def modbusReply {σ : Type} (dev : Device σ) (c : Conn σ) (req : Buffer) (reqLength : Int)
    (mb : ModbusMapping) : Except Failure Int × ModbusMapping × Conn σ :=
  match replySwitch c.ctx req reqLength mb with
  | .error e => (.error e, mb, c)
  | .ok (answer, mb) =>
      let (rc, c) := sendAnswer dev c req answer
      (rc, mb, c)

def modbusReplyException {σ : Type} (dev : Device σ) (c : Conn σ) (req : Buffer)
    (exceptionCode : Nat) : Except Failure Int × Conn σ :=
  let b := c.ctx.backend
  let sft : Sft :=
    { slave := (req (b.headerLength - 1)).toNat
      function := (req b.headerLength).toNat + 0x80
      tId := (prepareResponseTid b req 99).1 }
  if exceptionCode < exceptionMax then
    sendMsg dev c (buildResponseBasis b sft ++ [loByte exceptionCode])
  else (.error (.errno .einval), c)

end ModbusNet
