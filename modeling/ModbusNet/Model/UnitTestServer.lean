import ModbusNet.Model.Simulator

namespace ModbusNet

def serverId : Int := 17
def invalidServerId : Byte := 18

def utBitsAddress : BitVec 32 := 0x130
def utBitsNb : BitVec 32 := 0x25
def utInputBitsAddress : BitVec 32 := 0x1C4
def utInputBitsNb : BitVec 32 := 0x16
def utInputBitsTab : List Byte := [0xAC, 0xDB, 0x35]
def utRegistersAddress : BitVec 32 := 0x160
def utRegistersNbMax : BitVec 32 := 0x20
def utInputRegistersAddress : BitVec 32 := 0x108
def utInputRegistersNb : BitVec 32 := 0x1
def utInputRegistersTab : List Word := [0x000A]

def utRegistersNbSpecial : Nat := 0x2
def utRegistersAddressSpecial : Nat := 0x170
def utRegistersAddressInvalidTidOrSlave : Nat := 0x171
def utRegistersAddressByteSleep5Ms : Nat := 0x173

def unitTestMapping : Except Failure ModbusMapping := do
  let mb := modbusMappingNewStartAddress utBitsAddress utBitsNb utInputBitsAddress utInputBitsNb
    utRegistersAddress utRegistersNbMax utInputRegistersAddress utInputRegistersNb
  let tabInputBits ← modbusSetBitsFromBytes mb.tabInputBits 0 utInputBitsNb.toNat (ofBytes utInputBitsTab)
  return { mb with tabInputBits, tabInputRegisters := utInputRegistersTab }

section
variable {σ : Type} (dev : Device σ)

def modbusSendRawRequestTid (c : Conn σ) (rawReq : List Byte) (tId : Int) :
    Except Failure Int × Conn σ :=
  if rawReq.length < 2 ∨ maxPduLength + 1 < rawReq.length then (.error (.errno .einval), c)
  else
    let sft : Sft := { slave := (rawReq.getD 0 0).toNat, function := (rawReq.getD 1 0).toNat, tId }
    sendMsg dev c (buildResponseBasis c.ctx.backend sft ++ rawReq.drop 2)

def modbusSendRawRequest (c : Conn σ) (rawReq : List Byte) : Except Failure Int × Conn σ :=
  modbusSendRawRequestTid dev c rawReq 0

/-- The loop that calls `send` with one byte after the other. A serial device is no socket. -/
def sendBytesLoop : List Byte → Conn σ → Conn σ
  | [], c => c
  | byte :: bytes, c =>
      match c.ctx.backend with
      | .rtu => c
      | .tcp =>
          match dev.send [byte] c.line with
          | (.ok _, line) => sendBytesLoop bytes { c with line }
          | (.error _, line) => { c with line }

def setInt16ToInt8 (query : Buffer) (i value : Nat) : Buffer :=
  Function.update (Function.update query i (hiByte value)) (i + 1) (loByte value)

def unitTestRespond (c : Conn σ) (query : Buffer) (rc : Int) (mb : ModbusMapping) : Iteration σ :=
  let headerLength := c.ctx.backend.headerLength
  let nb := be16 query (headerLength + 3)
  let address := be16 query (headerLength + 1)
  let continues (c : Conn σ) : Iteration σ := { goesOn := .ok true, query, mapping := mb, conn := c }
  if (query headerLength).toNat = fcReadHoldingRegisters then
    if nb = utRegistersNbSpecial then
      let query := setInt16ToInt8 query (headerLength + 3) (utRegistersNbSpecial - 1)
      afterReply query (modbusReply dev c query rc mb)
    else if address = utRegistersAddressSpecial then
      continues (modbusReplyException dev c query exceptionSlaveOrServerBusy).2
    else if address = utRegistersAddressInvalidTidOrSlave then
      let slave := if c.ctx.backend = .rtu then invalidServerId else 0xFF
      continues (modbusSendRawRequest dev c [slave, 0x03, 0x02, 0x00, 0x00]).2
    -- The sleep of half a second before the reply for another address is left out.
    else if address = utRegistersAddressByteSleep5Ms then
      if c.ctx.s = -1 then continues c
      else
        continues (sendBytesLoop dev
          [0x00, query 1, 0x00, 0x00, 0x00, 0x05, 0xFF, 0x03, 0x02, 0x00, 0x00] c)
    else afterReply query (modbusReply dev c query rc mb)
  else afterReply query (modbusReply dev c query rc mb)

def unitTestIterate (rounds : Nat) (c : Conn σ) (query : Buffer) (mb : ModbusMapping) :
    Iteration σ :=
  respondUnlessBroken (unitTestRespond dev) (receiveNonzero dev rounds c query) mb

end
end ModbusNet
