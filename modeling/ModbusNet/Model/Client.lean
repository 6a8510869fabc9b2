import ModbusNet.Model.Receive
import ModbusNet.Library.Bits

namespace ModbusNet

def msgLengthUndefined : Int := -1

def computeResponseLengthFromRequest (b : Backend) (req : Buffer) : Int :=
  let offset := b.headerLength
  let function := (req offset).toNat
  let nb := be16 req (offset + 3)
  if function = fcReportSlaveId then msgLengthUndefined
  else
    let length :=
      if function = fcReadCoils ∨ function = fcReadDiscreteInputs then 2 + byteCount nb
      else if function = fcWriteAndReadRegisters ∨ function = fcReadHoldingRegisters ∨
          function = fcReadInputRegisters then 2 + 2 * nb
      else if function = fcReadExceptionStatus then 3
      else if function = fcMaskWriteRegister then 7
      else 5
    (offset + length + b.checksumLength : Nat)

/-- The number of values of the request and of the response, and whether the echoed address and
data are equal: the switch of `check_confirmation`. -/
def confirmedValues (b : Backend) (req rsp : Buffer) : Nat × Nat × Bool × Bool :=
  let offset := b.headerLength
  let function := (rsp offset).toNat
  let addrOk := be16 req (offset + 1) == be16 rsp (offset + 1)
  let dataOk := be16 req (offset + 3) == be16 rsp (offset + 3)
  let reqNb := be16 req (offset + 3)
  if function = fcReadCoils ∨ function = fcReadDiscreteInputs then
    (byteCount reqNb, (rsp (offset + 1)).toNat, true, true)
  else if function = fcWriteAndReadRegisters ∨ function = fcReadHoldingRegisters ∨
      function = fcReadInputRegisters then
    (reqNb, (rsp (offset + 1)).toNat / 2, true, true)
  else if function = fcWriteMultipleCoils ∨ function = fcWriteMultipleRegisters then
    (reqNb, be16 rsp (offset + 3), addrOk, true)
  else if function = fcReportSlaveId then
    ((rsp (offset + 1)).toNat, (rsp (offset + 1)).toNat, true, true)
  else if function = fcWriteSingleCoil ∨ function = fcWriteSingleRegister then
    (1, 1, addrOk, dataOk)
  else (1, 1, true, true)

/-- The decision of `check_confirmation`; an error says whether a sleep and flush follow in
protocol recovery. -/
def judgeConfirmation (b : Backend) (req rsp : Buffer) (rspLength : Int) :
    Except (Errno × Bool) Int :=
  let offset := b.headerLength
  let function := (rsp offset).toNat
  match preCheckConfirmation b req rsp with
  | .error e => .error (e, true)
  | .ok () =>
      let computed := computeResponseLengthFromRequest b req
      if 0x80 ≤ function then
        if rspLength = (offset + 2 + b.checksumLength : Nat) ∧
            (req offset).toNat + 0x80 = function then
          let exceptionCode := (rsp (offset + 1)).toNat
          if exceptionCode < exceptionMax then .error (.enobase exceptionCode, false)
          else .error (.embbadexc, false)
        else .error (.embbadexc, false)
      else if rspLength = computed ∨ computed = msgLengthUndefined then
        if function ≠ (req offset).toNat then .error (.embbaddata, true)
        else
          let (reqNbValue, rspNbValue, respAddrOk, respDataOk) := confirmedValues b req rsp
          if reqNbValue = rspNbValue ∧ respAddrOk ∧ respDataOk then .ok rspNbValue
          else .error (.embbaddata, true)
      else .error (.embbaddata, true)

section
variable {σ : Type} (dev : Device σ)

def checkConfirmation (c : Conn σ) (req rsp : Buffer) (rspLength : Int) :
    Except Failure Int × Conn σ :=
  match judgeConfirmation c.ctx.backend req rsp rspLength with
  | .ok rc => (.ok rc, c)
  | .error (e, recover) => (.error (.errno e), if recover then recoverProtocol dev c else c)

/-- What every client function does with its request: `send_msg`, and if bytes were sent
`_modbus_receive_msg` and `check_confirmation`. The response is there only in that case. -/
def exchange (c : Conn σ) (req : List Byte) : Except Failure (Int × Option Buffer) × Conn σ :=
  let frame := sendMsgPre c.ctx.backend req
  match sendFrame dev frame c with
  | (.error e, c) => (.error e, c)
  | (.ok rc, c) =>
      if 0 < rc then
        match modbusReceiveMsg dev .confirmation c with
        | (.error e, _, c) => (.error e, c)
        | (.ok rc, msg, c) =>
            let rsp := overlay c.ctx.uninit msg
            match checkConfirmation dev c (ofBytes frame) rsp rc with
            | (.error e, c) => (.error e, c)
            | (.ok rc, c) => (.ok (rc, some rsp), c)
      else (.ok (rc, none), c)

def unpackByteLoop (temp : Nat) (nb : Int) : Nat → Nat → Nat → Buffer → Nat × Buffer
  | 0, _, pos, dest => (pos, dest)
  | left + 1, bit, pos, dest =>
      if (pos : Int) < nb then
        unpackByteLoop temp nb left (bit <<< 1) (pos + 1)
          (Function.update dest pos (if temp &&& bit ≠ 0 then 1 else 0))
      else (pos, dest)

def unpackLoop (rsp : Buffer) (nb : Int) : Nat → Nat → Nat → Buffer → Buffer
  | 0, _, _, dest => dest
  | left + 1, i, pos, dest =>
      let (pos, dest) := unpackByteLoop (rsp i).toNat nb 8 1 pos dest
      unpackLoop rsp nb left (i + 1) pos dest

def readIoStatus (c : Conn σ) (function : Nat) (addr nb : Int) (dest : Buffer) :
    Except Failure Int × Buffer × Conn σ :=
  let (req, ctx) := buildRequestBasis c.ctx function addr nb
  match exchange dev { c with ctx } req with
  | (.error e, c) => (.error e, dest, c)
  | (.ok (rc, none), c) => (.ok rc, dest, c)
  | (.ok (rc, some rsp), c) =>
      (.ok rc, unpackLoop rsp nb rc.toNat (c.ctx.backend.headerLength + 2) 0 dest, c)

def readBitsWith (function : Nat) (c : Conn σ) (addr nb : Int) (dest : Buffer) :
    Except Failure Int × Buffer × Conn σ :=
  if (maxReadBits : Int) < nb then (.error (.errno .embmdata), dest, c)
  else
    match readIoStatus dev c function addr nb dest with
    | (.ok _, dest, c) => (.ok nb, dest, c)
    | (.error e, dest, c) => (.error e, dest, c)

def modbusReadBits := readBitsWith dev fcReadCoils

def modbusReadInputBits := readBitsWith dev fcReadDiscreteInputs

def decodeRegistersLoop (rsp : Buffer) (offset : Nat) : Nat → Nat → (Nat → Word) → Nat → Word
  | 0, _, dest => dest
  | left + 1, i, dest =>
      decodeRegistersLoop rsp offset left (i + 1)
        (Function.update dest i (wordOf (rsp (offset + 2 + 2 * i)) (rsp (offset + 3 + 2 * i))))

def readRegisters (c : Conn σ) (function : Nat) (addr nb : Int) (dest : Nat → Word) :
    Except Failure Int × (Nat → Word) × Conn σ :=
  if (maxReadRegisters : Int) < nb then (.error (.errno .embmdata), dest, c)
  else
    let (req, ctx) := buildRequestBasis c.ctx function addr nb
    match exchange dev { c with ctx } req with
    | (.error e, c) => (.error e, dest, c)
    | (.ok (rc, none), c) => (.ok rc, dest, c)
    | (.ok (rc, some rsp), c) =>
        (.ok rc, decodeRegistersLoop rsp c.ctx.backend.headerLength rc.toNat 0 dest, c)

def readRegistersWith (function : Nat) (c : Conn σ) (addr nb : Int) (dest : Nat → Word) :
    Except Failure Int × (Nat → Word) × Conn σ :=
  if (maxReadRegisters : Int) < nb then (.error (.errno .embmdata), dest, c)
  else readRegisters dev c function addr nb dest

def modbusReadRegisters := readRegistersWith dev fcReadHoldingRegisters

def modbusReadInputRegisters := readRegistersWith dev fcReadInputRegisters

def exchangeWrite (c : Conn σ) (req : List Byte) : Except Failure Int × Conn σ :=
  match exchange dev c req with
  | (.error e, c) => (.error e, c)
  | (.ok (rc, _), c) => (.ok rc, c)

def writeSingle (c : Conn σ) (function : Nat) (addr : Int) (value : Word) :
    Except Failure Int × Conn σ :=
  let (req, ctx) := buildRequestBasis c.ctx function addr value.toNat
  exchangeWrite dev { c with ctx } req

def modbusWriteBit (c : Conn σ) (addr status : Int) : Except Failure Int × Conn σ :=
  writeSingle dev c fcWriteSingleCoil addr (if status ≠ 0 then 0xFF00 else 0)

def modbusWriteRegister (c : Conn σ) (addr : Int) (value : Word) : Except Failure Int × Conn σ :=
  writeSingle dev c fcWriteSingleRegister addr value

def packByteLoop (src : Buffer) (nb : Int) : Nat → Byte → Nat → Nat → Byte → Nat × Nat × Byte
  | 0, _, bitCheck, pos, byte => (bitCheck, pos, byte)
  | left + 1, bit, bitCheck, pos, byte =>
      if (bitCheck : Int) < nb then
        packByteLoop src nb left (bit <<< 1) (bitCheck + 1) (pos + 1)
          (if src pos ≠ 0 then byte ||| bit else byte &&& ~~~bit)
      else (bitCheck + 1, pos, byte)

def packBytesLoop (src : Buffer) (nb : Int) : Nat → Nat → Nat → List Byte → List Byte
  | 0, _, _, req => req
  | left + 1, bitCheck, pos, req =>
      let (bitCheck, pos, byte) := packByteLoop src nb 8 1 bitCheck pos 0
      packBytesLoop src nb left bitCheck pos (req ++ [byte])

def modbusWriteBits (c : Conn σ) (addr nb : Int) (src : Buffer) : Except Failure Int × Conn σ :=
  if (maxWriteBits : Int) < nb then (.error (.errno .embmdata), c)
  else
    let (req, ctx) := buildRequestBasis c.ctx fcWriteMultipleCoils addr nb
    let byteCount := nb.tdiv 8 + if nb.tmod 8 ≠ 0 then 1 else 0
    let req := packBytesLoop src nb byteCount.toNat 0 0 (req ++ [loByte byteCount])
    exchangeWrite dev { c with ctx } req

def encodeRegistersLoop (src : Nat → Word) : Nat → Nat → List Byte → List Byte
  | 0, _, req => req
  | left + 1, i, req =>
      encodeRegistersLoop src left (i + 1) (req ++ [hiByte (src i).toNat, loByte (src i).toNat])

def modbusWriteRegisters (c : Conn σ) (addr nb : Int) (src : Nat → Word) :
    Except Failure Int × Conn σ :=
  if (maxWriteRegisters : Int) < nb then (.error (.errno .embmdata), c)
  else
    let (req, ctx) := buildRequestBasis c.ctx fcWriteMultipleRegisters addr nb
    let byteCount := nb * 2
    exchangeWrite dev { c with ctx }
      (encodeRegistersLoop src nb.toNat 0 (req ++ [loByte byteCount]))

def modbusMaskWriteRegister (c : Conn σ) (addr : Int) (andMask orMask : Word) :
    Except Failure Int × Conn σ :=
  let (req, ctx) := buildRequestBasis c.ctx fcMaskWriteRegister addr 0
  -- The count is not used.
  let req := req.take (req.length - 2)
  exchangeWrite dev { c with ctx }
    (req ++ [hiByte andMask.toNat, loByte andMask.toNat, hiByte orMask.toNat, loByte orMask.toNat])

def modbusWriteAndReadRegisters (c : Conn σ) (writeAddr writeNb : Int) (src : Nat → Word)
    (readAddr readNb : Int) (dest : Nat → Word) : Except Failure Int × (Nat → Word) × Conn σ :=
  if (maxWrWriteRegisters : Int) < writeNb then (.error (.errno .embmdata), dest, c)
  else if (maxWrReadRegisters : Int) < readNb then (.error (.errno .embmdata), dest, c)
  else
    let (req, ctx) := buildRequestBasis c.ctx fcWriteAndReadRegisters readAddr readNb
    let byteCount := writeNb * 2
    let req := req ++ [hiByte writeAddr, loByte writeAddr, hiByte writeNb, loByte writeNb,
      loByte byteCount]
    match exchange dev { c with ctx } (encodeRegistersLoop src writeNb.toNat 0 req) with
    | (.error e, c) => (.error e, dest, c)
    | (.ok (rc, none), c) => (.ok rc, dest, c)
    | (.ok (rc, some rsp), c) =>
        (.ok rc, decodeRegistersLoop rsp c.ctx.backend.headerLength rc.toNat 0 dest, c)

def copyLoop (rsp : Buffer) (offset : Nat) : Nat → Nat → Buffer → Buffer
  | 0, _, dest => dest
  | left + 1, i, dest => copyLoop rsp offset left (i + 1) (Function.update dest i (rsp (offset + i)))

def modbusReportSlaveId (c : Conn σ) (maxDest : Int) (dest : Buffer) :
    Except Failure Int × Buffer × Conn σ :=
  if maxDest ≤ 0 then (.error (.errno .einval), dest, c)
  else
    let (req, ctx) := buildRequestBasis c.ctx fcReportSlaveId 0 0
    -- The address and the count are not used.
    let req := req.take (req.length - 4)
    match exchange dev { c with ctx } req with
    | (.error e, c) => (.error e, dest, c)
    | (.ok (rc, none), c) => (.ok rc, dest, c)
    | (.ok (rc, some rsp), c) =>
        (.ok rc, copyLoop rsp (c.ctx.backend.headerLength + 2) (min rc maxDest).toNat 0 dest, c)

end

inductive ClientOp
  | readBits (addr nb : Int) (dest : Buffer)
  | readInputBits (addr nb : Int) (dest : Buffer)
  | readRegisters (addr nb : Int) (dest : Nat → Word)
  | readInputRegisters (addr nb : Int) (dest : Nat → Word)
  | writeBit (addr status : Int)
  | writeRegister (addr : Int) (value : Word)
  | writeBits (addr nb : Int) (src : Buffer)
  | writeRegisters (addr nb : Int) (src : Nat → Word)
  | maskWriteRegister (addr : Int) (andMask orMask : Word)
  | writeAndReadRegisters (writeAddr writeNb : Int) (src : Nat → Word) (readAddr readNb : Int)
      (dest : Nat → Word)
  | reportSlaveId (maxDest : Int) (dest : Buffer)

inductive Dest
  | none
  | bytes (dest : Buffer)
  | words (dest : Nat → Word)

def ClientOp.run {σ : Type} (dev : Device σ) (c : Conn σ) :
    ClientOp → Except Failure Int × Dest × Conn σ
  | .readBits addr nb dest =>
      let (rc, dest, c) := modbusReadBits dev c addr nb dest
      (rc, .bytes dest, c)
  | .readInputBits addr nb dest =>
      let (rc, dest, c) := modbusReadInputBits dev c addr nb dest
      (rc, .bytes dest, c)
  | .readRegisters addr nb dest =>
      let (rc, dest, c) := modbusReadRegisters dev c addr nb dest
      (rc, .words dest, c)
  | .readInputRegisters addr nb dest =>
      let (rc, dest, c) := modbusReadInputRegisters dev c addr nb dest
      (rc, .words dest, c)
  | .writeBit addr status =>
      let (rc, c) := modbusWriteBit dev c addr status
      (rc, .none, c)
  | .writeRegister addr value =>
      let (rc, c) := modbusWriteRegister dev c addr value
      (rc, .none, c)
  | .writeBits addr nb src =>
      let (rc, c) := modbusWriteBits dev c addr nb src
      (rc, .none, c)
  | .writeRegisters addr nb src =>
      let (rc, c) := modbusWriteRegisters dev c addr nb src
      (rc, .none, c)
  | .maskWriteRegister addr andMask orMask =>
      let (rc, c) := modbusMaskWriteRegister dev c addr andMask orMask
      (rc, .none, c)
  | .writeAndReadRegisters writeAddr writeNb src readAddr readNb dest =>
      let (rc, dest, c) :=
        modbusWriteAndReadRegisters dev c writeAddr writeNb src readAddr readNb dest
      (rc, .words dest, c)
  | .reportSlaveId maxDest dest =>
      let (rc, dest, c) := modbusReportSlaveId dev c maxDest dest
      (rc, .bytes dest, c)

end ModbusNet
