import ModbusNet.Model.Device
import ModbusNet.Model.Crc

/-!
# The two backends

Headers, checksums and checks of `modbus-tcp.c` and `modbus-rtu.c`. A message under construction is
the list of the bytes written so far; the length field of TCP is zero until it is set.
-/

namespace ModbusNet

structure Sft where
  slave : Int
  function : Int
  tId : Int

/-! ## TCP -/

def modbusTcpBuildRequestBasis (ctx : Ctx) (function : Nat) (addr nb : Int) : List Byte × Ctx :=
  let tId := if ctx.tId.toNat < 65535 then ctx.tId + 1 else 0
  ([hiByte tId.toNat, loByte tId.toNat, 0, 0, 0, 0, loByte ctx.slave, loByte function,
    hiByte addr, loByte addr, hiByte nb, loByte nb], { ctx with tId })

def modbusTcpBuildResponseBasis (sft : Sft) : List Byte :=
  [hiByte sft.tId, loByte sft.tId, 0, 0, 0, 0, loByte sft.slave, loByte sft.function]

def modbusTcpSendMsgPre (req : List Byte) : List Byte :=
  let mbapLength : Int := req.length - 6
  (req.set 4 (hiByte mbapLength)).set 5 (loByte mbapLength)

def modbusTcpPreCheckConfirmation (req rsp : Buffer) : Except Errno Unit :=
  if req 0 ≠ rsp 0 ∨ req 1 ≠ rsp 1 then .error .embbaddata
  else if be16 rsp 2 ≠ 0 then .error .embbaddata
  else .ok ()

/-! ## RTU -/

def modbusRtuBuildRequestBasis (ctx : Ctx) (function : Nat) (addr nb : Int) : List Byte × Ctx :=
  ([loByte ctx.slave, loByte function, hiByte addr, loByte addr, hiByte nb, loByte nb], ctx)

def modbusRtuBuildResponseBasis (sft : Sft) : List Byte := [loByte sft.slave, loByte sft.function]

def modbusRtuSendMsgPre (req : List Byte) : List Byte :=
  let crc := crc16 req
  req ++ [loByte crc.toNat, hiByte crc.toNat]

def modbusRtuPreCheckConfirmation (req rsp : Buffer) : Except Errno Unit :=
  if req 0 ≠ rsp 0 ∧ (req 0).toNat ≠ broadcastAddress then .error .embbadslave else .ok ()

def crcMatches (msg : List Byte) : Bool :=
  crc16 (msg.take (msg.length - 2)) ==
    wordOf (msg.getD (msg.length - 1) 0) (msg.getD (msg.length - 2) 0)

def modbusRtuCheckIntegrity {σ : Type} (dev : Device σ) (c : Conn σ) (msg : List Byte) :
    Except Failure Int × Conn σ :=
  let slave := (msg.getD 0 0).toNat
  if (slave : Int) ≠ c.ctx.slave ∧ slave ≠ broadcastAddress then (.ok 0, c)
  else if crcMatches msg then (.ok msg.length, c)
  else (.error (.errno .embbadcrc),
    if c.ctx.protocolRecovery then (modbusRtuFlush dev c).2 else c)

def buildRequestBasis (ctx : Ctx) (function : Nat) (addr nb : Int) : List Byte × Ctx :=
  match ctx.backend with
  | .rtu => modbusRtuBuildRequestBasis ctx function addr nb
  | .tcp => modbusTcpBuildRequestBasis ctx function addr nb

def buildResponseBasis (b : Backend) (sft : Sft) : List Byte :=
  match b with
  | .rtu => modbusRtuBuildResponseBasis sft
  | .tcp => modbusTcpBuildResponseBasis sft

def prepareResponseTid (b : Backend) (req : Buffer) (reqLength : Int) : Int × Int :=
  match b with
  | .rtu => (0, reqLength - Backend.rtu.checksumLength)
  | .tcp => (be16 req 0, reqLength)

def sendMsgPre (b : Backend) (req : List Byte) : List Byte :=
  match b with
  | .rtu => modbusRtuSendMsgPre req
  | .tcp => modbusTcpSendMsgPre req

def preCheckConfirmation (b : Backend) (req rsp : Buffer) : Except Errno Unit :=
  match b with
  | .rtu => modbusRtuPreCheckConfirmation req rsp
  | .tcp => modbusTcpPreCheckConfirmation req rsp

def checkIntegrity {σ : Type} (dev : Device σ) (c : Conn σ) (msg : List Byte) :
    Except Failure Int × Conn σ :=
  match c.ctx.backend with
  | .rtu => modbusRtuCheckIntegrity dev c msg
  | .tcp => (.ok msg.length, c)

def sendMsg {σ : Type} (dev : Device σ) (c : Conn σ) (msg : List Byte) :
    Except Failure Int × Conn σ :=
  sendFrame dev (sendMsgPre c.ctx.backend msg) c

end ModbusNet
