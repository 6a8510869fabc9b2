import ModbusNet.Library.Words

namespace ModbusNet

def fcReadCoils : Nat := 0x01
def fcReadDiscreteInputs : Nat := 0x02
def fcReadHoldingRegisters : Nat := 0x03
def fcReadInputRegisters : Nat := 0x04
def fcWriteSingleCoil : Nat := 0x05
def fcWriteSingleRegister : Nat := 0x06
def fcReadExceptionStatus : Nat := 0x07
def fcWriteMultipleCoils : Nat := 0x0F
def fcWriteMultipleRegisters : Nat := 0x10
def fcReportSlaveId : Nat := 0x11
def fcMaskWriteRegister : Nat := 0x16
def fcWriteAndReadRegisters : Nat := 0x17

def broadcastAddress : Nat := 0

def maxReadBits : Nat := 2000
def maxWriteBits : Nat := 1968
def maxReadRegisters : Nat := 125
def maxWriteRegisters : Nat := 123
def maxWrWriteRegisters : Nat := 121
def maxWrReadRegisters : Nat := 125
def maxPduLength : Nat := 253
def maxMessageLength : Nat := 260
def tcpMaxAduLength : Nat := 260
def rtuMaxAduLength : Nat := 256

def exceptionIllegalFunction : Nat := 0x01
def exceptionIllegalDataAddress : Nat := 0x02
def exceptionIllegalDataValue : Nat := 0x03
def exceptionSlaveOrServerBusy : Nat := 0x06
def exceptionMax : Nat := 0x0C

def reportSlaveId : Nat := 180

attribute [simp] fcReadCoils fcReadDiscreteInputs fcReadHoldingRegisters fcReadInputRegisters
  fcWriteSingleCoil fcWriteSingleRegister fcReadExceptionStatus fcWriteMultipleCoils
  fcWriteMultipleRegisters fcReportSlaveId fcMaskWriteRegister fcWriteAndReadRegisters

/-- `errno` after a call that returned -1. `enobase c` is `MODBUS_ENOBASE + c`; `unset` stands for
the path that returns -1 and leaves `errno` as it was. -/
inductive Errno
  | enobase (exceptionCode : Nat)
  | embbadcrc
  | embbaddata
  | embbadexc
  | embmdata
  | embbadslave
  | einval
  | enoprotoopt
  | eoverflow
  | etimedout
  | econnreset
  | econnrefused
  | ebadf
  | epipe
  | eagain
  | enotsock
  | unset
  deriving DecidableEq, Repr

abbrev embxiladd : Errno := .enobase exceptionIllegalDataAddress

/-- Why a call gives no result: it returned -1, it does not return, or its behaviour is undefined
(an access outside an array, a copy of negative length). -/
inductive Failure
  | errno (e : Errno)
  | hang
  | undefined
  deriving DecidableEq, Repr

inductive Backend
  | rtu
  | tcp
  deriving DecidableEq, Repr

def Backend.headerLength : Backend → Nat
  | .rtu => 1
  | .tcp => 7

def Backend.checksumLength : Backend → Nat
  | .rtu => 2
  | .tcp => 0

def Backend.maxAduLength : Backend → Nat
  | .rtu => rtuMaxAduLength
  | .tcp => tcpMaxAduLength

namespace Backend
@[simp] theorem headerLength_rtu : rtu.headerLength = 1 := rfl
@[simp] theorem headerLength_tcp : tcp.headerLength = 7 := rfl
@[simp] theorem checksumLength_rtu : rtu.checksumLength = 2 := rfl
@[simp] theorem checksumLength_tcp : tcp.checksumLength = 0 := rfl
@[simp] theorem maxAduLength_rtu : rtu.maxAduLength = rtuMaxAduLength := rfl
@[simp] theorem maxAduLength_tcp : tcp.maxAduLength = tcpMaxAduLength := rfl
end Backend

inductive MsgType
  | indication
  | confirmation
  deriving DecidableEq, Repr

def errorRecoveryLink : Nat := 2
def errorRecoveryProtocol : Nat := 4
def quirkReplyToBroadcast : Nat := 4

abbrev VersionString := { version : List Byte // version.length < 200 }

/-- `modbus_t` with the state of its backend: the transaction identifier of TCP and the flag of RTU.
`uninit` is what local arrays hold before they are written. -/
structure Ctx where
  backend : Backend
  slave : Int
  s : Int
  errorRecovery : Nat
  quirks : Nat
  tId : Word
  confirmationToIgnore : Bool
  version : VersionString
  uninit : Buffer

def Ctx.linkRecovery (ctx : Ctx) : Bool := ctx.errorRecovery &&& errorRecoveryLink != 0
def Ctx.protocolRecovery (ctx : Ctx) : Bool := ctx.errorRecovery &&& errorRecoveryProtocol != 0
def Ctx.replyToBroadcast (ctx : Ctx) : Bool := ctx.quirks &&& quirkReplyToBroadcast != 0
def Ctx.isConnected (ctx : Ctx) : Bool := decide (0 ≤ ctx.s)

/-- `modbus_mapping_t`. A `NULL` table is the empty list. -/
structure ModbusMapping where
  nbBits : Int
  startBits : Int
  nbInputBits : Int
  startInputBits : Int
  nbInputRegisters : Int
  startInputRegisters : Int
  nbRegisters : Int
  startRegisters : Int
  tabBits : List Byte
  tabInputBits : List Byte
  tabInputRegisters : List Word
  tabRegisters : List Word
  deriving DecidableEq

structure ModbusMapping.WellFormed (mb : ModbusMapping) : Prop where
  startBits : 0 ≤ mb.startBits
  startInputBits : 0 ≤ mb.startInputBits
  startRegisters : 0 ≤ mb.startRegisters
  startInputRegisters : 0 ≤ mb.startInputRegisters
  nbBits : mb.nbBits = mb.tabBits.length
  nbInputBits : mb.nbInputBits = mb.tabInputBits.length
  nbRegisters : mb.nbRegisters = mb.tabRegisters.length
  nbInputRegisters : mb.nbInputRegisters = mb.tabInputRegisters.length

/-- `tab[i]`, defined inside the table only. -/
def readTab {α : Type} (tab : List α) (i : Nat) : Except Failure α :=
  match tab[i]? with
  | some cell => .ok cell
  | none => .error .undefined

def writeTab {α : Type} (tab : List α) (i : Nat) (v : α) : Except Failure (List α) :=
  if i < tab.length then .ok (tab.set i v) else .error .undefined

@[simp] theorem readTab_eq {α : Type} (tab : List α) (i : Nat) (bound : i < tab.length) :
    readTab tab i = .ok tab[i] := by
  simp [readTab, bound]

@[simp] theorem writeTab_eq {α : Type} (tab : List α) (i : Nat) (v : α) (bound : i < tab.length) :
    writeTab tab i v = .ok (tab.set i v) := by
  simp [writeTab, bound]

end ModbusNet
