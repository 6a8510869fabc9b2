import ModbusNet.Model.Backend

namespace ModbusNet

def computeMetaLengthAfterFunction (function : Nat) (msgType : MsgType) : Nat :=
  match msgType with
  | .indication =>
      if function ≤ fcWriteSingleRegister then 4
      else if function = fcWriteMultipleCoils ∨ function = fcWriteMultipleRegisters then 5
      else if function = fcMaskWriteRegister then 6
      else if function = fcWriteAndReadRegisters then 9
      else 0
  | .confirmation =>
      if function = fcWriteSingleCoil ∨ function = fcWriteSingleRegister ∨
          function = fcWriteMultipleCoils ∨ function = fcWriteMultipleRegisters then 4
      else if function = fcMaskWriteRegister then 6
      else 1

def computeDataLengthAfterMeta (b : Backend) (msg : Buffer) (msgType : MsgType) : Nat :=
  let function := (msg b.headerLength).toNat
  let length :=
    match msgType with
    | .indication =>
        if function = fcWriteMultipleCoils ∨ function = fcWriteMultipleRegisters then
          (msg (b.headerLength + 5)).toNat
        else if function = fcWriteAndReadRegisters then (msg (b.headerLength + 9)).toNat
        else 0
    | .confirmation =>
        if function ≤ fcReadInputRegisters ∨ function = fcReportSlaveId ∨
            function = fcWriteAndReadRegisters then
          (msg (b.headerLength + 1)).toNat
        else 0
  length + b.checksumLength

inductive Step
  | stepFunction
  | stepMeta
  | stepData
  deriving DecidableEq, Repr

def metaArm (b : Backend) (msgType : MsgType) (msg : List Byte) : Except Errno (Step × Nat) :=
  let lengthToRead := computeDataLengthAfterMeta b (ofBytes msg) msgType
  if b.maxAduLength < msg.length + lengthToRead then .error .embbaddata
  else .ok (.stepData, lengthToRead)

def nextStep (b : Backend) (msgType : MsgType) (step : Step) (msg : List Byte) :
    Except Errno (Step × Nat) :=
  match step with
  | .stepFunction =>
      let lengthToRead :=
        computeMetaLengthAfterFunction (msg.getD b.headerLength 0).toNat msgType
      if lengthToRead ≠ 0 then .ok (.stepMeta, lengthToRead) else metaArm b msgType msg
  | .stepMeta => metaArm b msgType msg
  | .stepData => .ok (.stepData, 0)

section
variable {σ : Type} (dev : Device σ)

def recoverSelect (e : Failure) (c : Conn σ) : Conn σ :=
  if c.ctx.linkRecovery then
    match e with
    | .errno .etimedout => sleepAndFlush dev c
    | .errno .ebadf => modbusConnect dev (modbusClose dev c)
    | _ => c
  else c

def recoverRead (e : Errno) (c : Conn σ) : Conn σ :=
  if c.ctx.linkRecovery ∧ (e = .econnreset ∨ e = .econnrefused ∨ e = .ebadf) then
    modbusConnect dev (modbusClose dev c)
  else c

/-- The while loop of `_modbus_receive_msg`: how it ends, the bytes stored in `msg`, and the
connection. -/
def receiveLoop (msgType : MsgType) :
    Nat → Step → Nat → List Byte → Conn σ → Except Failure Unit × List Byte × Conn σ
  | 0, _, _, msg, c => (.error .hang, msg, c)
  | fuel + 1, step, lengthToRead, msg, c =>
      if lengthToRead = 0 then (.ok (), msg, c)
      else
        match dev.select lengthToRead c.line with
        | (.error e, line) => (.error e, msg, recoverSelect dev e { c with line })
        | (.ok (), line) =>
            match dev.recv lengthToRead line with
            | (.error e, line) => (.error (.errno e), msg, recoverRead dev e { c with line })
            | (.ok bytes, line) =>
                let c := { c with line }
                if bytes.val = [] then
                  (.error (.errno .econnreset), msg, recoverRead dev .econnreset c)
                else
                  let msg := msg ++ bytes.val
                  let lengthToRead := lengthToRead - bytes.val.length
                  if lengthToRead ≠ 0 then receiveLoop msgType fuel step lengthToRead msg c
                  else
                    match nextStep c.ctx.backend msgType step msg with
                    | .error e => (.error (.errno e), msg, c)
                    | .ok (step, lengthToRead) => receiveLoop msgType fuel step lengthToRead msg c

/-- More rounds than a message has bytes. -/
def receiveFuel : Nat := 300

def modbusReceiveMsg (msgType : MsgType) (c : Conn σ) : Except Failure Int × List Byte × Conn σ :=
  if ¬ c.ctx.isConnected then (.error (.errno .unset), [], c)
  else
    match receiveLoop dev msgType receiveFuel .stepFunction (c.ctx.backend.headerLength + 1) [] c with
    | (.error e, msg, c) => (.error e, msg, c)
    | (.ok (), msg, c) =>
        let (rc, c) := checkIntegrity dev c msg
        (rc, msg, c)

def modbusRtuReceive (c : Conn σ) (req : Buffer) : Except Failure Int × Buffer × Conn σ :=
  if c.ctx.confirmationToIgnore then
    match modbusReceiveMsg dev .confirmation c with
    | (.error .hang, msg, c) => (.error .hang, overlay req msg, c)
    -- Errors are ignored and the flag is reset.
    | (_, msg, c) =>
        (.ok 0, overlay req msg, { c with ctx := { c.ctx with confirmationToIgnore := false } })
  else
    match modbusReceiveMsg dev .indication c with
    | (.ok 0, msg, c) =>
        (.ok 0, overlay req msg, { c with ctx := { c.ctx with confirmationToIgnore := true } })
    | (rc, msg, c) => (rc, overlay req msg, c)

def modbusTcpReceive (c : Conn σ) (req : Buffer) : Except Failure Int × Buffer × Conn σ :=
  let (rc, msg, c) := modbusReceiveMsg dev .indication c
  (rc, overlay req msg, c)

def modbusReceive (c : Conn σ) (req : Buffer) : Except Failure Int × Buffer × Conn σ :=
  match c.ctx.backend with
  | .rtu => modbusRtuReceive dev c req
  | .tcp => modbusTcpReceive dev c req

end
end ModbusNet
