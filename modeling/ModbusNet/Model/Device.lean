import ModbusNet.Model.Types

/-!
# The descriptor under a context

What the library asks of the operating system, and the functions of `modbus.c` and
`modbus-tcp.c` that only move bytes: flushing, sending and the recovery actions. The state of the
world behind the descriptor is a type parameter.
-/

namespace ModbusNet

structure Device (σ : Type) where
  send : List Byte → σ → Except Errno Nat × σ
  select : Nat → σ → Except Failure Unit × σ
  /-- `recv` or `read`; no bytes means that the peer has closed. -/
  recv : (n : Nat) → σ → Except Errno { bytes : List Byte // bytes.length ≤ n } × σ
  recvDontwait : (n : Nat) → σ → Except Errno { bytes : List Byte // bytes.length ≤ n } × σ
  tcflush : σ → σ
  sleep : σ → σ
  close : σ → σ
  connect : σ → Except Errno Int × σ
  /-- How many rounds of a loop without a bound are followed. -/
  retries : Nat

structure Conn (σ : Type) where
  ctx : Ctx
  line : σ

variable {σ : Type}

def modbusTcpFlushLoop (dev : Device σ) : Nat → Nat → Conn σ → Except Failure Int × Conn σ
  | 0, _, c => (.error .hang, c)
  | fuel + 1, rcSum, c =>
      match dev.recvDontwait tcpMaxAduLength c.line with
      | (.error _, line) => (.ok rcSum, { c with line })
      | (.ok bytes, line) =>
          let rc := bytes.val.length
          if 0 < rc ∧ ¬ rcSum ≤ 65535 - rc then
            (.error (.errno .eoverflow),
              { ctx := { c.ctx with errorRecovery := errorRecoveryProtocol }, line })
          else if rc = tcpMaxAduLength then modbusTcpFlushLoop dev fuel (rcSum + rc) { c with line }
          else (.ok (rcSum + rc : Nat), { c with line })

/-- The sum is a 16-bit counter, so the loop ends within 253 rounds. -/
def modbusTcpFlush (dev : Device σ) (c : Conn σ) : Except Failure Int × Conn σ :=
  modbusTcpFlushLoop dev 254 0 c

def modbusRtuFlush (dev : Device σ) (c : Conn σ) : Except Failure Int × Conn σ :=
  (.ok 0, { c with line := dev.tcflush c.line })

def modbusFlush (dev : Device σ) (c : Conn σ) : Except Failure Int × Conn σ :=
  match c.ctx.backend with
  | .rtu => modbusRtuFlush dev c
  | .tcp => modbusTcpFlush dev c

def sleepResponseTimeout (dev : Device σ) (c : Conn σ) : Conn σ :=
  { c with line := dev.sleep c.line }

def sleepAndFlush (dev : Device σ) (c : Conn σ) : Conn σ :=
  (modbusFlush dev (sleepResponseTimeout dev c)).2

def modbusClose (dev : Device σ) (c : Conn σ) : Conn σ :=
  if c.ctx.isConnected then { ctx := { c.ctx with s := -1 }, line := dev.close c.line } else c

def modbusConnect (dev : Device σ) (c : Conn σ) : Conn σ :=
  match dev.connect c.line with
  | (.ok s, line) => { ctx := { c.ctx with s }, line }
  | (.error _, line) => { ctx := { c.ctx with s := -1 }, line }

def recoverProtocol (dev : Device σ) (c : Conn σ) : Conn σ :=
  if c.ctx.protocolRecovery then sleepAndFlush dev c else c

def recoverSend (dev : Device σ) (e : Errno) (c : Conn σ) : Conn σ :=
  if e = .ebadf ∨ e = .econnreset ∨ e = .epipe then
    modbusConnect dev (sleepResponseTimeout dev (modbusClose dev c))
  else sleepAndFlush dev c

def sendLoop (dev : Device σ) (msg : List Byte) : Nat → Conn σ → Except Failure Int × Conn σ
  | 0, c => (.error .hang, c)
  | fuel + 1, c =>
      match dev.send msg c.line with
      | (.ok n, line) => (.ok n, { c with line })
      | (.error e, line) =>
          let c := { c with line }
          let c := if c.ctx.linkRecovery then recoverSend dev e c else c
          -- The flush of the recovery may itself have changed the mode.
          if c.ctx.linkRecovery then sendLoop dev msg fuel c else (.error (.errno e), c)

def sendFrame (dev : Device σ) (msg : List Byte) (c : Conn σ) : Except Failure Int × Conn σ :=
  match sendLoop dev msg (dev.retries + 1) c with
  | (.ok rc, c) => if 0 < rc ∧ rc ≠ msg.length then (.error (.errno .embbaddata), c) else (.ok rc, c)
  | (.error e, c) => (.error e, c)

end ModbusNet
