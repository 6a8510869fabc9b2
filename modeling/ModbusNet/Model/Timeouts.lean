import ModbusNet.Model.Client
import ModbusNet.Model.Win32Serial

/-!
# Timeouts

The waits of `_modbus_receive_msg`: the loop around `select` in `_modbus_tcp_select` and
`_modbus_rtu_select`, and the `tv` that the receive loop hands to it. Times are in microseconds.
-/

namespace ModbusNet

def Timeval.micros (t : Timeval) : Nat := t.tvSec * 1000000 + t.tvUsec

structure RtsDelays where
  rtsDelay : Nat
  onebyteTime : Nat

structure Timeouts where
  response : Timeval
  byte : Timeval
  indication : Timeval
  rts : Option RtsDelays

def Timeouts.sendSleep (timeouts : Timeouts) (reqLength : Nat) : Nat :=
  match timeouts.rts with
  | none => 0
  | some d => d.rtsDelay + (d.onebyteTime * reqLength + d.rtsDelay)

inductive Selected
  | ready
  | expired
  | interrupted
  | failed (e : Errno)

/-- The system calls that wait. `select` ends in some way, and after some time: it waits no longer than
its timeout, and for all of it when it returns 0. `signals` bounds the signals that interrupt it before
something else happens. Connecting takes a time, at most `reconnect`. -/
structure Selecting (σ : Type) where
  select : Option Nat → σ → Selected × Nat × σ
  signals : σ → Nat
  connecting : σ → Nat
  reconnect : Nat
  within : ∀ t l, (select (some t) l).2.1 ≤ t
  expired : ∀ t l, (select (some t) l).1 = .expired → (select (some t) l).2.1 = t
  other : ∀ tv l, (select tv l).1 ≠ .failed .etimedout
  fewer : ∀ tv l, (select tv l).1 = .interrupted → signals (select tv l).2.2 < signals l
  connected : ∀ l, connecting l ≤ reconnect

/-- What is behind a descriptor, the `tv` of the function that waits for it (`none` where `p_tv` is
`NULL`), and the time that was waited. -/
structure Timed (σ : Type) where
  line : σ
  tv : Option Nat
  elapsed : Nat

variable {σ : Type}

def selectLoop (sel : Selecting σ) : Nat → Timed σ → Except Failure Unit × Timed σ
  | 0, l => (.error .hang, l)
  | fuel + 1, l =>
      let (selected, waited, line) := sel.select l.tv l.line
      let l : Timed σ := ⟨line, l.tv.map (· - waited), l.elapsed + waited⟩
      match selected with
      | .ready => (.ok (), l)
      | .expired => (.error (.errno .etimedout), l)
      | .interrupted => selectLoop sel fuel l
      | .failed e => (.error (.errno e), l)

def Timed.after (l : Timed σ) (line : σ) (time : Nat) : Timed σ :=
  { l with line, elapsed := l.elapsed + time }

def timedDevice (dev : Device σ) (sel : Selecting σ) (timeouts : Timeouts) : Device (Timed σ) where
  send msg l :=
    ((dev.send msg l.line).1, l.after (dev.send msg l.line).2 (timeouts.sendSleep msg.length))
  select _ l := selectLoop sel (sel.signals l.line + 1) l
  recv n l := ((dev.recv n l.line).1, { l with line := (dev.recv n l.line).2 })
  recvDontwait n l :=
    ((dev.recvDontwait n l.line).1, { l with line := (dev.recvDontwait n l.line).2 })
  tcflush l := { l with line := dev.tcflush l.line }
  sleep l := l.after (dev.sleep l.line) timeouts.response.micros
  close l := { l with line := dev.close l.line }
  connect l := ((dev.connect l.line).1, l.after (dev.connect l.line).2 (sel.connecting l.line))
  retries := dev.retries

def firstTimeout (timeouts : Timeouts) : MsgType → Option Nat
  | .indication =>
      if timeouts.indication.tvSec = 0 ∧ timeouts.indication.tvUsec = 0 then none
      else some timeouts.indication.micros
  | .confirmation => some timeouts.response.micros

def Timed.rearm (timeouts : Timeouts) (l : Timed σ) : Timed σ :=
  if 0 < timeouts.byte.tvSec ∨ 0 < timeouts.byte.tvUsec then { l with tv := some timeouts.byte.micros }
  else l

section
variable (dev : Device (Timed σ)) (timeouts : Timeouts)

def timedReceiveLoop (msgType : MsgType) : Nat → Step → Nat → List Byte → Conn (Timed σ) →
    Except Failure Unit × List Byte × Conn (Timed σ)
  | 0, _, _, msg, c => (.error .hang, msg, c)
  | fuel + 1, step, lengthToRead, msg, c =>
      if lengthToRead = 0 then (.ok (), msg, c)
      else
        match dev.select lengthToRead c.line with
        | (.error e, line) => (.error e, msg, recoverSelect dev e { c with line })
        | (.ok (), line) =>
            match dev.recv lengthToRead line with
            | (.error e, line) => (.error (.errno e), msg, recoverRead dev e { c with line })
            | (.ok bytes, line) =>
                let c := { c with line }
                if bytes.val = [] then
                  (.error (.errno .econnreset), msg, recoverRead dev .econnreset c)
                else
                  let msg := msg ++ bytes.val
                  let lengthToRead := lengthToRead - bytes.val.length
                  match if lengthToRead = 0 then nextStep c.ctx.backend msgType step msg
                    else .ok (step, lengthToRead) with
                  | .error e => (.error (.errno e), msg, c)
                  | .ok (step, lengthToRead) =>
                      let c := if 0 < lengthToRead then { c with line := c.line.rearm timeouts } else c
                      timedReceiveLoop msgType fuel step lengthToRead msg c

def timedReceiveMsg (msgType : MsgType) (c : Conn (Timed σ)) :
    Except Failure Int × List Byte × Conn (Timed σ) :=
  if ¬ c.ctx.isConnected then (.error (.errno .unset), [], c)
  else
    let c := { c with line := { c.line with tv := firstTimeout timeouts msgType } }
    match timedReceiveLoop dev timeouts msgType receiveFuel .stepFunction
      (c.ctx.backend.headerLength + 1) [] c with
    | (.error e, msg, c) => (.error e, msg, c)
    | (.ok (), msg, c) =>
        let (rc, c) := checkIntegrity dev c msg
        (rc, msg, c)

end

/-- The device on which `modbusReceiveMsg` waits as `timedReceiveMsg` does: `tv` is set when a request
was sent and when bytes were read. -/
def armedDevice (dev : Device σ) (sel : Selecting σ) (timeouts : Timeouts) : Device (Timed σ) :=
  { timedDevice dev sel timeouts with
    send := fun msg l =>
      ((dev.send msg l.line).1,
        { l.after (dev.send msg l.line).2 (timeouts.sendSleep msg.length) with
          tv := firstTimeout timeouts .confirmation })
    recv := fun n l =>
      match dev.recv n l.line with
      | (.ok ⟨b :: bytes, short⟩, line) =>
          (.ok ⟨b :: bytes, short⟩, Timed.rearm timeouts { l with line })
      | (rc, line) => (rc, { l with line }) }

end ModbusNet
