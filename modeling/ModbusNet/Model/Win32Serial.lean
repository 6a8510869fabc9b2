import ModbusNet.Model.Device

namespace ModbusNet

def pyBufSize : Nat := 512

structure Win32Ser where
  buf : Buffer
  nBytes : Nat

/-- `ReadFile` with the time-out in milliseconds that `SetCommTimeouts` has set. When it fails, it
leaves the count of bytes at zero, to which it sets it before anything else. -/
abbrev ReadFile (σ : Type) :=
  (msec n : Nat) → σ → Except Errno { bytes : List Byte // bytes.length ≤ n } × σ

structure SerialPort (σ : Type) where
  readFile : ReadFile σ
  writeFile : List Byte → σ → Except Errno Nat × σ
  purgeComm : σ → σ
  closeHandle : σ → σ
  createFile : σ → Except Errno Int × σ

structure Timeval where
  tvSec : Nat
  tvUsec : Nat

def maxDword : Nat := 0xFFFFFFFF

def win32SerInit : Win32Ser := { buf := fun _ => 0, nBytes := 0 }

variable {σ : Type}

def commTimeout : Option Timeval → Nat
  | none => maxDword
  | some tv =>
      let msec := (tv.tvSec * 1000 + tv.tvUsec / 1000) % 2 ^ 32
      if msec < 1 then 1 else msec

def readLength (maxLen : Int) : Nat :=
  if (pyBufSize : Int) < maxLen ∨ maxLen < 0 then pyBufSize else maxLen.toNat

def win32SerSelect (readFile : ReadFile σ) (ws : Win32Ser) (maxLen : Int) (tv : Option Timeval)
    (line : σ) : Int × Win32Ser × σ :=
  if 0 < ws.nBytes then (1, ws, line)
  else
    match readFile (commTimeout tv) (readLength maxLen) line with
    | (.ok bytes, line) =>
        let ws := { buf := overlay ws.buf bytes.val, nBytes := bytes.val.length }
        (if 0 < ws.nBytes then 1 else 0, ws, line)
    | (.error _, line) => (-1, { ws with nBytes := 0 }, line)

def win32SerRead (ws : Win32Ser) (maxLen : Nat) : List Byte × Win32Ser :=
  let n := if maxLen < ws.nBytes then maxLen else ws.nBytes
  (bytesAt ws.buf 0 n, { ws with nBytes := ws.nBytes - n })

theorem win32SerRead_length (ws : Win32Ser) (maxLen : Nat) :
    (win32SerRead ws maxLen).1.length ≤ maxLen := by
  simp only [win32SerRead, bytesAt_length]
  split <;> omega

/-- The structure and the port, with the bytes that `ReadFile` has obtained and the bytes that
`win32_ser_read` has delivered since the buffers were last cleared. -/
structure SerialState (σ : Type) where
  ws : Win32Ser
  line : σ
  obtained : List Byte
  delivered : List Byte

def ReadFile.recorded (readFile : ReadFile σ) : ReadFile (σ × List Byte) :=
  fun msec n (line, obtained) =>
    match readFile msec n line with
    | (.ok bytes, line) => (.ok bytes, (line, obtained ++ bytes.val))
    | (.error e, line) => (.error e, (line, obtained))

section
variable (port : SerialPort σ)

def win32Device (tv : Option Timeval) : Device (SerialState σ) where
  send msg s :=
    let (rc, line) := port.writeFile msg s.line
    (rc, { s with line })
  select n s :=
    let (rc, ws, (line, obtained)) :=
      win32SerSelect port.readFile.recorded s.ws n tv (s.line, s.obtained)
    let s := { s with ws, line, obtained }
    (if rc = 0 then .error (.errno .etimedout) else if rc < 0 then .error (.errno .unset) else .ok (),
      s)
  recv n s :=
    (.ok ⟨(win32SerRead s.ws n).1, win32SerRead_length s.ws n⟩,
      { s with ws := (win32SerRead s.ws n).2, delivered := s.delivered ++ (win32SerRead s.ws n).1 })
  -- Not called by the RTU backend.
  recvDontwait _ s := (.error .eagain, s)
  tcflush s := ⟨{ s.ws with nBytes := 0 }, port.purgeComm s.line, [], []⟩
  sleep s := s
  close s := { s with line := port.closeHandle s.line }
  connect s :=
    let (handle, line) := port.createFile s.line
    (handle, ⟨win32SerInit, line, [], []⟩)
  retries := 0

/-- What happens to the port: a select and, if it succeeds, a read of the same length, or a flush. -/
inductive SerialStep
  | receive (tv : Option Timeval) (lengthToRead : Nat)
  | flush

def serialStep (s : SerialState σ) : SerialStep → SerialState σ
  | .receive tv lengthToRead =>
      match (win32Device port tv).select lengthToRead s with
      | (.error _, s) => s
      | (.ok _, s) => ((win32Device port tv).recv lengthToRead s).2
  | .flush => (win32Device port none).tcflush s

def serialRun (steps : List SerialStep) (s : SerialState σ) : SerialState σ :=
  steps.foldl (serialStep port) s

end

end ModbusNet
