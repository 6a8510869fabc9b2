import ModbusNet.Library.Scan
import ModbusNet.Model.Types

/-!
# The substation meter

`sim_substation_meter.c` without what it prints about its registers and without its own file, which
no other program reads. The function that writes a register of the controller is a parameter.
-/

namespace ModbusNet

def meterNumRegisters : Nat := 30

def pvInverterPort : Nat := 0
def evChargerPort : Nat := 1
def heatPumpPort : Nat := 1

/-- What is in a register file when it is opened; `none` if it cannot be opened. -/
abbrev RegisterFile := Option (List Char)

structure RegisterFiles where
  pv : RegisterFile
  ev : RegisterFile
  hp : RegisterFile

structure Notice where
  address : Int
  value : Binary32
  notified : Bool
  deriving DecidableEq

structure Meter (κ : Type) where
  prevValues : List Binary32
  totalCurrent : Binary32
  totalVoltage : Binary32
  ctx : Option κ
  notices : List Notice

def readSlot (prevValues : List Binary32) (address : Int) : Except Failure Binary32 :=
  if 0 ≤ address then readTab prevValues address.toNat else .error .undefined

def writeSlot (prevValues : List Binary32) (address : Int) (value : Binary32) :
    Except Failure (List Binary32) :=
  if 0 ≤ address then writeTab prevValues address.toNat value else .error .undefined

def sscanfRegister : List Char → Option (Int × Binary32)
  | '0' :: 'x' :: rest =>
      match scanInt 4 rest with
      | some (address, rest) => (scanFloat 6 rest).map fun value => (address, value)
      | none => none
  | _ => none

def currentRegisterLine : List Char := "Current Register\n".toList
def voltageRegisterLine : List Char := "Voltage Register\n".toList

def meterLineSize : Nat := 256

namespace Meter
variable {κ : Type}

def updateTotal (m : Meter κ) (currentOrVoltage : Bool) (change : Binary32 → Binary32) : Meter κ :=
  if currentOrVoltage then { m with totalCurrent := change m.totalCurrent }
  else { m with totalVoltage := change m.totalVoltage }

section
variable (writeRegister : κ → Int → Word → Except Failure Int × κ)

/-- A call of `modbus_write_register` whose failure is only printed. Without a connection the call
does nothing. -/
def notify (m : Meter κ) (address : Int) (value : Binary32) : Except Failure (Meter κ) :=
  match m.ctx with
  | none => .ok m
  | some c =>
      match value.toUint16 with
      | none => .error .undefined
      | some word =>
          match writeRegister c address word with
          | (.ok _, c) =>
              .ok { m with ctx := some c, notices := m.notices ++ [⟨address, value, true⟩] }
          | (.error (.errno _), c) =>
              .ok { m with ctx := some c, notices := m.notices ++ [⟨address, value, false⟩] }
          | (.error e, _) => .error e

def updateTotalValue (m : Meter κ) : Except Failure (Meter κ) := do
  let m ← m.notify writeRegister 10 m.totalCurrent
  let m ← m.notify writeRegister 26 m.totalVoltage
  let prevValues ← writeSlot m.prevValues 10 m.totalCurrent
  let prevValues ← writeSlot prevValues 26 m.totalVoltage
  return { m with prevValues }

def registerAddress (address : Int) : Int := if 3000 ≤ address then address - 3000 else address

def initializeRegister (m : Meter κ) (imExPort : Nat) (currentOrVoltage : Bool) (address : Int)
    (value : Binary32) : Except Failure (Meter κ) := do
  let prevValues ← writeSlot m.prevValues address value
  let m := { m with prevValues }.updateTotal currentOrVoltage fun total =>
    if imExPort = 1 then total - value else total + value
  m.notify writeRegister address value

def checkRegister (m : Meter κ) (imExPort : Nat) (currentOrVoltage : Bool) (address : Int)
    (value : Binary32) : Except Failure (Meter κ) := do
  let prev ← readSlot m.prevValues address
  if prev.differs value then
    let m := m.updateTotal currentOrVoltage fun total =>
      if imExPort = 1 then total + prev - value else total - prev + value
    let prevValues ← writeSlot m.prevValues address value
    let m ← { m with prevValues }.notify writeRegister address value
    if m.ctx.isSome then m.updateTotalValue writeRegister else .ok m
  else .ok m

end

def readLines (register : Meter κ → Bool → Int → Binary32 → Except Failure (Meter κ)) :
    Bool → List (List Char) → Meter κ → Except Failure (Meter κ)
  | _, [], m => .ok m
  | currentOrVoltage, line :: lines, m =>
      if line = currentRegisterLine then readLines register true lines m
      else if line = voltageRegisterLine then readLines register false lines m
      else
        match sscanfRegister line with
        | none => readLines register currentOrVoltage lines m
        | some (address, value) =>
            let address := registerAddress address
            if (meterNumRegisters : Int) < address then readLines register currentOrVoltage lines m
            else
              (register m currentOrVoltage address value).bind
                (readLines register currentOrVoltage lines)

def readFile (register : Meter κ → Bool → Int → Binary32 → Except Failure (Meter κ))
    (file : RegisterFile) (m : Meter κ) : Except Failure (Meter κ) :=
  match file with
  | none => .ok m
  | some text => readLines register false (fgetsLines meterLineSize text) m

section
variable (writeRegister : κ → Int → Word → Except Failure Int × κ)

def initializeRegisters (m : Meter κ) (file : RegisterFile) (imExPort : Nat) :
    Except Failure (Meter κ) :=
  readFile (fun m currentOrVoltage address value =>
    m.initializeRegister writeRegister imExPort currentOrVoltage address value) file m

def checkFileAndNotify (m : Meter κ) (file : RegisterFile) (imExPort : Nat) :
    Except Failure (Meter κ) :=
  readFile (fun m currentOrVoltage address value =>
    m.checkRegister writeRegister imExPort currentOrVoltage address value) file m

def initializeAll (m : Meter κ) (files : RegisterFiles) : Except Failure (Meter κ) := do
  let m ← m.initializeRegisters writeRegister files.pv pvInverterPort
  let m ← m.initializeRegisters writeRegister files.ev evChargerPort
  m.initializeRegisters writeRegister files.hp heatPumpPort

def poll (m : Meter κ) (files : RegisterFiles) : Except Failure (Meter κ) := do
  let m ← m.checkFileAndNotify writeRegister files.pv pvInverterPort
  let m ← m.checkFileAndNotify writeRegister files.ev evChargerPort
  m.checkFileAndNotify writeRegister files.hp heatPumpPort

def polls : List RegisterFiles → Meter κ → Except Failure (Meter κ)
  | [], m => .ok m
  | files :: rounds, m => (m.poll writeRegister files).bind (polls rounds)

def zero (ctx : Option κ) : Meter κ where
  prevValues := List.replicate meterNumRegisters 0
  totalCurrent := 0
  totalVoltage := 0
  ctx
  notices := []

def run (ctx : Option κ) (start : RegisterFiles) (rounds : List RegisterFiles) :
    Except Failure (Meter κ) := do
  let m ← (zero ctx).initializeAll writeRegister start
  let m ← m.updateTotalValue writeRegister
  polls writeRegister rounds m

end
end Meter
end ModbusNet
