import ModbusNet.Library.Print
import ModbusNet.Library.Slices
import ModbusNet.Model.Meter
import ModbusNet.Model.Simulator

namespace ModbusNet

structure FileWriter where
  simulator : Simulator
  currentAddress : Int
  voltageAddress : Int
  /-- The digits behind the point in a line that is overwritten. -/
  precision : Nat

def pvInverterFile : FileWriter :=
  { simulator := pvInverter, currentAddress := 3002, voltageAddress := 3022, precision := 1 }
def evChargerFile : FileWriter :=
  { simulator := evCharger, currentAddress := 3004, voltageAddress := 3024, precision := 6 }
def heatPumpFile : FileWriter :=
  { simulator := heatPump, currentAddress := 3000, voltageAddress := 3020, precision := 6 }

def fileWriters : List FileWriter := [pvInverterFile, evChargerFile, heatPumpFile]

/-- `"0x%4d    %6.1f\n"`, with the digits behind the point as a parameter. -/
def registerLine (precision : Nat) (address : Int) (value : ℚ) : List Char :=
  ['0', 'x'] ++ (printInt 4 address ++ (List.replicate 4 ' ' ++ (printFloat 6 precision value ++ ['\n'])))

def appendedLine (address : Int) (value : ℚ) : List Char :=
  printInt 6 address ++ (List.replicate 4 ' ' ++ (printFloat 6 1 value ++ ['\n']))

def addressValueLine : List Char := "Address Value\n".toList

namespace FileWriter
variable (w : FileWriter)

def initialLines : List (List Char) :=
  [currentRegisterLine, addressValueLine, registerLine 1 w.currentAddress 10, ['\n'],
    voltageRegisterLine, addressValueLine, registerLine 1 w.voltageAddress 100]

def initializeFile (file : RegisterFile) : RegisterFile := some (file.getD w.initialLines.flatten)

end FileWriter

def updateBufferSize : Nat := 256

def findRegister (address : Int) : Nat → List (List Char) → Option Nat
  | _, [] => none
  | position, line :: lines =>
      let buffer := line.takeWhile (· ≠ '\x00')
      let position := position + line.length
      match sscanfRegister buffer with
      | none => findRegister address position lines
      | some (currentAddress, _) =>
          if currentAddress = address then some (position - buffer.length)
          else findRegister address position lines

def FileWriter.updateText (w : FileWriter) (text : List Char) (address : Int) (value : ℚ) :
    List Char :=
  match findRegister address 0 (fgetsFrom updateBufferSize [] text) with
  | some position => store text position (registerLine w.precision address value)
  | none => text ++ appendedLine address value

def FileWriter.updateFile (w : FileWriter) (file : RegisterFile) (address : Int) (value : ℚ) :
    RegisterFile := file.map fun text => w.updateText text address value

def FileWriter.run (w : FileWriter) (calls : List (Int × ℚ)) : RegisterFile :=
  calls.foldl (fun file call => w.updateFile file call.1 call.2) (w.initializeFile none)

end ModbusNet
