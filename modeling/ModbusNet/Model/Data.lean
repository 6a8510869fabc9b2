import ModbusNet.Model.Types
import ModbusNet.Library.Bits

namespace ModbusNet

def setBitsFromBytesLoop (idx : Nat) (tabByte : Buffer) :
    Nat → Nat → Nat → List Byte → Except Failure (List Byte)
  | 0, _, _, dest => .ok dest
  | left + 1, k, shift, dest => do
      let bit : Byte := if (tabByte (k / 8)).toNat &&& 1 <<< shift ≠ 0 then 1 else 0
      let dest ← writeTab dest (idx + k) bit
      setBitsFromBytesLoop idx tabByte left (k + 1) ((shift + 1) % 8) dest

def modbusSetBitsFromBytes (dest : List Byte) (idx nbBits : Nat) (tabByte : Buffer) :
    Except Failure (List Byte) :=
  setBitsFromBytesLoop idx tabByte nbBits 0 0 dest

def byteFromBitsLoop (src : Buffer) (idx : Nat) : Nat → Nat → Byte → Byte
  | 0, _, value => value
  | left + 1, i, value => byteFromBitsLoop src idx left (i + 1) (value ||| src (idx + i) <<< i)

/-- Gets the byte value from many bits; the assertion is ignored. -/
def modbusGetByteFromBits (src : Buffer) (idx nbBits : Nat) : Byte :=
  byteFromBitsLoop src idx (if 8 < nbBits then 8 else nbBits) 0 0

end ModbusNet
