import ModbusNet.Library.Words

/-!
# Integers in tables

The macros of `modbus.h` that get and set integers of 16, 32 and 64 bits in tables of narrower
elements. A conversion to a narrower type keeps the lower bits and a shift of a negative number is
that of its two's complement, as compilers define them.
-/

namespace ModbusNet

inductive Signedness
  | signed
  | unsigned
  deriving DecidableEq, Repr

def Signedness.widen {e : Nat} (w : Nat) (x : BitVec e) : Signedness → BitVec w
  | .signed => x.signExtend w
  | .unsigned => x.setWidth w

section
variable (t : Signedness)

/-- `MODBUS_GET_INT16_FROM_INT8`; an `int16_t` operand of `<<` and `|` is promoted to `int`. -/
def modbusGetInt16FromInt8 (tabInt8 : Nat → Byte) (index : Nat) : BitVec 32 :=
  (t.widen 16 (tabInt8 index)).signExtend 32 <<< 8 |||
    (t.widen 16 (tabInt8 (index + 1))).signExtend 32

def modbusGetInt32FromInt16 (tabInt16 : Nat → Word) (index : Nat) : BitVec 32 :=
  t.widen 32 (tabInt16 index) <<< 16 ||| t.widen 32 (tabInt16 (index + 1))

def modbusGetInt64FromInt16 (tabInt16 : Nat → Word) (index : Nat) : BitVec 64 :=
  t.widen 64 (tabInt16 index) <<< 48 ||| t.widen 64 (tabInt16 (index + 1)) <<< 32 |||
    t.widen 64 (tabInt16 (index + 2)) <<< 16 ||| t.widen 64 (tabInt16 (index + 3))

end

def modbusSetInt16ToInt8 (tabInt8 : Nat → Byte) (index : Nat) (value : BitVec 16) : Nat → Byte :=
  let tabInt8 := Function.update tabInt8 index (((value.signExtend 32).sshiftRight 8).setWidth 8)
  Function.update tabInt8 (index + 1) (value.setWidth 8)

def modbusSetInt32ToInt16 (tabInt16 : Nat → Word) (index : Nat) (value : BitVec 32) : Nat → Word :=
  let tabInt16 := Function.update tabInt16 index ((value.sshiftRight 16).setWidth 16)
  Function.update tabInt16 (index + 1) (value.setWidth 16)

def modbusSetInt64ToInt16 (tabInt16 : Nat → Word) (index : Nat) (value : BitVec 64) : Nat → Word :=
  let tabInt16 := Function.update tabInt16 index ((value.sshiftRight 48).setWidth 16)
  let tabInt16 := Function.update tabInt16 (index + 1) ((value.sshiftRight 32).setWidth 16)
  let tabInt16 := Function.update tabInt16 (index + 2) ((value.sshiftRight 16).setWidth 16)
  Function.update tabInt16 (index + 3) (value.setWidth 16)

end ModbusNet
