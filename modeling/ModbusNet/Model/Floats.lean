import ModbusNet.Library.Words

/-!
# Floats in registers

The float functions of `modbus-data.c`. A float is its 32-bit pattern, and `memcpy` between a `float`
and a `uint32_t` keeps it. The setters store bytes through a `uint8_t` pointer, so that the registers
they fill depend on the byte order of the host.
-/

namespace ModbusNet

inductive HostOrder
  | little
  | big
  deriving DecidableEq, Repr

def HostOrder.word : HostOrder → Byte → Byte → Word
  | .little, first, second => wordOf second first
  | .big, first, second => wordOf first second

structure FloatBytes where
  a : Byte
  b : Byte
  c : Byte
  d : Byte

def floatBytes (i : BitVec 32) : FloatBytes where
  a := (i >>> 24 &&& 0xFF).setWidth 8
  b := (i >>> 16 &&& 0xFF).setWidth 8
  c := (i >>> 8 &&& 0xFF).setWidth 8
  d := (i >>> 0 &&& 0xFF).setWidth 8

def registerBytes (src : Nat → Word) : FloatBytes where
  a := (src 0 >>> 8 &&& 0xFF).setWidth 8
  b := (src 0 >>> 0 &&& 0xFF).setWidth 8
  c := (src 1 >>> 8 &&& 0xFF).setWidth 8
  d := (src 1 >>> 0 &&& 0xFF).setWidth 8

/-- `out[0]` to `out[3]` are stored, where `out` is `dest` as a pointer to bytes. -/
def storeOut (host : HostOrder) (dest : Nat → Word) (out0 out1 out2 out3 : Byte) : Nat → Word :=
  overlay dest [host.word out0 out1, host.word out2 out3]

def joinBytes (w x y z : Byte) : BitVec 32 :=
  w.setWidth 32 <<< 24 ||| x.setWidth 32 <<< 16 ||| y.setWidth 32 <<< 8 ||| z.setWidth 32 <<< 0

section
variable (src : Nat → Word)

def modbusGetFloatAbcd : BitVec 32 :=
  let x := registerBytes src
  joinBytes x.a x.b x.c x.d

def modbusGetFloatDcba : BitVec 32 :=
  let x := registerBytes src
  joinBytes x.d x.c x.b x.a

def modbusGetFloatBadc : BitVec 32 :=
  let x := registerBytes src
  joinBytes x.b x.a x.d x.c

def modbusGetFloatCdab : BitVec 32 :=
  let x := registerBytes src
  joinBytes x.c x.d x.a x.b

end

section
variable (host : HostOrder) (f : BitVec 32) (dest : Nat → Word)

def modbusSetFloatAbcd : Nat → Word :=
  let x := floatBytes f
  storeOut host dest x.a x.b x.c x.d

def modbusSetFloatDcba : Nat → Word :=
  let x := floatBytes f
  storeOut host dest x.d x.c x.b x.a

def modbusSetFloatBadc : Nat → Word :=
  let x := floatBytes f
  storeOut host dest x.b x.a x.d x.c

def modbusSetFloatCdab : Nat → Word :=
  let x := floatBytes f
  storeOut host dest x.c x.d x.a x.b

end

inductive FloatOrder
  | abcd
  | dcba
  | badc
  | cdab
  deriving DecidableEq, Repr

namespace FloatOrder

def set : FloatOrder → HostOrder → BitVec 32 → (Nat → Word) → Nat → Word
  | .abcd => modbusSetFloatAbcd
  | .dcba => modbusSetFloatDcba
  | .badc => modbusSetFloatBadc
  | .cdab => modbusSetFloatCdab

def get : FloatOrder → (Nat → Word) → BitVec 32
  | .abcd => modbusGetFloatAbcd
  | .dcba => modbusGetFloatDcba
  | .badc => modbusGetFloatBadc
  | .cdab => modbusGetFloatCdab

end FloatOrder

end ModbusNet
