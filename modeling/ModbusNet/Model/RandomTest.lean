import ModbusNet.Model.Client

namespace ModbusNet

def addressStart : Int := 0
def addressEnd : Int := 99

structure RandomTest (σ : Type) where
  conn : Conn σ
  rqBits : Buffer
  rpBits : Buffer
  rqRegisters : Nat → Word
  rwRqRegisters : Nat → Word
  rpRegisters : Nat → Word
  nb : Int
  drawn : Nat
  nbFail : Nat

def RandomTest.fail {σ : Type} (t : RandomTest σ) : RandomTest σ := { t with nbFail := t.nbFail + 1 }

def compareLoop {α : Type} [DecidableEq α] (rp rq : Nat → α) : Nat → Nat → Nat → Nat
  | 0, _, nbFail => nbFail
  | left + 1, i, nbFail =>
      compareLoop rp rq left (i + 1) (if rp i ≠ rq i then nbFail + 1 else nbFail)

section
variable {σ : Type} (dev : Device σ)

def testBit (addr : Int) (t : RandomTest σ) : RandomTest σ :=
  let (rc, conn) := modbusWriteBit dev t.conn addr (t.rqBits 0).toNat
  let t := { t with conn }
  if rc ≠ .ok 1 then t.fail
  else
    let (rc, rpBits, conn) := modbusReadBits dev t.conn addr 1 t.rpBits
    let t := { t with conn, rpBits }
    if rc ≠ .ok 1 ∨ t.rqBits 0 ≠ t.rpBits 0 then t.fail else t

def testBits (addr : Int) (t : RandomTest σ) : RandomTest σ :=
  let (rc, conn) := modbusWriteBits dev t.conn addr t.nb t.rqBits
  let t := { t with conn }
  if rc ≠ .ok t.nb then t.fail
  else
    let (rc, rpBits, conn) := modbusReadBits dev t.conn addr t.nb t.rpBits
    let t := { t with conn, rpBits }
    if rc ≠ .ok t.nb then t.fail
    else { t with nbFail := compareLoop t.rpBits t.rqBits t.nb.toNat 0 t.nbFail }

def testRegister (addr : Int) (t : RandomTest σ) : RandomTest σ :=
  let (rc, conn) := modbusWriteRegister dev t.conn addr (t.rqRegisters 0)
  let t := { t with conn }
  if rc ≠ .ok 1 then t.fail
  else
    let (rc, rpRegisters, conn) := modbusReadRegisters dev t.conn addr 1 t.rpRegisters
    let t := { t with conn, rpRegisters }
    if rc ≠ .ok 1 then t.fail
    else if t.rqRegisters 0 ≠ t.rpRegisters 0 then t.fail
    else t

def readBack (addr : Int) (rq : Nat → Word) (t : RandomTest σ) : RandomTest σ :=
  let (rc, rpRegisters, conn) := modbusReadRegisters dev t.conn addr t.nb t.rpRegisters
  let t := { t with conn, rpRegisters }
  if rc ≠ .ok t.nb then t.fail
  else { t with nbFail := compareLoop t.rpRegisters rq t.nb.toNat 0 t.nbFail }

def testRegisters (addr : Int) (t : RandomTest σ) : RandomTest σ :=
  let (rc, conn) := modbusWriteRegisters dev t.conn addr t.nb t.rqRegisters
  let t := { t with conn }
  if rc ≠ .ok t.nb then t.fail else readBack dev addr t.rqRegisters t

def testReadWrite (addr : Int) (t : RandomTest σ) : RandomTest σ :=
  let (rc, rpRegisters, conn) :=
    modbusWriteAndReadRegisters dev t.conn addr t.nb t.rwRqRegisters addr t.nb t.rpRegisters
  let t := { t with conn, rpRegisters }
  if rc ≠ .ok t.nb then t.fail
  else
    let t := { t with nbFail := compareLoop t.rpRegisters t.rwRqRegisters t.nb.toNat 0 t.nbFail }
    readBack dev addr t.rwRqRegisters t

/-- Random numbers, and what is written of them. `random` is the sequence of the values of
`(uint16_t) (65535.0 * rand() / (RAND_MAX + 1.0))`. -/
def drawLoop (random : Nat → Word) : Nat → Nat → RandomTest σ → RandomTest σ
  | 0, _, t => t
  | left + 1, i, t =>
      let number := random t.drawn
      drawLoop random left (i + 1)
        { t with
          rqRegisters := Function.update t.rqRegisters i number
          rwRqRegisters := Function.update t.rwRqRegisters i (~~~number)
          rqBits := Function.update t.rqBits i (BitVec.ofNat 8 (number.toNat % 2))
          drawn := t.drawn + 1 }

def testAddress (random : Nat → Word) (addr : Int) (t : RandomTest σ) : RandomTest σ :=
  let t := drawLoop random t.nb.toNat 0 t
  let t := testBit dev addr { t with nb := addressEnd - addr }
  let t := testBits dev addr t
  let t := testRegister dev addr t
  let t := testRegisters dev addr t
  testReadWrite dev addr t

def addressLoop (random : Nat → Word) : Nat → Int → RandomTest σ → RandomTest σ
  | 0, _, t => t
  | left + 1, addr, t => addressLoop random left (addr + 1) (testAddress dev random addr t)

def roundLoop (random : Nat → Word) : Nat → RandomTest σ → List Nat × RandomTest σ
  | 0, t => ([], t)
  | rounds + 1, t =>
      let t := addressLoop dev random (addressEnd - addressStart).toNat addressStart t
      let (printed, t') := roundLoop random rounds t
      (t.nbFail :: printed, t')

def randomTest (random : Nat → Word) (loop : Nat) (conn : Conn σ) : List Nat × RandomTest σ :=
  roundLoop dev random loop
    { conn
      rqBits := fun _ => 0
      rpBits := fun _ => 0
      rqRegisters := fun _ => 0
      rwRqRegisters := fun _ => 0
      rpRegisters := fun _ => 0
      nb := addressEnd - addressStart
      drawn := 0
      nbFail := 0 }

end
end ModbusNet
