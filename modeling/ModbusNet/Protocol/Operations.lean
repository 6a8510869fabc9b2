import ModbusNet.Model.Client
import ModbusNet.Protocol.Service

namespace ModbusNet

def cellsOf {α : Type} (src : Nat → α) (n : Nat) : List α := (List.range n).map src

@[simp] theorem cellsOf_length {α : Type} (src : Nat → α) (n : Nat) : (cellsOf src n).length = n := by
  simp [cellsOf]

def AddressInRange (addr : Int) : Prop := 0 ≤ addr ∧ addr ≤ 65535

def CountInRange (nb : Int) (limit : Nat) : Prop := 1 ≤ nb ∧ nb ≤ limit

instance (addr : Int) : Decidable (AddressInRange addr) := inferInstanceAs (Decidable (_ ∧ _))
instance (nb : Int) (limit : Nat) : Decidable (CountInRange nb limit) :=
  inferInstanceAs (Decidable (_ ∧ _))

theorem AddressInRange.toNat_ofInt {addr : Int} (valid : AddressInRange addr) :
    (BitVec.ofInt 16 addr).toNat = addr.toNat := by
  obtain ⟨low, high⟩ := valid
  simp only [BitVec.toNat_ofInt]
  omega

theorem CountInRange.toNat_ofInt {nb : Int} {limit : Nat} (valid : CountInRange nb limit)
    (small : limit < 65536) : (BitVec.ofInt 16 nb).toNat = nb.toNat := by
  obtain ⟨low, high⟩ := valid
  simp only [BitVec.toNat_ofInt]
  omega

namespace ClientOp

def InRange : ClientOp → Prop
  | .readBits addr nb _ => AddressInRange addr ∧ CountInRange nb maxReadBits
  | .readInputBits addr nb _ => AddressInRange addr ∧ CountInRange nb maxReadBits
  | .readRegisters addr nb _ => AddressInRange addr ∧ CountInRange nb maxReadRegisters
  | .readInputRegisters addr nb _ => AddressInRange addr ∧ CountInRange nb maxReadRegisters
  | .writeBit addr _ => AddressInRange addr
  | .writeRegister addr _ => AddressInRange addr
  | .writeBits addr nb _ => AddressInRange addr ∧ CountInRange nb maxWriteBits
  | .writeRegisters addr nb _ => AddressInRange addr ∧ CountInRange nb maxWriteRegisters
  | .maskWriteRegister addr _ _ => AddressInRange addr
  | .writeAndReadRegisters writeAddr writeNb _ readAddr readNb _ =>
      (AddressInRange writeAddr ∧ CountInRange writeNb maxWrWriteRegisters) ∧
        AddressInRange readAddr ∧ CountInRange readNb maxWrReadRegisters
  | .reportSlaveId maxDest _ => 1 ≤ maxDest

instance : (op : ClientOp) → Decidable op.InRange
  | .readBits .. | .readInputBits .. | .readRegisters .. | .readInputRegisters .. | .writeBits ..
  | .writeRegisters .. | .writeAndReadRegisters .. => inferInstanceAs (Decidable (_ ∧ _))
  | .writeBit addr _ | .writeRegister addr _ | .maskWriteRegister addr _ _ =>
      inferInstanceAs (Decidable (AddressInRange addr))
  | .reportSlaveId maxDest _ => inferInstanceAs (Decidable (1 ≤ maxDest))

def ReadsBits : ClientOp → Prop
  | .readBits .. | .readInputBits .. => True
  | _ => False

def sourceBits (src : Buffer) (nb : Nat) : List Bool := (List.range nb).map fun k => decide (src k ≠ 0)

def request : ClientOp → Request
  | .readBits addr nb _ => .readBits false (BitVec.ofInt 16 addr) (BitVec.ofInt 16 nb)
  | .readInputBits addr nb _ => .readBits true (BitVec.ofInt 16 addr) (BitVec.ofInt 16 nb)
  | .readRegisters addr nb _ => .readRegisters false (BitVec.ofInt 16 addr) (BitVec.ofInt 16 nb)
  | .readInputRegisters addr nb _ => .readRegisters true (BitVec.ofInt 16 addr) (BitVec.ofInt 16 nb)
  | .writeBit addr status =>
      .writeSingleCoil (BitVec.ofInt 16 addr) (if status ≠ 0 then 0xFF00 else 0)
  | .writeRegister addr value => .writeSingleRegister (BitVec.ofInt 16 addr) value
  | .writeBits addr nb src =>
      .writeMultipleCoils (BitVec.ofInt 16 addr) (BitVec.ofInt 16 nb)
        (packBits (sourceBits src nb.toNat))
  | .writeRegisters addr nb src =>
      .writeMultipleRegisters (BitVec.ofInt 16 addr) (BitVec.ofInt 16 nb)
        ((cellsOf src nb.toNat).flatMap wordBytes)
  | .maskWriteRegister addr andMask orMask =>
      .maskWriteRegister (BitVec.ofInt 16 addr) andMask orMask
  | .writeAndReadRegisters writeAddr writeNb src readAddr readNb _ =>
      .writeAndReadRegisters (BitVec.ofInt 16 readAddr) (BitVec.ofInt 16 readNb)
        (BitVec.ofInt 16 writeAddr) (BitVec.ofInt 16 writeNb)
        ((cellsOf src writeNb.toNat).flatMap wordBytes)
  | .reportSlaveId _ _ => .reportSlaveId

def dest : ClientOp → Dest
  | .readBits _ _ dest | .readInputBits _ _ dest | .reportSlaveId _ dest => .bytes dest
  | .readRegisters _ _ dest | .readInputRegisters _ _ dest
  | .writeAndReadRegisters _ _ _ _ _ dest => .words dest
  | _ => .none

end ClientOp

namespace Table

def cellsAt {α : Type*} (t : Table α) (address nb : Nat) : List α :=
  slice t.cells (t.index address) nb

def replaced {α : Type*} (t : Table α) (address : Nat) (values : List α) : List α :=
  store t.cells (t.index address) values

end Table

/-- Coils and discrete inputs that hold 0 or 1 only. -/
def ModbusMapping.Binary (mb : ModbusMapping) : Prop :=
  ∀ v ∈ mb.tabBits ++ mb.tabInputBits, v = 0 ∨ v = 1

instance (mb : ModbusMapping) : Decidable mb.Binary := inferInstanceAs (Decidable (∀ _ ∈ _, _))

structure Effect where
  rc : Except Failure Int
  dest : Dest
  mapping : ModbusMapping

def slaveIdData (version : VersionString) : List Byte :=
  [loByte reportSlaveId, 0xFF, 0x4C, 0x4D, 0x42] ++ version.val

/-- Reading a slice and storing a slice, when the addresses are those of the table. -/
def ClientOp.effect (version : VersionString) (mb : ModbusMapping) (op : ClientOp) : Effect :=
  let refused : Effect := ⟨.error (.errno embxiladd), op.dest, mb⟩
  let readBits (t : Table Byte) (addr nb : Int) (dest : Buffer) : Effect :=
    if t.Covers addr.toNat nb.toNat then
      ⟨.ok nb, .bytes (overlay dest (t.cellsAt addr.toNat nb.toNat)), mb⟩
    else refused
  let readRegisters (t : Table Word) (addr nb : Int) (dest : Nat → Word) : Effect :=
    if t.Covers addr.toNat nb.toNat then
      ⟨.ok nb, .words (overlay dest (t.cellsAt addr.toNat nb.toNat)), mb⟩
    else refused
  let writeBits (addr nb : Int) (values : List Byte) : Effect :=
    if mb.coils.Covers addr.toNat nb.toNat then
      ⟨.ok nb, .none, { mb with tabBits := mb.coils.replaced addr.toNat values }⟩
    else refused
  let writeRegisters (addr nb : Int) (values : List Word) : Effect :=
    if mb.holdingRegisters.Covers addr.toNat nb.toNat then
      ⟨.ok nb, .none, { mb with tabRegisters := mb.holdingRegisters.replaced addr.toNat values }⟩
    else refused
  match op with
  | .readBits addr nb dest => readBits mb.coils addr nb dest
  | .readInputBits addr nb dest => readBits mb.discreteInputs addr nb dest
  | .readRegisters addr nb dest => readRegisters mb.holdingRegisters addr nb dest
  | .readInputRegisters addr nb dest => readRegisters mb.inputRegisters addr nb dest
  | .writeBit addr status => writeBits addr 1 [if status ≠ 0 then 1 else 0]
  | .writeRegister addr value => writeRegisters addr 1 [value]
  | .writeBits addr nb src => writeBits addr nb (cellsOf (if src · ≠ 0 then 1 else 0) nb.toNat)
  | .writeRegisters addr nb src => writeRegisters addr nb (cellsOf src nb.toNat)
  | .maskWriteRegister addr andMask orMask =>
      writeRegisters addr 1
        ((mb.holdingRegisters.cellsAt addr.toNat 1).map (maskedWord · andMask orMask))
  | .writeAndReadRegisters writeAddr writeNb src readAddr readNb dest =>
      if mb.holdingRegisters.Covers readAddr.toNat readNb.toNat ∧
          mb.holdingRegisters.Covers writeAddr.toNat writeNb.toNat then
        let written : ModbusMapping := { mb with
          tabRegisters := mb.holdingRegisters.replaced writeAddr.toNat (cellsOf src writeNb.toNat) }
        ⟨.ok readNb, .words (overlay dest
          (written.holdingRegisters.cellsAt readAddr.toNat readNb.toNat)), written⟩
      else refused
  | .reportSlaveId maxDest dest =>
      ⟨.ok (slaveIdData version).length,
        .bytes (overlay dest ((slaveIdData version).take maxDest.toNat)), mb⟩

def effects (version : VersionString) :
    List ClientOp → ModbusMapping → List (Except Failure Int × Dest) × ModbusMapping
  | [], mb => ([], mb)
  | op :: ops, mb =>
      let effect := op.effect version mb
      let (more, mb) := effects version ops effect.mapping
      ((effect.rc, effect.dest) :: more, mb)

end ModbusNet
