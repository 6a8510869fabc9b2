import ModbusNet.Model.Setup
import ModbusNet.Model.Receive
import ModbusNet.Model.Reply

/-!
# The device simulators

The server loop of `sim_pv_inverter.c`, `sim_ev_charger.c` and `sim_heat_pump.c`. The three programs
differ in their constants and in the address that they pass to `update_file`.
-/

namespace ModbusNet

structure Simulator where
  serverId : Int
  numRegisters : Nat
  fileOffset : Int

def pvInverter : Simulator := { serverId := 1, numRegisters := 30, fileOffset := 3000 }
def evCharger : Simulator := { serverId := 3, numRegisters := 2, fileOffset := 0 }
def heatPump : Simulator := { serverId := 1, numRegisters := 2, fileOffset := 0 }

def simulators : List Simulator := [pvInverter, evCharger, heatPump]

/-- `MODBUS_GET_INT16_FROM_INT8` of the receive buffer, which has `MODBUS_TCP_MAX_ADU_LENGTH`
bytes. -/
def getInt16FromInt8 (query : Buffer) (i : Nat) : Except Failure Nat :=
  if i + 1 < tcpMaxAduLength then .ok (be16 query i) else .error .undefined

structure Handled where
  mapping : ModbusMapping
  updateFile : Option (Int × ℚ)

def storeQueryRegisters (query : Buffer) :
    Nat → Nat → Nat → List Word → Except Failure (List Word)
  | 0, _, _, tabRegisters => .ok tabRegisters
  | left + 1, address, j, tabRegisters => do
      let value ← getInt16FromInt8 query j
      let tabRegisters ← writeTab tabRegisters address (BitVec.ofNat 16 value)
      storeQueryRegisters query left (address + 1) (j + 2) tabRegisters

def Simulator.handle (sim : Simulator) (headerLength : Nat) (query : Buffer) (mb : ModbusMapping) :
    Except Failure Handled :=
  let function := (query headerLength).toNat
  if function = fcWriteSingleRegister then do
    let address ← getInt16FromInt8 query (headerLength + 1)
    let word ← getInt16FromInt8 query (headerLength + 4)
    let value : ℚ := word / 256
    -- The conversion to `uint16_t` truncates.
    let tabRegisters ← writeTab mb.tabRegisters address (BitVec.ofNat 16 (word / 256))
    return ⟨{ mb with tabRegisters }, some (address + sim.fileOffset, value)⟩
  else if function = fcWriteSingleCoil then do
    let address ← getInt16FromInt8 query (headerLength + 1)
    let value := query (headerLength + 4)
    let tabBits ← writeTab mb.tabBits address (if value ≠ 0 then 1 else 0)
    return ⟨{ mb with tabBits }, none⟩
  else if function = fcWriteMultipleRegisters then do
    let address ← getInt16FromInt8 query (headerLength + 1)
    let regCount ← getInt16FromInt8 query (headerLength + 3)
    let tabRegisters ← storeQueryRegisters query regCount address (headerLength + 7) mb.tabRegisters
    return ⟨{ mb with tabRegisters }, none⟩
  else return ⟨mb, none⟩

def registerMapping (tabRegisters : List Word) : ModbusMapping where
  nbBits := 0
  startBits := 0
  nbInputBits := 0
  startInputBits := 0
  nbInputRegisters := 0
  startInputRegisters := 0
  nbRegisters := tabRegisters.length
  startRegisters := 0
  tabBits := []
  tabInputBits := []
  tabInputRegisters := []
  tabRegisters

def Simulator.initialMapping (sim : Simulator) : ModbusMapping :=
  registerMapping (List.replicate sim.numRegisters 10)

section
variable {σ : Type} (dev : Device σ)

/-- `do rc = modbus_receive(ctx, query); while (rc == 0);` over a number of rounds. -/
def receiveNonzero : Nat → Conn σ → Buffer → Except Failure Int × Buffer × Conn σ
  | 0, c, query => (.error .hang, query, c)
  | rounds + 1, c, query =>
      match modbusReceive dev c query with
      | (.ok rc, query, c) => if rc = 0 then receiveNonzero rounds c query else (.ok rc, query, c)
      | (.error e, query, c) => (.error e, query, c)

structure Iteration (σ : Type) where
  goesOn : Except Failure Bool
  query : Buffer
  mapping : ModbusMapping
  conn : Conn σ

def afterReply (query : Buffer) (replied : Except Failure Int × ModbusMapping × Conn σ) :
    Iteration σ :=
  match replied with
  | (.ok _, mapping, conn) => { goesOn := .ok true, query, mapping, conn }
  | (.error (.errno _), mapping, conn) => { goesOn := .ok false, query, mapping, conn }
  | (.error e, mapping, conn) => { goesOn := .error e, query, mapping, conn }

def Simulator.respond (sim : Simulator) (c : Conn σ) (query : Buffer) (rc : Int)
    (mb : ModbusMapping) : Iteration σ :=
  match sim.handle c.ctx.backend.headerLength query mb with
  | .error e => { goesOn := .error e, query, mapping := mb, conn := c }
  | .ok handled => afterReply query (modbusReply dev c query rc handled.mapping)

/-- How a server loop goes on after its call of `modbus_receive`: it breaks on errors other than
`EMBBADCRC`. -/
def respondUnlessBroken (respond : Conn σ → Buffer → Int → ModbusMapping → Iteration σ)
    (received : Except Failure Int × Buffer × Conn σ) (mb : ModbusMapping) : Iteration σ :=
  match received with
  | (.ok rc, query, c) => respond c query rc mb
  | (.error (.errno e), query, c) =>
      if e = .embbadcrc then respond c query (-1) mb
      else { goesOn := .ok false, query, mapping := mb, conn := c }
  | (.error e, query, c) => { goesOn := .error e, query, mapping := mb, conn := c }

def Simulator.iterate (sim : Simulator) (rounds : Nat) (c : Conn σ) (query : Buffer)
    (mb : ModbusMapping) : Iteration σ :=
  respondUnlessBroken (sim.respond dev) (receiveNonzero dev rounds c query) mb

end
end ModbusNet
