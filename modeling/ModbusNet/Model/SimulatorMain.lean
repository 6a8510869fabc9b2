import ModbusNet.Model.Allocating
import ModbusNet.Model.Simulator

/-!
# The simulators from start to end

`main` of the three simulators, which makes a context, tables and a server for each client and gives
them back: its requests, its blocks of memory and its descriptors. A descriptor that was closed is
told apart from the next one.
-/

namespace ModbusNet
namespace SimulatorMain

structure ListenCalls where
  setsockopt : Bool
  inetPton : Int
  bind : Bool
  listen : Bool

def giveUp (s : Nat) (d : Heap) : Option (Option Nat × Heap) := do
  let d ← d.free (some s)
  some (none, d)

section
variable (sockets : Nat → Bool)

def modbusTcpListen (ip : List Byte) (calls : ListenCalls) (d : Heap) : Option (Option Nat × Heap) :=
  match d.malloc sockets with
  | (none, d) => some (none, d)
  | (some s, d) =>
      if !calls.setsockopt then giveUp s d
      else if ip.head? ≠ some 0x30 ∧ calls.inetPton ≤ 0 then giveUp s d
      else if !calls.bind then giveUp s d
      else if !calls.listen then giveUp s d
      else some (some s, d)

def modbusTcpPiListenLoop : List ListenCalls → Heap → Option (Option Nat × Heap)
  | [], d => some (none, d)
  | calls :: rest, d =>
      match d.malloc sockets with
      | (none, d) => modbusTcpPiListenLoop rest d
      | (some s, d) =>
          if calls.setsockopt && calls.bind && calls.listen then some (some s, d)
          else do
            let d ← d.free (some s)
            modbusTcpPiListenLoop rest d

def modbusTcpPiListen (getaddrinfo : Option (List ListenCalls)) (d : Heap) :
    Option (Option Nat × Heap) :=
  match getaddrinfo with
  | none => some (none, d)
  | some aiList => modbusTcpPiListenLoop sockets aiList d

def modbusTcpAccept (s : Option Nat) (d : Heap) : Option Nat × Heap :=
  match s with
  | none => (none, d)
  | some _ => d.malloc sockets

structure SerialCalls where
  setSpeed : Bool
  tcsetattr : Bool

def modbusRtuConnect (calls : SerialCalls) (d : Heap) : Option (Option Nat × Heap) :=
  match d.malloc sockets with
  | (none, d) => some (none, d)
  | (some s, d) =>
      if !calls.setSpeed then giveUp s d
      else if !calls.tcsetattr then giveUp s d
      else some (some s, d)

end

inductive UseBackend
  | tcp
  | tcpPi
  | rtu
  deriving DecidableEq, Repr

/-- Why `main` ends; `failed` is a request that leaves no result. -/
inductive Stop
  | noContext
  | noMapping
  | notListening
  | notAccepted
  | notConnected
  /-- `setup_server_simulation` returns no socket for a serial line. -/
  | noSocket
  | failed (e : Failure)
  deriving DecidableEq, Repr

structure Answers (σ : Type) where
  listen : ListenCalls
  getaddrinfo : Option (List ListenCalls)
  serial : SerialCalls
  client : σ

structure Machine where
  heap : Heap
  descriptors : Heap
  query : Buffer

def Context.ctx (s : Option Nat) : Context → Ctx
  | .tcp _ ctx _ | .tcpPi _ ctx _ | .rtu _ ctx _ =>
      { ctx with s := match s with | some s => s | none => -1 }

def service1502 : CString := ⟨[0x31, 0x35, 0x30, 0x32], by decide⟩

def setSlave (serverId : Int) : Context → Context
  | .rtu block ctx data => .rtu block ((modbusSetSlave ctx serverId).toOption.getD ctx) data
  | c => c

section
variable {σ : Type} (dev : Device σ) (memory sockets : Nat → Bool) (version : VersionString)
variable (uninit : Buffer) (contents : Nat → Buffer) (sim : Simulator)
variable (useBackend : UseBackend) (ipOrDevice : CString)

def initializeModbusContextSimulation (h : Heap) : Option (Option Context × Heap) :=
  match useBackend with
  | .tcp => do
      let (made, h) ← Allocating.modbusNewTcp memory version uninit contents (some ipOrDevice) 1502 h
      some (made.toOption, h)
  | .tcpPi => do
      let (made, h) ←
        Allocating.modbusNewTcpPi memory version uninit (some ipOrDevice) (some service1502) h
      some (made.toOption, h)
  | .rtu => do
      let (made, h) ←
        Allocating.modbusNewRtu memory version uninit (some ipOrDevice) 115200 0x4E 8 1 h
      some (made.toOption.map (setSlave sim.serverId), h)

def initializeModbusMappingSimulation (h : Heap) :
    Option (Option (ModbusMapping × Allocating.MappingBlocks) × Heap) := do
  let (made, h) ← Allocating.modbusMappingNewStartAddress memory 0 0 0 0 0
    (BitVec.ofNat 32 sim.numRegisters) 0 0 h
  some (made.toOption, h)

def setupServerSimulation (answers : Answers σ) (ctx : Context) (m : Machine) :
    Option (Except Stop Nat × Option Nat × Machine) :=
  match ctx with
  | .tcp _ _ data => do
      let (socket, descriptors) ← modbusTcpListen sockets data.ip answers.listen m.descriptors
      match socket with
      | none => some (.error .notListening, none, { m with descriptors })
      | some socket =>
          match modbusTcpAccept sockets (some socket) descriptors with
          | (none, descriptors) => some (.error .notAccepted, none, { m with descriptors })
          | (some s, descriptors) => some (.ok socket, some s, { m with descriptors })
  | .tcpPi _ _ _ => do
      let (socket, descriptors) ← modbusTcpPiListen sockets answers.getaddrinfo m.descriptors
      -- Whether a client is accepted is not looked at.
      let (s, descriptors) := modbusTcpAccept sockets socket descriptors
      match socket with
      | none => some (.error .notListening, s, { m with descriptors })
      | some socket => some (.ok socket, s, { m with descriptors })
  | .rtu _ _ _ => do
      let (s, descriptors) ← modbusRtuConnect sockets answers.serial m.descriptors
      match s with
      | none => do
          let heap ← modbusFree ctx m.heap
          some (.error .notConnected, none, { m with heap, descriptors })
      | some s => some (.error .noSocket, some s, { m with descriptors })

def serve (rounds : Nat) : Nat → Conn σ → Buffer → ModbusMapping →
    Except Failure Unit × Buffer × Conn σ
  | 0, c, query, _ => (.error .hang, query, c)
  | requests + 1, c, query, mb =>
      let iteration := sim.iterate dev rounds c query mb
      match iteration.goesOn with
      | .ok true => serve rounds requests iteration.conn iteration.query iteration.mapping
      | .ok false => (.ok (), iteration.query, iteration.conn)
      | .error e => (.error e, iteration.query, iteration.conn)

def closeContext (ctx : Ctx) (d : Heap) : Option Heap :=
  if ctx.isConnected then d.free (some ctx.s.toNat) else some d

variable (rounds requests : Nat)

def turn (answers : Answers σ) (m : Machine) : Option (Option Stop × Machine) := do
  let (ctx, heap) ←
    initializeModbusContextSimulation memory version uninit contents sim useBackend ipOrDevice m.heap
  match ctx with
  | none => some (some .noContext, { m with heap })
  | some ctx => do
      let (mapping, heap) ← initializeModbusMappingSimulation memory sim heap
      match mapping with
      | none => do
          let heap ← modbusFree ctx heap
          some (some .noMapping, { m with heap })
      | some (mapping, blocks) => do
          let (socket, s, m) ← setupServerSimulation sockets answers ctx { m with heap }
          match socket with
          | .error why => do
              let heap ← Allocating.modbusMappingFree blocks m.heap
              let heap ← modbusFree ctx heap
              some (some why, { m with heap })
          | .ok socket =>
              let mapping := { mapping with tabRegisters := List.replicate sim.numRegisters 10 }
              let (served, query, c) :=
                serve dev sim rounds requests ⟨Context.ctx s ctx, answers.client⟩ m.query mapping
              match served with
              | .error e => some (some (.failed e), { m with query })
              | .ok _ => do
                  let descriptors ← m.descriptors.free (some socket)
                  let heap ← Allocating.modbusMappingFree blocks m.heap
                  let descriptors ← closeContext c.ctx descriptors
                  let heap ← modbusFree ctx heap
                  some (none, ⟨heap, descriptors, query⟩)

def run : List (Answers σ) → Machine → Option (Option Stop × Machine)
  | [], m => some (none, m)
  | answers :: rest, m => do
      let (stop, m) ← turn dev memory sockets version uninit contents sim useBackend ipOrDevice rounds
        requests answers m
      match stop with
      | none => run rest m
      | some why => some (some why, m)

def start : Machine := ⟨.empty, .empty, fun _ => 0⟩

end
end SimulatorMain
end ModbusNet
