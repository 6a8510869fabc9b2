import ModbusNet.Library.Heap
import ModbusNet.Model.Setup

/-!
# Allocating contexts and mappings

`modbus_new_tcp`, `modbus_new_tcp_pi`, `modbus_new_rtu`, `modbus_mapping_new_start_address` and what
frees their results, on an allocator that may refuse any request; `contents` is what its blocks hold
when they are allocated. A function has no result when it frees what is not allocated.
-/

namespace ModbusNet

/-! ## Strings -/

def NoNull (text : List Byte) : Prop := ∀ b ∈ text, b ≠ 0

instance (text : List Byte) : Decidable (NoNull text) := inferInstanceAs (Decidable (∀ _ ∈ _, _))

abbrev CString := { text : List Byte // NoNull text }

def strlcpyLoop (src : List Byte) : Nat → Nat → List Byte → Nat × Nat × List Byte
  | 0, s, d => (0, s, d)
  | n + 1, s, d =>
      let c := src.getD s 0
      if c = 0 then (n + 1, s + 1, d ++ [c]) else strlcpyLoop src n (s + 1) (d ++ [c])

def strlcpySkip (src : List Byte) : Nat → Nat → Nat
  | 0, s => s + 1
  | left + 1, s => if src.getD s 0 = 0 then s + 1 else strlcpySkip src left (s + 1)

def strlcpy (src : List Byte) (destSize : Nat) : Nat × List Byte :=
  let (n, s, d) := if destSize - 1 ≠ 0 then strlcpyLoop src (destSize - 1) 0 [] else (0, 0, [])
  if n = 0 then
    let d := if destSize ≠ 0 then d ++ [0] else d
    (strlcpySkip src (src.length - s) s - 1, d)
  else (s - 1, d)

/-! ## Contexts -/

inductive NewError
  | enomem
  | einval
  deriving DecidableEq, Repr

structure TcpData where
  block : Nat
  ip : List Byte
  port : Int

structure TcpPiData where
  block : Nat
  node : Option Nat
  nodeText : List Byte
  service : Option Nat
  serviceText : List Byte

inductive Parity
  | none
  | even
  | odd
  deriving DecidableEq, Repr

structure SerialParameters where
  deviceText : List Byte
  baud : Int
  parity : Parity
  dataBit : Int
  stopBit : Int
  onebyteTime : Int

structure RtuData where
  block : Nat
  device : Option Nat
  parameters : SerialParameters

inductive Context
  | tcp (block : Nat) (ctx : Ctx) (data : TcpData)
  | tcpPi (block : Nat) (ctx : Ctx) (data : TcpPiData)
  | rtu (block : Nat) (ctx : Ctx) (data : RtuData)

def modbusTcpFree (block : Nat) (data : Option Nat) (h : Heap) : Option Heap := do
  let h ← h.free data
  h.free (some block)

def modbusTcpPiFree (block : Nat) (data : Option (Nat × Option Nat × Option Nat)) (h : Heap) :
    Option Heap :=
  match data with
  | none => h.free (some block)
  | some (data, node, service) => do
      let h ← h.free node
      let h ← h.free service
      let h ← h.free (some data)
      h.free (some block)

def modbusRtuFree (block : Nat) (data : Option (Nat × Option Nat)) (h : Heap) : Option Heap :=
  match data with
  | none => h.free (some block)
  | some (data, device) => do
      let h ← h.free device
      let h ← h.free (some data)
      h.free (some block)

def modbusFree (c : Context) (h : Heap) : Option Heap :=
  match c with
  | .tcp block _ data => modbusTcpFree block (some data.block) h
  | .tcpPi block _ data => modbusTcpPiFree block (some (data.block, data.node, data.service)) h
  | .rtu block _ data => modbusRtuFree block (some (data.block, data.device)) h

namespace Allocating
variable (refuses : Nat → Bool) (version : VersionString) (uninit : Buffer) (contents : Nat → Buffer)

def abandon (e : NewError) (freed : Option Heap) : Option (Except NewError Context × Heap) := do
  let h ← freed
  some (.error e, h)

def ipBytes (block : Nat) (written : List Byte) : List Byte :=
  (List.range 16).map (overlay (contents block) written)

def modbusNewTcp (ip : Option CString) (port : Int) (h : Heap) :
    Option (Except NewError Context × Heap) :=
  match h.malloc refuses with
  | (none, h) => some (.error .enomem, h)
  | (some block, h) =>
      let ctx := ModbusNet.modbusNewTcp version uninit
      match h.malloc refuses with
      | (none, h) => abandon .enomem (modbusTcpFree block none h)
      | (some data, h) =>
          match ip with
          | none => some (.ok (.tcp block ctx ⟨data, ipBytes contents data [0x30], port⟩), h)
          | some ip =>
              let (retSize, dest) := strlcpy ip.val 16
              if retSize = 0 then abandon .einval (modbusTcpFree block (some data) h)
              else if 16 ≤ retSize then abandon .einval (modbusTcpFree block (some data) h)
              else some (.ok (.tcp block ctx ⟨data, ipBytes contents data dest, port⟩), h)

def modbusNewTcpPi (node service : Option CString) (h : Heap) :
    Option (Except NewError Context × Heap) :=
  match h.malloc refuses with
  | (none, h) => some (.error .enomem, h)
  | (some block, h) =>
      let ctx := ModbusNet.modbusNewTcp version uninit
      match h.malloc refuses with
      | (none, h) => abandon .enomem (modbusTcpPiFree block none h)
      | (some data, h) =>
          -- An empty node stands for any host.
          let nodeText := (node.map Subtype.val).getD []
          match h.malloc refuses with
          | (none, h) => abandon .enomem (modbusTcpPiFree block (some (data, none, none)) h)
          | (some node, h) =>
              let serviceText :=
                match service with
                | some ⟨first :: rest, _⟩ => first :: rest
                | _ => [0x35, 0x30, 0x32]
              match h.malloc refuses with
              | (none, h) => abandon .enomem (modbusTcpPiFree block (some (data, some node, none)) h)
              | (some service, h) =>
                  some (.ok (.tcpPi block ctx ⟨data, some node, nodeText, some service, serviceText⟩), h)

def parityOf (letter : Byte) : Option Parity :=
  if letter = 0x4E then some .none
  else if letter = 0x45 then some .even
  else if letter = 0x4F then some .odd
  else none

def modbusNewRtu (device : Option CString) (baud : Int) (parity : Byte) (dataBit stopBit : Int)
    (h : Heap) : Option (Except NewError Context × Heap) :=
  match device with
  | none | some ⟨[], _⟩ => some (.error .einval, h)
  | some ⟨first :: rest, _⟩ =>
      if baud = 0 then some (.error .einval, h)
      else
        match h.malloc refuses with
        | (none, h) => some (.error .enomem, h)
        | (some block, h) =>
            let ctx := ModbusNet.modbusNewRtu version uninit
            match h.malloc refuses with
            | (none, h) => abandon .enomem (modbusRtuFree block none h)
            | (some data, h) =>
                match h.malloc refuses with
                | (none, h) => abandon .enomem (modbusRtuFree block (some (data, none)) h)
                | (some device, h) =>
                    match parityOf parity with
                    | none => abandon .einval (modbusRtuFree block (some (data, some device)) h)
                    | some parity =>
                        let onebyteTime :=
                          (1000000 * (1 + dataBit + (if parity = .none then 0 else 1) + stopBit)).tdiv
                            baud
                        let parameters : SerialParameters :=
                          { deviceText := first :: rest, baud, parity, dataBit, stopBit, onebyteTime }
                        some (.ok (.rtu block ctx ⟨data, some device, parameters⟩), h)

/-! ## Mappings -/

structure MappingBlocks where
  block : Nat
  tabBits : Option Nat
  tabInputBits : Option Nat
  tabRegisters : Option Nat
  tabInputRegisters : Option Nat

def modbusMappingFree (m : MappingBlocks) (h : Heap) : Option Heap := do
  let h ← h.free m.tabInputRegisters
  let h ← h.free m.tabRegisters
  let h ← h.free m.tabInputBits
  let h ← h.free m.tabBits
  h.free (some m.block)

def newTable (cells : BitVec 32) (h : Heap) : Except Unit (Option Nat) × Heap :=
  if cells = 0 then (.ok none, h)
  else
    match h.malloc refuses with
    | (none, h) => (.error (), h)
    | (some b, h) => (.ok (some b), h)

def modbusMappingNewStartAddress (startBits nbBits startInputBits nbInputBits startRegisters
    nbRegisters startInputRegisters nbInputRegisters : BitVec 32) (h : Heap) :
    Option (Except NewError (ModbusMapping × MappingBlocks) × Heap) :=
  let mapping := ModbusNet.modbusMappingNewStartAddress startBits nbBits startInputBits nbInputBits
    startRegisters nbRegisters startInputRegisters nbInputRegisters
  match h.malloc refuses with
  | (none, h) => some (.error .enomem, h)
  | (some block, h) =>
      match newTable refuses nbBits h with
      | (.error _, h) => do
          let h ← h.free (some block)
          some (.error .enomem, h)
      | (.ok tabBits, h) =>
          match newTable refuses nbInputBits h with
          | (.error _, h) => do
              let h ← h.free tabBits
              let h ← h.free (some block)
              some (.error .enomem, h)
          | (.ok tabInputBits, h) =>
              match newTable refuses nbRegisters h with
              | (.error _, h) => do
                  let h ← h.free tabInputBits
                  let h ← h.free tabBits
                  let h ← h.free (some block)
                  some (.error .enomem, h)
              | (.ok tabRegisters, h) =>
                  match newTable refuses nbInputRegisters h with
                  | (.error _, h) => do
                      let h ← h.free tabRegisters
                      let h ← h.free tabInputBits
                      let h ← h.free tabBits
                      let h ← h.free (some block)
                      some (.error .enomem, h)
                  | (.ok tabInputRegisters, h) =>
                      some (.ok (mapping,
                        ⟨block, tabBits, tabInputBits, tabRegisters, tabInputRegisters⟩), h)

/-! ## A program -/

inductive Object
  | context (c : Context)
  | mapping (mapping : ModbusMapping) (blocks : MappingBlocks)

inductive Call
  | newTcp (ip : Option CString) (port : Int)
  | newTcpPi (node service : Option CString)
  | newRtu (device : Option CString) (baud : Int) (parity : Byte) (dataBit stopBit : Int)
  | mappingNew (startBits nbBits startInputBits nbInputBits startRegisters nbRegisters
      startInputRegisters nbInputRegisters : BitVec 32)
  /-- Freeing one of the objects, which the program then does not use any more; nothing happens when
  there is none with this number. -/
  | free (k : Nat)

structure Process where
  heap : Heap
  objects : List Object

def Process.made {α : Type} (p : Process) (object : α → Object) :
    Option (Except NewError α × Heap) → Option Process
  | none => none
  | some (.error _, heap) => some { p with heap }
  | some (.ok a, heap) => some ⟨heap, object a :: p.objects⟩

def Object.free : Object → Heap → Option Heap
  | .context c => modbusFree c
  | .mapping _ blocks => modbusMappingFree blocks

def Process.call (p : Process) : Call → Option Process
  | .newTcp ip port => p.made .context (modbusNewTcp refuses version uninit contents ip port p.heap)
  | .newTcpPi node service => p.made .context (modbusNewTcpPi refuses version uninit node service p.heap)
  | .newRtu device baud parity dataBit stopBit =>
      p.made .context (modbusNewRtu refuses version uninit device baud parity dataBit stopBit p.heap)
  | .mappingNew startBits nbBits startInputBits nbInputBits startRegisters nbRegisters
      startInputRegisters nbInputRegisters =>
      p.made (fun made => .mapping made.1 made.2) (modbusMappingNewStartAddress refuses startBits nbBits
        startInputBits nbInputBits startRegisters nbRegisters startInputRegisters nbInputRegisters p.heap)
  | .free k =>
      match p.objects[k]? with
      | none => some p
      | some object => do
          let heap ← object.free p.heap
          some ⟨heap, p.objects.eraseIdx k⟩

def Process.run : List Call → Process → Option Process
  | [], p => some p
  | call :: calls, p => do
      let p ← p.call refuses version uninit contents call
      Process.run calls p

end Allocating
end ModbusNet
