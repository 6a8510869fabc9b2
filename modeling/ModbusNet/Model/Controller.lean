import ModbusNet.Model.Loopback
import ModbusNet.Model.Meter
import ModbusNet.Model.Setup

namespace ModbusNet

def controllerNumRegisters : Nat := 30

def printedValue (register : Word) : Int :=
  if 32768 < register.toNat then register.toNat - 65536 else register.toNat

def printRegisters (mapping : ModbusMapping) : List Int :=
  (mapping.tabRegisters.take controllerNumRegisters).map printedValue

/-- The controller while a client is connected, with what it has printed last. It stops serving the
client when it leaves its inner loop. -/
structure Controller where
  conn : Conn (Line Log)
  query : Buffer
  mapping : ModbusMapping
  printed : List Int
  serving : Bool

def Controller.initialMapping : ModbusMapping :=
  modbusMappingNew 0 0 (BitVec.ofNat 32 controllerNumRegisters) 0

def Controller.serve (k : Controller) : Controller :=
  if k.serving then
    match modbusReceive logDevice k.conn k.query with
    | (.error _, query, conn) => { k with conn, query, serving := false }
    | (.ok rc, query, conn) =>
        match modbusReply logDevice conn query rc k.mapping with
        | (.error _, mapping, conn) => { k with conn, query, mapping, serving := false }
        | (.ok _, mapping, conn) =>
            { k with conn, query, mapping, printed := printRegisters mapping }
  else k

inductive Fate
  | delivered
  | unsent (e : Errno)
  | lost

structure ControllerLink where
  controller : Controller
  attempts : Nat

/-- The reaction to a request: the controller hears only of those that are delivered. -/
def controllerReact (fate : Nat → Fate) (toController toMeter : Carrier) : React ControllerLink :=
  fun msg l =>
    let next := { l with attempts := l.attempts + 1 }
    match fate l.attempts with
    | .unsent e => (.error e, [], next)
    | .lost => (.ok msg.length, [.silence], next)
    | .delivered =>
        let controller := { l.controller with
          conn := l.controller.conn.hear (toController l.attempts msg) }.serve
        (.ok msg.length, controller.conn.line.peer.flatMap (toMeter l.attempts),
          { next with controller })

end ModbusNet
