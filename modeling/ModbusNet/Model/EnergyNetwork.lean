import ModbusNet.Model.Controller
import ModbusNet.Model.UpdateFile

namespace ModbusNet

structure Station where
  conn : Conn (Line Log)
  query : Buffer
  mapping : ModbusMapping
  goesOn : Except Failure Bool
  file : RegisterFile
  turn : Nat

def FileWriter.persist (w : FileWriter) (headerLength : Nat) (query : Buffer) (mb : ModbusMapping)
    (file : RegisterFile) : RegisterFile :=
  match w.simulator.handle headerLength query mb with
  | .ok ⟨_, some (address, value)⟩ => w.updateFile file address value
  | _ => file

namespace Station
variable (w : FileWriter) (carry : Carrier) (rounds : Nat)

def serve (s : Station) : Station :=
  match s.goesOn with
  | .ok true =>
      let received := receiveNonzero logDevice rounds s.conn s.query
      let after := respondUnlessBroken (w.simulator.respond logDevice) received s.mapping
      let handled := fun (c : Conn (Line Log)) query =>
        w.persist c.ctx.backend.headerLength query s.mapping s.file
      { s with
        conn := after.conn
        query := after.query
        mapping := after.mapping
        goesOn := after.goesOn
        file :=
          match received with
          | (.ok _, query, c) => handled c query
          | (.error (.errno .embbadcrc), query, c) => handled c query
          | _ => s.file }
  | _ => s

inductive Event
  | message (msg : List Byte)
  | reconnect

/-- A new client finds a new context and new registers; the receive buffer and the file stay. -/
def handle (s : Station) : Event → Station
  | .message msg =>
      ({ s with conn := s.conn.hear (carry s.turn msg), turn := s.turn + 1 } : Station).serve w rounds
  | .reconnect =>
      { s with conn := .established newTcp [], mapping := w.simulator.initialMapping, goesOn := .ok true }

def run (events : List Event) (s : Station) : Station := events.foldl (handle w carry rounds) s

def start : Station where
  conn := .established newTcp []
  query := fun _ => 0
  mapping := w.simulator.initialMapping
  goesOn := .ok true
  file := w.initializeFile none
  turn := 0

end Station

structure Stations where
  pv : Station
  ev : Station
  hp : Station

structure Traffic where
  pv : List Station.Event
  ev : List Station.Event
  hp : List Station.Event

namespace Stations
variable (carry : Carrier) (rounds : Nat)

def start : Stations := ⟨.start pvInverterFile, .start evChargerFile, .start heatPumpFile⟩

def run (traffic : Traffic) (s : Stations) : Stations where
  pv := s.pv.run pvInverterFile carry rounds traffic.pv
  ev := s.ev.run evChargerFile carry rounds traffic.ev
  hp := s.hp.run heatPumpFile carry rounds traffic.hp

def files (s : Stations) : RegisterFiles := ⟨s.pv.file, s.ev.file, s.hp.file⟩

/-- The files as the meter finds them, each time that it has opened all of them. -/
def watch : List Traffic → Stations → List RegisterFiles
  | [], _ => []
  | traffic :: later, s =>
      let s := s.run carry rounds traffic
      s.files :: watch later s

end Stations

def energyNetwork (fate : Nat → Fate) (toStation toController toMeter : Carrier) (rounds : Nat)
    (before : Traffic) (later : List Traffic) (stations : Stations) (c : Conn (Line ControllerLink)) :
    Except Failure (Meter (Conn (Line ControllerLink))) :=
  let stations := stations.run toStation rounds before
  Meter.run (modbusWriteRegister (lineDevice (controllerReact fate toController toMeter))) (some c)
    stations.files (stations.watch toStation rounds later)

end ModbusNet
