import Mathlib.Data.Finset.Basic
import ModbusNet.Model.Loopback
import ModbusNet.Model.Setup

namespace ModbusNet

def fdSetsize : Nat := 1024

/-- The system around the process: the descriptors that are open for something else, the number of
descriptors that it may have, and what each client sends, in the order in which they are accepted. -/
structure System where
  others : Finset Nat
  limit : Nat
  sends : Nat → List (Arrival Byte)

/-- The answers of the system in one turn of the outer loop: the descriptors that `select` finds
ready, unless it fails, and whether `accept` succeeds if it can. -/
structure Poll where
  select : Except Errno (Nat → Bool)
  accepts : Bool

structure ManyUp where
  ctx : Ctx
  query : Buffer
  mapping : ModbusMapping
  serverSocket : Nat
  refset : Finset Nat
  fdmax : Nat
  descriptors : Nat → Option Nat
  connections : List (Line Log)
  /-- The requests that were passed to `modbus_reply`, with their connections. -/
  executed : List (Nat × List Byte)

def System.lowestFree (sys : System) (used : Nat → Bool) : Option Nat :=
  (List.range sys.limit).find? fun fd => !(decide (fd ∈ sys.others) || used fd)

namespace ManyUp

def uses (w : ManyUp) (fd : Nat) : Bool := fd == w.serverSocket || (w.descriptors fd).isSome

def unconnected : Line Log := ⟨⟨[], []⟩, []⟩

def attach (w : ManyUp) (id : Nat) (c : Conn (Line Log)) : ManyUp :=
  { w with ctx := c.ctx, connections := w.connections.set id c.line }

def acceptClient (sys : System) (accepts : Bool) (w : ManyUp) : Except Failure Unit × ManyUp :=
  match if accepts then sys.lowestFree w.uses else none with
  | none => (.ok (), w)
  | some newfd =>
      if fdSetsize ≤ newfd then (.error .undefined, w)
      else
        let id := w.connections.length
        (.ok (), { w with
          descriptors := Function.update w.descriptors newfd (some id)
          connections := w.connections ++ [⟨⟨[], sys.sends id⟩, []⟩]
          refset := insert newfd w.refset
          fdmax := if w.fdmax < newfd then newfd else w.fdmax })

def closeClient (masterSocket : Nat) (w : ManyUp) : ManyUp :=
  { w with
    descriptors := Function.update w.descriptors masterSocket none
    refset := w.refset.erase masterSocket
    fdmax := if masterSocket = w.fdmax then w.fdmax - 1 else w.fdmax }

def serveClient (masterSocket : Nat) (w : ManyUp) : Except Failure Unit × ManyUp :=
  let w := { w with ctx := { w.ctx with s := masterSocket } }
  match w.descriptors masterSocket with
  -- `select` fails with `EBADF`.
  | none => (.ok (), w.closeClient masterSocket)
  | some id =>
      match modbusReceive logDevice ⟨w.ctx, w.connections.getD id unconnected⟩ w.query with
      | (.ok rc, query, c) =>
          if 0 < rc then
            let (result, mapping, c) := modbusReply logDevice c query rc w.mapping
            let executed := w.executed ++ [(id, bytesAt query 0 rc.toNat)]
            let w := { w with query, mapping, executed }.attach id c
            match result with
            -- Whether the reply could be sent is not looked at.
            | .ok _ | .error (.errno _) => (.ok (), w)
            | .error e => (.error e, w)
          else (.ok (), { w with query }.attach id c)
      | (.error (.errno _), query, c) =>
          (.ok (), ({ w with query }.attach id c).closeClient masterSocket)
      | (.error e, query, c) => (.error e, { w with query }.attach id c)

section
variable (sys : System) (accepts : Bool) (rdset : Finset Nat)

def visit (masterSocket : Nat) (w : ManyUp) : Except Failure Unit × ManyUp :=
  if masterSocket ∉ rdset then (.ok (), w)
  else if masterSocket = w.serverSocket then w.acceptClient sys accepts
  else w.serveClient masterSocket

/-- The loop over the descriptors; the bound is read again in every round. -/
def visits : Nat → Nat → ManyUp → Except Failure Unit × ManyUp
  | 0, _, w => (.error .hang, w)
  | fuel + 1, masterSocket, w =>
      if masterSocket ≤ w.fdmax then
        match w.visit sys accepts rdset masterSocket with
        | (.ok _, w) => visits fuel (masterSocket + 1) w
        | (.error e, w) => (.error e, w)
      else (.ok (), w)

end

/-- One turn of the outer loop. The process ends when `select` fails. -/
def turn (sys : System) (poll : Poll) (w : ManyUp) : Except Failure Unit × ManyUp :=
  match poll.select with
  | .error e => (.error (.errno e), w)
  | .ok ready =>
      w.visits sys poll.accepts (w.refset.filter fun fd => ready fd) (fdSetsize + 1) 0

def run (sys : System) : List Poll → ManyUp → Except Failure Unit × ManyUp
  | [], w => (.ok (), w)
  | poll :: polls, w =>
      match w.turn sys poll with
      | (.ok _, w) => run sys polls w
      | (.error e, w) => (.error e, w)

def initialMapping : ModbusMapping :=
  modbusMappingNew (BitVec.ofNat 32 maxReadBits) 0 (BitVec.ofNat 32 maxReadRegisters) 0

def start (sys : System) (version : VersionString) (uninit query : Buffer) : Except Failure ManyUp :=
  match sys.lowestFree fun _ => false with
  | none => .error (.errno .unset)
  | some serverSocket =>
      if fdSetsize ≤ serverSocket then .error .undefined
      else
        .ok {
          ctx := modbusNewTcp version uninit
          query
          mapping := initialMapping
          serverSocket
          refset := {serverSocket}
          fdmax := serverSocket
          descriptors := fun _ => none
          connections := []
          executed := [] }

end ManyUp
end ModbusNet
