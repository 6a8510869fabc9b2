import ModbusNet.Model.Loopback
import ModbusNet.Model.Setup

/-!
# A serial bus

A master and any number of slaves on one line. Every slave hears every request, and every response
but its own; one that has ignored a request waits for the response to it or for its timeout. When
nothing comes, this timeout may end after the master's, so that the slave takes the next request for
the response.
-/

namespace ModbusNet

/-- `waitEnds` says whether a slave has waited in vain before the master sends its next request. -/
structure Wiring where
  toMaster : Carrier
  toSlave : Int → Carrier
  waitEnds : Int → Nat → Bool

structure Bus where
  slaves : List Server
  turn : Nat

def Server.attend (w : Wiring) (msg : List Byte) (s : Server) : Server :=
  (s.hear (w.toSlave s.conn.ctx.slave s.turn msg)).serve

/-- What the others respond, and one more turn for a slave that hears it or that has waited in vain. -/
def Server.settle (w : Wiring) (others : List (List Byte)) (s : Server) : Server :=
  if others ≠ [] then (s.hear (others.flatMap (w.toSlave s.conn.ctx.slave s.turn))).serve
  else if s.conn.ctx.confirmationToIgnore ∧ w.waitEnds s.conn.ctx.slave s.turn then
    (s.hear [.silence]).serve
  else s

def sentBy (slaves : List Server) : List (List Byte) := slaves.flatMap fun s => s.conn.line.peer

def busReact (w : Wiring) : React Bus := fun msg bus =>
  let attended := bus.slaves.map (Server.attend w msg)
  let responses := sentBy attended
  (.ok msg.length,
    if responses = [] then [.silence] else responses.flatMap (w.toMaster bus.turn),
    { slaves := attended.mapIdx fun i s => s.settle w (sentBy (attended.eraseIdx i))
      turn := bus.turn + 1 })

structure BusCall where
  slave : Int
  op : ClientOp

section
variable {σ : Type} (dev : Device σ)

def BusCall.run (call : BusCall) (c : Conn σ) : Except Errno (Except Failure Int × Dest) × Conn σ :=
  match modbusSetSlave c.ctx call.slave with
  | .error e => (.error e, c)
  | .ok ctx =>
      let (rc, dest, c) := call.op.run dev { c with ctx }
      (.ok (rc, dest), c)

def runBusCalls : List BusCall → Conn σ →
    List (Except Errno (Except Failure Int × Dest)) × Conn σ
  | [], c => ([], c)
  | call :: calls, c =>
      let (result, c) := call.run dev c
      let (more, c) := runBusCalls calls c
      (result :: more, c)

end
end ModbusNet
