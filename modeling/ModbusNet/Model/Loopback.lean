import ModbusNet.Model.Line

namespace ModbusNet

/-- How the bytes of a message arrive at its receiver; the number tells messages apart. -/
abbrev Carrier := Nat → List Byte → List (Arrival Byte)

def Lossless (carry : Carrier) : Prop :=
  ∀ turn bytes, (carry turn bytes).flatMap Arrival.signals = bytes.map .item

def carryWhole : Carrier
  | _, [] => []
  | _, first :: rest => [.items first rest]

theorem carryWhole_lossless : Lossless carryWhole := by
  intro turn bytes
  cases bytes with
  | nil => rfl
  | cons first rest => exact List.append_nil _

structure Server where
  conn : Conn (Line Log)
  query : Buffer
  mapping : ModbusMapping
  turn : Nat

/-- One turn of the loop of `random-test-server.c`: a request that is received is answered. -/
def Server.serve (s : Server) : Server :=
  match modbusReceive logDevice s.conn s.query with
  | (.ok rc, query, conn) =>
      if 0 < rc then
        let (_, mapping, conn) := modbusReply logDevice conn query rc s.mapping
        { conn, query, mapping, turn := s.turn + 1 }
      else { s with conn, query, turn := s.turn + 1 }
  | (.error _, query, conn) => { s with conn, query, turn := s.turn + 1 }

def Conn.hear (c : Conn (Line Log)) (arrivals : List (Arrival Byte)) : Conn (Line Log) :=
  { c with
    line := { incoming := { c.line.incoming with future := c.line.incoming.future ++ arrivals }
              peer := [] } }

def Server.hear (s : Server) (arrivals : List (Arrival Byte)) : Server :=
  { s with conn := s.conn.hear arrivals }

def serverReact (toServer toClient : Carrier) : React Server := fun msg s =>
  let s' := (s.hear (toServer s.turn msg)).serve
  (.ok msg.length, s'.conn.line.peer.flatMap (toClient s.turn), s')

def runOps {σ : Type} (dev : Device σ) :
    List ClientOp → Conn σ → List (Except Failure Int × Dest) × Conn σ
  | [], c => ([], c)
  | op :: ops, c =>
      let (rc, dest, c) := op.run dev c
      let (more, c) := runOps dev ops c
      ((rc, dest) :: more, c)

end ModbusNet
