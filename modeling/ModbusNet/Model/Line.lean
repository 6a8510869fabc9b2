import ModbusNet.Library.Incoming
import ModbusNet.Model.Client
import ModbusNet.Model.Reply

namespace ModbusNet

structure Line (π : Type) where
  incoming : Incoming Byte
  peer : π

/-- What the peer does with a message: how many bytes of it are taken, what arrives because of it,
and the new peer. -/
abbrev React (π : Type) := List Byte → π → Except Errno Nat × List (Arrival Byte) × π

def Conn.established {π : Type} (ctx : Ctx) (peer : π) : Conn (Line π) :=
  ⟨{ ctx with s := 3 }, ⟨⟨[], []⟩, peer⟩⟩

def lineSelect {π : Type} (l : Line π) : Except Failure Unit × Line π :=
  match l.incoming.wait with
  | (.ready, incoming) => (.ok (), { l with incoming })
  | (.silence, incoming) => (.error (.errno .etimedout), { l with incoming })
  | (.endless, incoming) => (.error .hang, { l with incoming })

def lineRecv {π : Type} (n : Nat) (l : Line π) :
    Except Errno { bytes : List Byte // bytes.length ≤ n } × Line π :=
  (.ok ⟨(l.incoming.take n).1, List.length_take_le _ _⟩, { l with incoming := (l.incoming.take n).2 })

def lineDevice {π : Type} (react : React π) : Device (Line π) where
  send msg l :=
    let (rc, arrivals, peer) := react msg l.peer
    (rc, { incoming := { l.incoming with future := l.incoming.future ++ arrivals }, peer })
  select _ := lineSelect
  recv := lineRecv
  recvDontwait n l := if l.incoming.queued = [] then (.error .eagain, l) else lineRecv n l
  tcflush l := { l with incoming := l.incoming.discard }
  sleep l := l
  close l := { l with incoming := l.incoming.discard }
  connect l := (.error .econnrefused, l)
  retries := 0

abbrev Log := List (List Byte)

def logReact : React Log := fun msg log => (.ok msg.length, [], log ++ [msg])

abbrev logDevice : Device (Line Log) := lineDevice logReact

end ModbusNet
