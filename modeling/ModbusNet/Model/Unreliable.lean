import ModbusNet.Model.Loopback

namespace ModbusNet

structure Link (π : Type) where
  line : Line π
  isOpen : Bool
  dials : Nat

/-- Calls on a closed descriptor fail with `EBADF`. What has arrived is lost when it is closed. -/
def linkDevice {π : Type} (react : React π) (dial : Nat → Except Errno Nat) (retries : Nat) :
    Device (Link π) where
  send msg l :=
    if l.isOpen then
      let (rc, line) := (lineDevice react).send msg l.line
      (rc, { l with line })
    else (.error .ebadf, l)
  select _ l :=
    if l.isOpen then
      let (ready, line) := lineSelect l.line
      (ready, { l with line })
    else (.error (.errno .ebadf), l)
  recv n l :=
    if l.isOpen then
      let (rc, line) := lineRecv n l.line
      (rc, { l with line })
    else (.error .ebadf, l)
  recvDontwait n l :=
    if l.isOpen then
      let (rc, line) := (lineDevice react).recvDontwait n l.line
      (rc, { l with line })
    else (.error .ebadf, l)
  tcflush l := { l with line := (lineDevice react).tcflush l.line }
  sleep l := l
  close l := { l with line := { l.line with incoming := ⟨[], []⟩ }, isOpen := false }
  connect l :=
    match dial l.dials with
    | .ok s => (.ok s, { l with isOpen := true, dials := l.dials + 1 })
    | .error e => (.error e, { l with dials := l.dials + 1 })
  retries

/-- What becomes of a request and of the response to it. -/
inductive Passage
  | answered
  | unanswered
  | lost
  | unsent (e : Errno)

structure Remote where
  server : Server
  attempts : Nat

def remoteReact (passage : Nat → Passage) (toServer toClient : Carrier) : React Remote :=
  fun msg r =>
    let server := (r.server.hear (toServer r.attempts msg)).serve
    match passage r.attempts with
    | .answered => (.ok msg.length, server.conn.line.peer.flatMap (toClient r.attempts),
        { server, attempts := r.attempts + 1 })
    | .unanswered => (.ok msg.length, [.silence], { server, attempts := r.attempts + 1 })
    | .lost => (.ok msg.length, [.silence], { r with attempts := r.attempts + 1 })
    | .unsent e => (.error e, [], { r with attempts := r.attempts + 1 })

abbrev unreliableDevice (passage : Nat → Passage) (dial : Nat → Except Errno Nat) (retries : Nat)
    (toServer toClient : Carrier) : Device (Link Remote) :=
  linkDevice (remoteReact passage toServer toClient) dial retries

end ModbusNet
