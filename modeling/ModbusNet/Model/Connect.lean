import ModbusNet.Model.Types

namespace ModbusNet

inductive Connecting
  | established
  | inProgress
  | failed (e : Errno)

/-- The answers to the calls of `_connect`. `select` gives the number of ready descriptors and
`getsockopt` the value of `SO_ERROR`. -/
structure ConnectCalls where
  connect : Connecting
  select : Except Errno Nat
  getsockopt : Except Errno Int

def connect (calls : ConnectCalls) : Except Errno Unit :=
  match calls.connect with
  | .established => .ok ()
  | .failed e => .error e
  | .inProgress =>
      match calls.select with
      | .error e => .error e
      | .ok ready =>
          if ready = 0 then .error .etimedout
          else
            match calls.getsockopt with
            | .error _ => .error .econnrefused
            | .ok optval => if optval = 0 then .ok () else .error .econnrefused

inductive SocketEvent
  | opened (s : Nat)
  | closed (s : Nat)
  deriving DecidableEq, Repr

structure OptionCalls where
  noDelay : Except Errno Unit
  lowDelay : Except Errno Unit

def modbusTcpSetIpv4Options (calls : OptionCalls) : Except Errno Unit := do
  calls.noDelay
  calls.lowDelay

def modbusTcpConnect (ctx : Ctx) (socket : Except Errno Nat) (options : OptionCalls)
    (inetPton : Int) (calls : ConnectCalls) : Int × Ctx × List SocketEvent :=
  match socket with
  | .error _ => (-1, { ctx with s := -1 }, [])
  | .ok s =>
      let failed := (-1, { ctx with s := -1 }, [.opened s, .closed s])
      match modbusTcpSetIpv4Options options with
      | .error _ => failed
      | .ok _ =>
          if inetPton ≤ 0 then failed
          else
            match connect calls with
            | .error _ => failed
            | .ok _ => (0, { ctx with s }, [.opened s])

structure AddressCalls where
  socket : Except Errno Nat
  connect : ConnectCalls

/-- The loop over the resolved addresses. The options are set for an `AF_INET` address, but whether
they are is not looked at. -/
def modbusTcpPiConnectLoop (ctx : Ctx) : List AddressCalls → Ctx × List SocketEvent
  | [] => (ctx, [])
  | ai :: rest =>
      match ai.socket with
      | .error _ => modbusTcpPiConnectLoop ctx rest
      | .ok s =>
          match connect ai.connect with
          | .error _ =>
              let (ctx, log) := modbusTcpPiConnectLoop ctx rest
              (ctx, .opened s :: .closed s :: log)
          | .ok _ => ({ ctx with s }, [.opened s])

def modbusTcpPiConnect (ctx : Ctx) (getaddrinfo : Option (List AddressCalls)) :
    Int × Ctx × List SocketEvent :=
  match getaddrinfo with
  | none => (-1, ctx, [])
  | some aiList =>
      let (ctx, log) := modbusTcpPiConnectLoop ctx aiList
      (if ctx.s < 0 then -1 else 0, ctx, log)

end ModbusNet
