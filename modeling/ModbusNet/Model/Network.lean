import ModbusNet.Model.Line

namespace ModbusNet

structure Flight where
  request : Nat
  bytes : List Byte
  deriving DecidableEq

structure Network where
  requests : List (List Byte)
  undelivered : List Flight

/-- What a call sees on the line once its request is sent: nothing until its wait ends, or one
response, whose bytes arrive in some grouping. -/
inductive Delivery
  | silence
  | response (flight : Flight) (arrivals : List (Arrival Byte))

def Delivery.arrivals : Delivery → List (Arrival Byte)
  | .silence => [.silence]
  | .response _ arrivals => arrivals

def Delivery.remaining : Delivery → List Flight → List Flight
  | .silence, flights => flights
  | .response flight _, flights => flights.erase flight

structure Call where
  op : ClientOp
  responses : List Flight
  delivery : Delivery

def Call.react (call : Call) : React Network := fun msg network =>
  (.ok msg.length, call.delivery.arrivals,
    { requests := network.requests ++ [msg]
      undelivered := call.delivery.remaining (network.undelivered ++ call.responses) })

def Call.run (call : Call) (c : Conn (Line Network)) : Except Failure Int × Dest × Conn (Line Network) :=
  call.op.run (lineDevice call.react) c

end ModbusNet
