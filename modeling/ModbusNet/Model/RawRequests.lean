import ModbusNet.Model.Loopback
import ModbusNet.Model.UnitTestServer

namespace ModbusNet

section
variable {σ : Type} (dev : Device σ)

def modbusReceiveConfirmation (c : Conn σ) (rsp : Buffer) : Except Failure Int × Buffer × Conn σ :=
  let (rc, msg, c) := modbusReceiveMsg dev .confirmation c
  (rc, overlay rsp msg, c)

inductive Exchange
  | typed (op : ClientOp)
  | raw (rawReq : List Byte) (tId : Int) (rsp : Buffer)

inductive Exchanged
  | typed (rc : Except Failure Int) (dest : Dest)
  | raw (rc : Except Failure Int) (rsp : Buffer)

def Exchanged.rc : Exchanged → Except Failure Int
  | .typed rc _ | .raw rc _ => rc

def Exchange.run (exchange : Exchange) (c : Conn σ) : Exchanged × Conn σ :=
  match exchange with
  | .typed op =>
      let (rc, dest, c) := op.run dev c
      (.typed rc dest, c)
  | .raw rawReq tId rsp =>
      match modbusSendRawRequestTid dev c rawReq tId with
      | (.error e, c) => (.raw (.error e) rsp, c)
      | (.ok _, c) =>
          let (rc, rsp, c) := modbusReceiveConfirmation dev c rsp
          (.raw rc rsp, c)

end
end ModbusNet
