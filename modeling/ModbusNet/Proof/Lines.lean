import ModbusNet.Model.Line
import ModbusNet.Proof.Connections

namespace ModbusNet

variable {π : Type}

theorem lineDevice_keeps_peer (react : React π) (peer : π) :
    (lineDevice react).Keeps fun l => l.peer = peer where
  select := by
    intro n l same
    simp only [lineDevice, lineSelect]
    split <;> exact same
  recv := fun _ _ same => same
  recvDontwait := by
    intro n l same
    simp only [lineDevice]
    split <;> exact same
  tcflush := fun _ same => same
  sleep := fun _ same => same
  close := fun _ same => same
  connect := fun _ same => same

theorem lineDevice_keeps_settled (react : React π) :
    (lineDevice react).Keeps fun l => l.incoming.future = [] where
  select := by
    intro n l settled
    have waited := Incoming.wait_queued l.incoming.queued
    have whole : l.incoming = ⟨l.incoming.queued, []⟩ := by rw [← settled]
    rw [← whole] at waited
    simp only [lineDevice, lineSelect]
    split <;> rename_i found <;> rw [found] at waited <;>
      exact (congrArg Incoming.future waited).trans settled
  recv := fun _ _ settled => settled
  recvDontwait := by
    intro n l settled
    simp only [lineDevice]
    split <;> exact settled
  tcflush := fun _ settled => settled
  sleep := fun _ settled => settled
  close := fun _ settled => settled
  connect := fun _ settled => settled

theorem sleepAndFlush_peer (react : React π) (c : Conn (Line π)) :
    (sleepAndFlush (lineDevice react) c).line.peer = c.line.peer :=
  (sleepAndFlush_preserves ((lineDevice_keeps_peer react c.line.peer).preserves c) c (.refl c)).2 rfl

theorem sendFrame_line (react : React π) (msg : List Byte) (c : Conn (Line π))
    {arrivals : List (Arrival Byte)} {peer : π}
    (reacts : react msg c.line.peer = (.ok msg.length, arrivals, peer)) :
    sendFrame (lineDevice react) msg c = (.ok msg.length, { c with line :=
      ⟨{ c.line.incoming with future := c.line.incoming.future ++ arrivals }, peer⟩ }) := by
  have sent : (lineDevice react).send msg c.line = (.ok msg.length,
      ⟨{ c.line.incoming with future := c.line.incoming.future ++ arrivals }, peer⟩) := by
    simp only [lineDevice, reacts]
  rw [sendFrame, sendLoop, sent]
  simp

def Conn.record (c : Conn (Line Log)) (msg : List Byte) : Conn (Line Log) :=
  { c with line := { c.line with peer := c.line.peer ++ [msg] } }

theorem sendMsg_log (c : Conn (Line Log)) (msg : List Byte) :
    sendMsg logDevice c msg = (.ok (sendMsgPre c.ctx.backend msg).length,
      c.record (sendMsgPre c.ctx.backend msg)) := by
  obtain ⟨ctx, ⟨⟨queued, future⟩, log⟩⟩ := c
  simp [sendMsg, sendFrame, sendLoop, lineDevice, logReact, Conn.record]

theorem suppressed_alike {ctx ctx' : Ctx} (alike : ctx.Alike ctx') (req : Buffer) :
    suppressed ctx' req = suppressed ctx req := by
  rw [suppressed, suppressed, alike.backend, Ctx.replyToBroadcast, alike.quirks]
  rfl

def Conn.flushedFor (c : Conn (Line Log)) (answer : Answer) : Conn (Line Log) :=
  if answer.toFlush then sleepAndFlush logDevice c else c

theorem sendAnswer_flushed (c : Conn (Line Log)) (req : Buffer) (answer : Answer) :
    (c.flushedFor answer).line.peer = c.line.peer ∧
      sendAnswer logDevice c req answer =
        if suppressed c.ctx req then (.ok 0, c.flushedFor answer)
        else (.ok (sendMsgPre c.ctx.backend answer.rsp).length,
          (c.flushedFor answer).record (sendMsgPre c.ctx.backend answer.rsp)) := by
  have general : ∀ c' : Conn (Line Log), c.ctx.Alike c'.ctx →
      (if suppressed c'.ctx req then (.ok 0, c') else sendMsg logDevice c' answer.rsp :
        Except Failure Int × Conn (Line Log)) =
        if suppressed c.ctx req then (.ok 0, c')
        else (.ok (sendMsgPre c.ctx.backend answer.rsp).length,
          c'.record (sendMsgPre c.ctx.backend answer.rsp)) := by
    intro c' alike
    rw [suppressed_alike alike, sendMsg_log, alike.backend]
  unfold sendAnswer Conn.flushedFor
  cases answer.toFlush with
  | true => exact ⟨sleepAndFlush_peer _ c, general _ (sleepAndFlush_alike logDevice c)⟩
  | false => exact ⟨rfl, general c (.refl _)⟩

theorem sendAnswer_log (c : Conn (Line Log)) (req : Buffer) (answer : Answer) :
    (sendAnswer logDevice c req answer).2.line.peer =
      c.line.peer ++ if suppressed c.ctx req then [] else [sendMsgPre c.ctx.backend answer.rsp] := by
  obtain ⟨peer, sent⟩ := sendAnswer_flushed c req answer
  rw [sent, ← peer]
  split
  · exact (List.append_nil _).symm
  · rfl

theorem sendAnswer_log_rc (c : Conn (Line Log)) (req : Buffer) (answer : Answer) :
    (sendAnswer logDevice c req answer).1 =
      .ok (if suppressed c.ctx req then 0 else (sendMsgPre c.ctx.backend answer.rsp).length) := by
  obtain ⟨-, sent⟩ := sendAnswer_flushed c req answer
  rw [sent]
  split <;> rfl

end ModbusNet
