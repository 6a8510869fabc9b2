import ModbusNet.Model.Win32Serial
import ModbusNet.Proof.Connections

/-!
# The buffer of the serial port under Windows

`win32_ser_read` copies from the start of the buffer and forgets what it has not copied only from the
count. That the bytes are delivered as they are obtained rests on an empty buffer between the reads:
a select never leaves more than the read that follows it takes (`serialRun_fifo`).
-/

namespace ModbusNet

variable {σ : Type}

structure SerialState.Fifo (s : SerialState σ) : Prop where
  empty : s.ws.nBytes = 0
  delivered : s.delivered = s.obtained

structure SerialState.Filled (s : SerialState σ) (lengthToRead : Nat) : Prop where
  fits : s.ws.nBytes ≤ lengthToRead
  buffered : s.delivered ++ bytesAt s.ws.buf 0 s.ws.nBytes = s.obtained

theorem readLength_le (lengthToRead : Nat) : readLength lengthToRead ≤ lengthToRead := by
  rw [readLength, pyBufSize]
  split <;> omega

section
variable (port : SerialPort σ) (tv : Option Timeval) (lengthToRead : Nat) (s : SerialState σ)

theorem select_fifo (fifo : s.Fifo) :
    (∃ e after, (win32Device port tv).select lengthToRead s = (.error e, after) ∧ after.Fifo) ∨
      ∃ after, (win32Device port tv).select lengthToRead s = (.ok (), after) ∧
        after.Filled lengthToRead := by
  have empty : ¬ 0 < s.ws.nBytes := Nat.not_lt.mpr fifo.empty.le
  simp only [win32Device, win32SerSelect, if_neg empty, ReadFile.recorded]
  cases port.readFile (commTimeout tv) (readLength lengthToRead) s.line with
  | mk result line =>
      cases result with
      | error e => exact .inl ⟨_, _, rfl, rfl, fifo.delivered⟩
      | ok bytes =>
          obtain ⟨bytes, length⟩ := bytes
          cases bytes with
          | nil => exact .inl ⟨_, _, rfl, rfl, fifo.delivered.trans (List.append_nil _).symm⟩
          | cons first rest =>
              refine .inr ⟨_, rfl, length.trans (readLength_le lengthToRead), ?_⟩
              simp only [bytesAt_overlay, fifo.delivered]

theorem recv_fifo (filled : s.Filled lengthToRead) :
    ((win32Device port tv).recv lengthToRead s).2.Fifo := by
  -- The read takes all there is, so that it may copy from the start of the buffer.
  have whole : ¬ lengthToRead < s.ws.nBytes := Nat.not_lt.mpr filled.fits
  refine ⟨?_, ?_⟩
  · simp only [win32Device, win32SerRead, if_neg whole, Nat.sub_self]
  · simp only [win32Device, win32SerRead, if_neg whole, filled.buffered]

end

theorem win32Device_keeps (port : SerialPort σ) (tv : Option Timeval) :
    (win32Device port tv).KeepsPairs SerialState.Fifo where
  unready := by
    intro n s e after selected fifo
    rcases select_fifo port tv n s fifo with ⟨e', after', run, empty⟩ | ⟨after', run, -⟩
    · rw [selected] at run
      cases run
      exact empty
    · rw [selected] at run
      cases run
  pair := by
    intro n s after selected fifo
    rcases select_fifo port tv n s fifo with ⟨e, after', run, -⟩ | ⟨after', run, filled⟩
    · rw [selected] at run
      cases run
    · rw [selected] at run
      cases run
      exact recv_fifo port tv n after filled
  recvDontwait := fun _ _ fifo => fifo
  tcflush := fun _ _ => ⟨rfl, rfl⟩
  sleep := fun _ fifo => fifo
  close := fun _ fifo => ⟨fifo.empty, fifo.delivered⟩
  connect := fun _ _ => ⟨rfl, rfl⟩

theorem serialStep_fifo (port : SerialPort σ) (step : SerialStep) (s : SerialState σ)
    (fifo : s.Fifo) : (serialStep port s step).Fifo := by
  cases step with
  | receive tv lengthToRead =>
      have keeps := win32Device_keeps port tv
      rw [serialStep]
      split
      · rename_i e after selected
        exact keeps.unready lengthToRead s e after selected fifo
      · rename_i after selected
        exact keeps.pair lengthToRead s after selected fifo
  | flush => exact (win32Device_keeps port none).tcflush s fifo

theorem serialRun_keeps (port : SerialPort σ) (steps : List SerialStep) (s : SerialState σ)
    (fifo : s.Fifo) : (serialRun port steps s).Fifo := by
  induction steps generalizing s with
  | nil => exact fifo
  | cons step steps ih => exact ih _ (serialStep_fifo port step s fifo)

/-- After any reads and flushes, the bytes delivered since the last flush are those that were
obtained from the port since then, in their order. -/
theorem serialRun_fifo (port : SerialPort σ) (steps : List SerialStep) (line : σ) :
    (serialRun port steps ⟨win32SerInit, line, [], []⟩).delivered =
      (serialRun port steps ⟨win32SerInit, line, [], []⟩).obtained :=
  (serialRun_keeps port steps _ ⟨rfl, rfl⟩).delivered

theorem modbusReceiveMsg_fifo (port : SerialPort σ) (tv : Option Timeval) (msgType : MsgType)
    (c : Conn (SerialState σ)) (fifo : c.line.Fifo) :
    (modbusReceiveMsg (win32Device port tv) msgType c).2.2.line.Fifo :=
  (modbusReceiveMsg_preserves ((win32Device_keeps port tv).preserves c) msgType c (.refl c)).2 fifo

end ModbusNet
