import ModbusNet.Model.Line
import ModbusNet.Model.Setup

namespace ModbusNet

variable {σ : Type} {dev : Device σ} {pending : σ → Nat}

structure Device.DontWait (dev : Device σ) (pending : σ → Nat) : Prop where
  nothing : ∀ n line, pending line = 0 →
    ∃ e after, dev.recvDontwait n line = (.error e, after) ∧ pending after = 0
  something : ∀ n line, 0 < pending line →
    ∃ bytes after, dev.recvDontwait n line = (.ok bytes, after) ∧
      bytes.val.length = min n (pending line) ∧ pending after = pending line - min n (pending line)

def Conn.overflowed (c : Conn σ) (after : σ) : Conn σ :=
  { ctx := { c.ctx with errorRecovery := errorRecoveryProtocol }, line := after }

theorem modbusTcpFlushLoop_returns (dev : Device σ) (fuel rcSum : Nat) (c : Conn σ)
    (counted : rcSum ≤ 65535) (enough : 65535 < rcSum + 260 * fuel) :
    (modbusTcpFlushLoop dev fuel rcSum c).1 ≠ .error .hang := by
  induction fuel generalizing rcSum c with
  | zero => omega
  | succ fuel ih =>
      rw [modbusTcpFlushLoop]
      split
      · simp
      · dsimp only
        split_ifs with overflow full
        · simp
        · have size : tcpMaxAduLength = 260 := rfl
          apply ih <;> omega
        · simp

theorem modbusTcpFlush_returns (dev : Device σ) (c : Conn σ) :
    (modbusTcpFlush dev c).1 ≠ .error .hang := by
  apply modbusTcpFlushLoop_returns <;> omega

theorem modbusTcpFlushLoop_round (socket : dev.DontWait pending) (c : Conn σ)
    (some : 0 < pending c.line) :
    ∃ after, pending after = pending c.line - 260 ∧ ∀ fuel rcSum,
      modbusTcpFlushLoop dev (fuel + 1) rcSum c =
        if 65535 < rcSum + min 260 (pending c.line) then
          (.error (.errno .eoverflow), c.overflowed after)
        else if 260 ≤ pending c.line then
          modbusTcpFlushLoop dev fuel (rcSum + 260) { c with line := after }
        else (.ok (rcSum + pending c.line : Nat), { c with line := after }) := by
  obtain ⟨bytes, after, received, length, rest⟩ := socket.something tcpMaxAduLength c.line some
  have size : tcpMaxAduLength = 260 := rfl
  refine ⟨after, by omega, ?_⟩
  intro fuel rcSum
  rw [modbusTcpFlushLoop, received]
  simp only [length, size]
  by_cases overflow : 65535 < rcSum + min 260 (pending c.line)
  · rw [if_pos overflow, if_pos (by omega)]
    rfl
  · rw [if_neg overflow, if_neg (by omega)]
    by_cases full : 260 ≤ pending c.line
    · have whole : min 260 (pending c.line) = 260 := by omega
      rw [if_pos full, whole, if_pos rfl]
    · have last : min 260 (pending c.line) = pending c.line := by omega
      rw [if_neg full, last, if_neg (by omega)]

theorem modbusTcpFlushLoop_ends (socket : dev.DontWait pending) (fuel rcSum : Nat) (c : Conn σ)
    (counted : rcSum ≤ 65535) (enough : 65535 < rcSum + 260 * fuel) :
    (rcSum + pending c.line ≤ 65535 → ∃ after, pending after = 0 ∧
      modbusTcpFlushLoop dev fuel rcSum c =
        (.ok (rcSum + pending c.line : Nat), { c with line := after })) ∧
    (65535 < rcSum + pending c.line → ∃ after,
      modbusTcpFlushLoop dev fuel rcSum c =
        (.error (.errno .eoverflow), c.overflowed after)) := by
  induction fuel generalizing rcSum c with
  | zero => omega
  | succ fuel ih =>
      by_cases empty : pending c.line = 0
      · obtain ⟨e, after, refused, drained⟩ := socket.nothing tcpMaxAduLength c.line empty
        constructor
        · intro _
          refine ⟨after, drained, ?_⟩
          rw [modbusTcpFlushLoop, refused, empty]
          rfl
        · intro overflow
          omega
      · obtain ⟨after, rest, round⟩ :=
          modbusTcpFlushLoop_round socket c (Nat.pos_of_ne_zero empty)
        by_cases overflow : 65535 < rcSum + min 260 (pending c.line)
        · constructor
          · intro counts
            omega
          · intro _
            refine ⟨after, ?_⟩
            rw [round, if_pos overflow]
        · by_cases full : 260 ≤ pending c.line
          -- What is counted and what is pending have the same sum in every round.
          · have same : rcSum + 260 + pending after = rcSum + pending c.line := by omega
            obtain ⟨drains, stops⟩ :=
              ih (rcSum + 260) { c with line := after } (by omega) (by omega)
            simp only [same] at drains stops
            rw [round, if_neg overflow, if_pos full]
            exact ⟨drains, stops⟩
          · constructor
            · intro _
              have drained : pending after = 0 := by
                rw [rest]
                exact Nat.sub_eq_zero_of_le (Nat.le_of_not_le full)
              refine ⟨after, drained, ?_⟩
              rw [round, if_neg overflow, if_neg full]
            · intro too_many
              omega

theorem modbusTcpFlush_drains (socket : dev.DontWait pending) (c : Conn σ)
    (counts : pending c.line ≤ 65535) :
    ∃ after, pending after = 0 ∧
      modbusTcpFlush dev c = (.ok (pending c.line), { c with line := after }) := by
  have ends := (modbusTcpFlushLoop_ends socket 254 0 c (by omega) (by omega)).1
  rw [Nat.zero_add] at ends
  exact ends counts

theorem modbusTcpFlush_overflow (socket : dev.DontWait pending) (c : Conn σ)
    (overflow : 65535 < pending c.line) :
    ∃ after, modbusTcpFlush dev c = (.error (.errno .eoverflow), c.overflowed after) := by
  have ends := (modbusTcpFlushLoop_ends socket 254 0 c (by omega) (by omega)).2
  rw [Nat.zero_add] at ends
  exact ends overflow

structure Conn.FlushedAfter (dev : Device σ) (msg : List Byte) (e : Errno) (before c : Conn σ) :
    Prop where
  tcp : before.ctx.backend = .tcp
  recovers : before.ctx.linkRecovery = true
  stays : ¬ (e = .ebadf ∨ e = .econnreset ∨ e = .epipe)
  failed : ∃ line, dev.send msg before.line = (.error e, line) ∧
    sleepResponseTimeout dev { before with line } = c

theorem sendLoop_flushed {msg : List Byte} {e : Errno} {before c : Conn σ}
    (flushed : before.FlushedAfter dev msg e c) (fuel : Nat) :
    sendLoop dev msg (fuel + 1) before =
      if (modbusTcpFlush dev c).2.ctx.linkRecovery then
        sendLoop dev msg fuel (modbusTcpFlush dev c).2
      else (.error (.errno e), (modbusTcpFlush dev c).2) := by
  obtain ⟨line, sent, rfl⟩ := flushed.failed
  have tcp : (sleepResponseTimeout dev { before with line }).ctx.backend = .tcp := flushed.tcp
  rw [sendLoop, sent]
  simp only [flushed.recovers, if_true, recoverSend, if_neg flushed.stays, sleepAndFlush,
    modbusFlush, tcp]

theorem sendLoop_overflow (socket : dev.DontWait pending) {msg : List Byte} {e : Errno}
    {before c : Conn σ} (flushed : before.FlushedAfter dev msg e c)
    (overflow : 65535 < pending c.line) (fuel : Nat) :
    ∃ after, sendLoop dev msg (fuel + 1) before = (.error (.errno e), c.overflowed after) := by
  obtain ⟨after, stopped⟩ := modbusTcpFlush_overflow socket c overflow
  have lost : (c.overflowed after).ctx.linkRecovery = false := by
    simp [Conn.overflowed, Ctx.linkRecovery, errorRecoveryProtocol, errorRecoveryLink]
  refine ⟨after, ?_⟩
  rw [sendLoop_flushed flushed, stopped]
  simp only [lost, Bool.false_eq_true, if_false]

/-- A flush does what it is for: it ends with a count, nothing is pending, the error recovery is as
it was, and a `send_msg` that recovers the link sends again. -/
structure FlushesAll (dev : Device σ) (pending : σ → Nat) (c : Conn σ) : Prop where
  counts : ∃ count : Int, 0 ≤ count ∧ (modbusTcpFlush dev c).1 = .ok count
  drains : pending (modbusTcpFlush dev c).2.line = 0
  configured : (modbusTcpFlush dev c).2.ctx.errorRecovery = c.ctx.errorRecovery
  retries : ∀ msg e before fuel, before.FlushedAfter dev msg e c →
    sendLoop dev msg (fuel + 1) before = sendLoop dev msg fuel (modbusTcpFlush dev c).2

theorem not_flushesAll_of_overflow (socket : dev.DontWait pending) (c : Conn σ)
    (overflow : 65535 < pending c.line) : ¬ FlushesAll dev pending c := by
  rintro ⟨⟨count, _, counted⟩, _, _, _⟩
  obtain ⟨after, stopped⟩ := modbusTcpFlush_overflow socket c overflow
  rw [stopped] at counted
  cases counted

theorem modbusTcpFlush_flushesAll_iff (socket : dev.DontWait pending) (c : Conn σ) :
    FlushesAll dev pending c ↔ pending c.line ≤ 65535 := by
  constructor
  · intro flushes
    by_contra overflow
    exact not_flushesAll_of_overflow socket c (by omega) flushes
  · intro counts
    obtain ⟨after, drained, flushed⟩ := modbusTcpFlush_drains socket c counts
    refine ⟨⟨pending c.line, by omega, ?_⟩, ?_, ?_, ?_⟩
    · rw [flushed]
    · rw [flushed]
      exact drained
    · rw [flushed]
    · intro msg e before fuel reached
      have mode : (modbusTcpFlush dev c).2.ctx.linkRecovery = true := by
        obtain ⟨line, _, rfl⟩ := reached.failed
        rw [flushed]
        exact reached.recovers
      rw [sendLoop_flushed reached, if_pos mode]

theorem lineDevice_dontWait {π : Type} (react : React π) :
    (lineDevice react).DontWait fun l => l.incoming.queued.length where
  nothing := by
    intro n l empty
    refine ⟨.eagain, l, ?_, empty⟩
    simp only [lineDevice, List.eq_nil_of_length_eq_zero empty, if_true]
  something := by
    intro n l some
    refine ⟨⟨l.incoming.queued.take n, List.length_take_le _ _⟩, (lineRecv n l).2, ?_,
      List.length_take, ?_⟩
    · simp only [lineDevice, List.ne_nil_of_length_pos some, if_false]
      rfl
    · simp only [lineRecv, Incoming.take, List.length_drop]
      omega

def backlog (n : Nat) : Conn (Line Log) :=
  ⟨{ newTcp with s := 3, errorRecovery := errorRecoveryLink }, ⟨⟨List.replicate n 0, []⟩, []⟩⟩

theorem flushesAll_backlog :
    FlushesAll logDevice (fun l => l.incoming.queued.length) (backlog 65535) :=
  (modbusTcpFlush_flushesAll_iff (lineDevice_dontWait logReact) (backlog 65535)).2
    List.length_replicate.le

theorem backlog_overflows :
    ¬ FlushesAll logDevice (fun l => l.incoming.queued.length) (backlog 65536) :=
  not_flushesAll_of_overflow (lineDevice_dontWait logReact) (backlog 65536)
    (Nat.lt_of_lt_of_eq (Nat.lt_succ_self 65535) List.length_replicate.symm)

end ModbusNet
