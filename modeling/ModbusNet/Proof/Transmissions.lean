import ModbusNet.Model.Loopback
import ModbusNet.Proof.Completions

namespace ModbusNet

variable {σ : Type}

abbrev Attempt := List Byte × Except Errno Nat

def Device.recording (dev : Device σ) : Device (σ × List Attempt) where
  send msg l := ((dev.send msg l.1).1, (dev.send msg l.1).2, l.2 ++ [(msg, (dev.send msg l.1).1)])
  select n l := ((dev.select n l.1).1, (dev.select n l.1).2, l.2)
  recv n l := ((dev.recv n l.1).1, (dev.recv n l.1).2, l.2)
  recvDontwait n l := ((dev.recvDontwait n l.1).1, (dev.recvDontwait n l.1).2, l.2)
  tcflush l := (dev.tcflush l.1, l.2)
  sleep l := (dev.sleep l.1, l.2)
  close l := (dev.close l.1, l.2)
  connect l := ((dev.connect l.1).1, (dev.connect l.1).2, l.2)
  retries := dev.retries

theorem recording_keeps (dev : Device σ) (attempts : List Attempt) :
    dev.recording.Keeps fun l => l.2 = attempts where
  select := fun _ _ same => same
  recv := fun _ _ same => same
  recvDontwait := fun _ _ same => same
  tcflush := fun _ same => same
  sleep := fun _ same => same
  close := fun _ same => same
  connect := fun _ same => same

/-- The attempts to send one message: the failures, and perhaps a success at the end. -/
structure Transmission where
  frame : List Byte
  failures : List Errno
  sent : Option Nat

def Transmission.attempts (t : Transmission) : List Attempt :=
  t.failures.map (fun e => (t.frame, .error e)) ++ t.sent.toList.map fun n => (t.frame, .ok n)

section
variable (dev : Device σ)

theorem recoverSend_attempts (e : Errno) (c : Conn (σ × List Attempt)) (on : c.ctx.linkRecovery) :
    (recoverSend dev.recording e c).line.2 = c.line.2 :=
  (recoverSend_preserves ((recording_keeps dev c.line.2).preserves c) e c on (.refl c)).2 rfl

theorem sendLoop_transmits (msg : List Byte) (fuel : Nat) (c : Conn (σ × List Attempt)) :
    let done := sendLoop dev.recording msg fuel c
    ∃ t : Transmission, t.frame = msg ∧ done.2.line.2 = c.line.2 ++ t.attempts ∧
      (∀ n, done.1 = .ok n → ∃ k : Nat, t.sent = some k ∧ n = k) ∧
      (∀ e, done.1 = .error e → t.sent = none) ∧
      (c.ctx.linkRecovery = false → t.failures.length ≤ 1) ∧
      (done.1 = .error .hang ∨ t.attempts ≠ []) := by
  induction fuel generalizing c with
  | zero =>
      exact ⟨⟨msg, [], none⟩, rfl, (List.append_nil _).symm, fun n ok => (by cases ok), fun _ _ => rfl,
        fun _ => Nat.zero_le _, .inl rfl⟩
  | succ fuel ih =>
      rw [sendLoop]
      have sent : dev.recording.send msg c.line = ((dev.send msg c.line.1).1,
        (dev.send msg c.line.1).2, c.line.2 ++ [(msg, (dev.send msg c.line.1).1)]) := rfl
      cases result : (dev.send msg c.line.1).1 with
      | ok n =>
          rw [sent, result]
          refine ⟨⟨msg, [], some n⟩, rfl, rfl, fun k ok => ⟨n, rfl, ?_⟩, fun e failed => (by cases failed),
            fun _ => Nat.zero_le _, .inr (by simp [Transmission.attempts])⟩
          exact (Except.ok.inj ok).symm
      | error e =>
          rw [sent, result]
          simp only
          set failed : Conn (σ × List Attempt) :=
            { c with line := ((dev.send msg c.line.1).2, c.line.2 ++ [(msg, .error e)]) } with failed_def
          have logged : (if c.ctx.linkRecovery then recoverSend dev.recording e failed else
              failed).line.2 = c.line.2 ++ [(msg, .error e)] := by
            split
            · rename_i on
              exact recoverSend_attempts dev e failed on
            · rfl
          by_cases recovers : c.ctx.linkRecovery
          · rw [if_pos recovers] at logged ⊢
            split
            · obtain ⟨t, frame, attempts, ok, none, -, -⟩ := ih (recoverSend dev.recording e failed)
              refine ⟨{ t with failures := e :: t.failures }, frame, ?_, ok, none, fun off => ?_,
                .inr (by simp [Transmission.attempts])⟩
              · rw [attempts, logged, Transmission.attempts, Transmission.attempts, frame,
                  List.map_cons, List.cons_append, List.append_assoc]
                rfl
              · rw [off] at recovers
                exact absurd recovers Bool.false_ne_true
            · exact ⟨⟨msg, [e], none⟩, rfl, logged, fun n ok => (by cases ok), fun _ _ => rfl,
                fun _ => le_rfl, .inr (by simp [Transmission.attempts])⟩
          · rw [if_neg recovers] at logged ⊢
            rw [if_neg recovers]
            exact ⟨⟨msg, [e], none⟩, rfl, logged, fun n ok => (by cases ok), fun _ _ => rfl,
              fun _ => le_rfl, .inr (by simp [Transmission.attempts])⟩

theorem sendFrame_transmits (msg : List Byte) (c : Conn (σ × List Attempt)) :
    let done := sendFrame dev.recording msg c
    ∃ t : Transmission, t.frame = msg ∧ done.2.line.2 = c.line.2 ++ t.attempts ∧
      (∀ n, done.1 = .ok n → ∃ k : Nat, t.sent = some k ∧ (k = 0 ∨ k = msg.length)) ∧
      (c.ctx.linkRecovery = false → t.failures.length ≤ 1) := by
  obtain ⟨t, frame, attempts, ok, -, once, -⟩ :=
    sendLoop_transmits dev msg (dev.recording.retries + 1) c
  rw [sendFrame]
  cases sent : sendLoop dev.recording msg (dev.recording.retries + 1) c with
  | mk result c' =>
      rw [sent] at attempts ok
      cases result with
      | error e => exact ⟨t, frame, attempts, fun n ok => (by cases ok), once⟩
      | ok n =>
          obtain ⟨k, succeeded, rfl⟩ := ok n rfl
          simp only
          split
          · exact ⟨t, frame, attempts, fun n ok => (by cases ok), once⟩
          · rename_i whole
            exact ⟨t, frame, attempts, fun _ _ => ⟨k, succeeded, by omega⟩, once⟩

theorem exchange_sent {dev : Device σ} {c : Conn σ} {req : List Byte} {done : Int × Option Buffer}
    (succeeded : (exchange dev c req).1 = .ok done) :
    ∃ rc, (sendFrame dev (sendMsgPre c.ctx.backend req) c).1 = .ok rc := by
  rw [exchange] at succeeded
  split at succeeded
  · cases succeeded
  · rename_i rc c₁ sent
    exact ⟨rc, congrArg Prod.fst sent⟩

theorem exchange_transmits (req : List Byte) (c : Conn (σ × List Attempt)) :
    let done := exchange dev.recording c req
    c.ctx.Alike done.2.ctx ∧
      ∃ t : Transmission, t.frame = sendMsgPre c.ctx.backend req ∧
        done.2.line.2 = c.line.2 ++ t.attempts ∧
        (∀ n, done.1 = .ok n → ∃ k : Nat, t.sent = some k ∧ (k = 0 ∨ k = t.frame.length)) ∧
        (c.ctx.linkRecovery = false → t.failures.length ≤ 1) := by
  obtain ⟨t, frame, attempts, ok, once⟩ := sendFrame_transmits dev (sendMsgPre c.ctx.backend req) c
  have alike := sendFrame_alike dev.recording (sendMsgPre c.ctx.backend req) c
  have keeps := recording_keeps dev (c.line.2 ++ t.attempts)
  have kept := exchange_preserves (keeps.preserves _) c req (.refl _)
  refine ⟨alike.trans kept.1, t, frame, kept.2 attempts, fun n succeeded => ?_, once⟩
  obtain ⟨rc, sent⟩ := exchange_sent succeeded
  rw [frame]
  exact ok rc sent

/-- The transmissions of an operation: none when it refuses its arguments, and otherwise one of its
request, which succeeds when the operation does. -/
def ClientOp.Transmits (op : ClientOp) (ctx : Ctx) (rc : Except Failure Int)
    (ts : List Transmission) : Prop :=
  (∃ e, op.refusal = some e ∧ rc = .error (.errno e) ∧ ts = []) ∨
    op.refusal = none ∧ ∃ t : Transmission, ts = [t] ∧ t.frame = op.sentFrame ctx ∧
      (∀ n, rc = .ok n → ∃ k : Nat, t.sent = some k ∧ (k = 0 ∨ k = t.frame.length)) ∧
      (ctx.linkRecovery = false → t.failures.length ≤ 1)

def ClientOp.after (op : ClientOp) (ctx : Ctx) : Ctx :=
  if op.refusal.isSome then ctx else ctx.nextRequest

theorem ClientOp.run_transmits (op : ClientOp) (c : Conn (σ × List Attempt)) :
    let done := op.run dev.recording c
    (op.after c.ctx).Alike done.2.2.ctx ∧ ∃ ts : List Transmission,
      op.Transmits c.ctx done.1 ts ∧
      done.2.2.line.2 = c.line.2 ++ ts.flatMap Transmission.attempts := by
  rcases op.run_sends dev.recording c with ⟨e, refused, run⟩ | ⟨accepted, run⟩
  · rw [run, after, refused]
    exact ⟨.refl _, [], .inl ⟨e, refused, rfl, rfl⟩, (List.append_nil _).symm⟩
  · obtain ⟨alike, t, frame, attempts, ok, once⟩ := exchange_transmits dev
      (requestHeader c.ctx.nextRequest ++ op.pdu) { c with ctx := c.ctx.nextRequest }
    have numbered : ({ c with ctx := c.ctx.nextRequest } : Conn _).ctx = c.ctx.nextRequest := rfl
    rw [numbered] at frame once
    simp only [nextRequest_backend] at frame
    rw [run, after, accepted]
    simp only [finish_conn]
    refine ⟨alike, [t], .inr ⟨accepted, t, rfl, frame, fun n concluded => ?_, fun off => ?_⟩, ?_⟩
    · cases exchanged : exchange dev.recording { c with ctx := c.ctx.nextRequest }
          (requestHeader c.ctx.nextRequest ++ op.pdu) with
      | mk result c' =>
          rw [exchanged] at ok concluded
          cases result with
          | ok values => exact ok values rfl
          | error e => cases concluded
    · apply once
      rw [Ctx.linkRecovery, nextRequest_errorRecovery]
      exact off
    · rw [attempts, List.flatMap_singleton]

inductive Transmits : Ctx → List ClientOp → List (Except Failure Int) → List Transmission → Prop
  | nil (ctx : Ctx) : Transmits ctx [] [] []
  | cons {ctx ctx' : Ctx} {op : ClientOp} {ops : List ClientOp} {rc : Except Failure Int}
      {rcs : List (Except Failure Int)} {ts ts' : List Transmission}
      (first : op.Transmits ctx rc ts) (next : (op.after ctx).Alike ctx')
      (more : Transmits ctx' ops rcs ts') : Transmits ctx (op :: ops) (rc :: rcs) (ts ++ ts')

/-- Whatever the device does, whatever is recovered and in whatever sequence client functions are
called, the attempts to send are the transmissions of the calls, one for each call, in their order:
failures, and at most one success, which ends them and without which the call fails. -/
theorem runOps_transmits (ops : List ClientOp) (c : Conn (σ × List Attempt)) :
    let done := runOps dev.recording ops c
    ∃ ts : List Transmission, Transmits c.ctx ops (done.1.map Prod.fst) ts ∧
      done.2.line.2 = c.line.2 ++ ts.flatMap Transmission.attempts := by
  induction ops generalizing c with
  | nil => exact ⟨[], .nil _, (List.append_nil _).symm⟩
  | cons op ops ih =>
      obtain ⟨alike, ts, transmits, log⟩ := op.run_transmits dev c
      obtain ⟨ts', more, log'⟩ := ih (op.run dev.recording c).2.2
      refine ⟨ts ++ ts', .cons transmits alike more, ?_⟩
      rw [List.flatMap_append, ← List.append_assoc, ← log]
      exact log'

end
end ModbusNet
