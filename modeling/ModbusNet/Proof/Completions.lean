import ModbusNet.Proof.Responses

namespace ModbusNet
namespace ClientOp

/-- One `send` has taken the whole request, a response has been received, and `check_confirmation`
has accepted it. -/
def Completed {σ : Type} (op : ClientOp) (dev : Device σ) (c : Conn σ) : Prop :=
  ∃ line msg c' rc k,
    dev.send (op.sentFrame c.ctx) c.line = (.ok (op.sentFrame c.ctx).length, line) ∧
    modbusReceiveMsg dev .confirmation ⟨c.ctx.nextRequest, line⟩ = (.ok rc, msg, c') ∧
    checkConfirmation dev c' (ofBytes (op.sentFrame c.ctx)) (overlay c'.ctx.uninit msg) rc =
      (.ok k, c')

def SuccessCompletes {σ : Type} (op : ClientOp) (dev : Device σ) (c : Conn σ) : Prop :=
  ∀ n, (op.run dev c).1 = .ok n → 0 < n → op.Completed dev c

theorem nextRequest_errorRecovery (ctx : Ctx) :
    ctx.nextRequest.errorRecovery = ctx.errorRecovery := by
  unfold Ctx.nextRequest
  split <;> rfl

section
variable {σ : Type} {dev : Device σ} {c : Conn σ}

theorem sendFrame_once (msg : List Byte) (off : c.ctx.linkRecovery = false) :
    sendFrame dev msg c =
      match dev.send msg c.line with
      | (.ok n, line) =>
          if 0 < n ∧ n ≠ msg.length then (.error (.errno .embbaddata), { c with line })
          else (.ok n, { c with line })
      | (.error e, line) => (.error (.errno e), { c with line }) := by
  rw [sendFrame, sendLoop]
  cases sent : dev.send msg c.line with
  | mk result line =>
      cases result with
      | ok n =>
          simp only [Nat.cast_pos, ne_eq, Nat.cast_inj]
      | error e =>
          simp only [off, Bool.false_eq_true, if_false]

inductive SendCase (op : ClientOp) (dev : Device σ) (c : Conn σ) : Prop
  | failed {e : Failure} (sent : (dev.send (op.sentFrame c.ctx) c.line).1 ≠ .ok 0)
      (result : (op.run dev c).1 = .error e)
  | nothing (sent : (dev.send (op.sentFrame c.ctx) c.line).1 = .ok 0)
      (result : (op.run dev c).1 = .ok (op.returned 0))
  | full (line : σ)
      (sent : dev.send (op.sentFrame c.ctx) c.line = (.ok (op.sentFrame c.ctx).length, line))
      (whole : op.SentInFull dev c ⟨c.ctx.nextRequest, line⟩)

theorem sendCase (op : ClientOp) (accepted : op.refusal = none) (off : c.ctx.errorRecovery = 0) :
    op.SendCase dev c := by
  have unlinked : c.ctx.nextRequest.linkRecovery = false := by
    rw [Ctx.linkRecovery, nextRequest_errorRecovery, off]
    rfl
  have framed : sendMsgPre c.ctx.nextRequest.backend (requestHeader c.ctx.nextRequest ++ op.pdu) =
      op.sentFrame c.ctx := by rw [nextRequest_backend, sentFrame]
  rcases op.run_sends dev c with ⟨e, refused, -⟩ | ⟨-, run⟩
  · rw [accepted] at refused
    cases refused
  · have once := @sendFrame_once σ dev { c with ctx := c.ctx.nextRequest } (op.sentFrame c.ctx)
      unlinked
    cases sent : dev.send (op.sentFrame c.ctx) c.line with
    | mk result line =>
        rw [show dev.send (op.sentFrame c.ctx) ({ c with ctx := c.ctx.nextRequest } : Conn σ).line =
          _ from sent] at once
        cases result with
        | error e =>
            refine .failed (e := .errno e) (by simp [sent]) ?_
            rw [run, exchange, framed, once]
            rfl
        | ok n =>
            simp only at once
            by_cases short : 0 < n ∧ n ≠ (op.sentFrame c.ctx).length
            · refine .failed (e := .errno .embbaddata) (fun nothing => ?_) ?_
              · rw [sent] at nothing
                exact absurd (Except.ok.inj nothing) (Nat.pos_iff_ne_zero.mp short.1)
              rw [run, exchange, framed, once, if_pos short]
              rfl
            · rw [if_neg short] at once
              rcases Nat.eq_zero_or_pos n with rfl | positive
              · refine .nothing (by rw [sent]) ?_
                rw [run, exchange, framed, once]
                rfl
              · have whole : n = (op.sentFrame c.ctx).length := by tauto
                rw [whole] at sent once
                exact .full line sent ⟨accepted, once⟩

end

theorem returned_nothing (op : ClientOp) (valid : op.InRange) :
    0 < op.returned 0 ↔ op.ReadsBits := by
  cases op with
  | readBits addr nb dest => exact iff_of_true (Int.lt_of_lt_of_le Int.one_pos valid.2.1) trivial
  | readInputBits addr nb dest =>
      exact iff_of_true (Int.lt_of_lt_of_le Int.one_pos valid.2.1) trivial
  | _ => exact iff_of_false (lt_irrefl 0) id

/-- With error recovery off, a call whose result is positive is completed, exactly when it does not
read bits or `send` does not return 0. -/
theorem completed_iff {σ : Type} (op : ClientOp) (valid : op.InRange) (dev : Device σ) (c : Conn σ)
    (off : c.ctx.errorRecovery = 0) :
    op.SuccessCompletes dev c ↔
      ¬ (op.ReadsBits ∧ (dev.send (op.sentFrame c.ctx) c.line).1 = .ok 0) := by
  constructor
  · rintro completes ⟨reads, nothing⟩
    have nonempty := (op.sentFrame_carries c.ctx).nonempty
    have step : op.SendCase dev c := op.sendCase (op.refusal_none valid) off
    cases step with
    | failed sent => exact sent nothing
    | nothing _ result =>
        obtain ⟨line, -, -, -, -, whole, -⟩ :=
          completes _ result ((op.returned_nothing valid).mpr reads)
        rw [whole] at nothing
        exact nonempty (List.length_eq_zero_iff.mp (Except.ok.inj nothing))
    | full line sent =>
        rw [sent] at nothing
        exact nonempty (List.length_eq_zero_iff.mp (Except.ok.inj nothing))
  · intro sends n success positive
    have step : op.SendCase dev c := op.sendCase (op.refusal_none valid) off
    cases step with
    | failed _ result =>
        rw [result] at success
        cases success
    | nothing sent result =>
        rw [result] at success
        rw [← Except.ok.inj success] at positive
        exact absurd ⟨(op.returned_nothing valid).mp positive, sent⟩ sends
    | full line sent whole =>
        obtain ⟨rc, k, msg, c', received, judged, -⟩ := whole.confirmed success
        have same := (modbusReceiveMsg_ok dev received).1
        refine ⟨line, msg, c', rc, k, sent, received, ?_⟩
        rw [checkConfirmation, same, whole.backend, whole.uninit, judged]

theorem completed_iff_readRegisters :
    (ClientOp.readRegisters 0 1 fun _ => 0).SuccessCompletes logDevice (.established newTcp []) :=
  (completed_iff _ (by decide) logDevice _ rfl).mpr fun unsent => unsent.1

def fullReact : React Unit := fun _ peer => (.ok 0, [], peer)

theorem bits_read_unsent :
    let c : Conn (Line Unit) := .established newTcp ()
    ((ClientOp.readBits 0 8 fun _ => 0).run (lineDevice fullReact) c).1 = .ok 8 ∧
      ((ClientOp.readBits 0 8 fun _ => 0).run (lineDevice fullReact) c).2.2.line = c.line ∧
      ¬ (ClientOp.readBits 0 8 fun _ => 0).SuccessCompletes (lineDevice fullReact) c := by
  refine ⟨rfl, rfl, fun completes => ?_⟩
  obtain ⟨line, -, -, -, -, whole, -⟩ := completes 8 rfl (by decide)
  cases whole

end ClientOp
end ModbusNet
