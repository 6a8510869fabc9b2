import ModbusNet.Proof.ClientEncoding
import ModbusNet.Proof.Frames
import ModbusNet.Proof.Splitting

namespace ModbusNet

/-! ## Sent requests -/

namespace ClientOp

def sentFrame (op : ClientOp) (ctx : Ctx) : List Byte :=
  sendMsgPre ctx.backend (requestHeader ctx.nextRequest ++ op.pdu)

structure SentInFull {σ : Type} (op : ClientOp) (dev : Device σ) (c c' : Conn σ) : Prop where
  accepted : op.refusal = none
  whole : sendFrame dev (op.sentFrame c.ctx) { c with ctx := c.ctx.nextRequest } =
    (.ok (op.sentFrame c.ctx).length, c')

inductive Ends {σ : Type} (op : ClientOp) (dev : Device σ) (c c' : Conn σ) :
    Except Failure Int × Dest × Conn σ → Prop
  | unanswered {e : Failure} {msg : List Byte} {c'' : Conn σ}
      (received : modbusReceiveMsg dev .confirmation c' = (.error e, msg, c'')) :
      Ends op dev c c' (.error e, op.dest, c'')
  | rejected {rc : Int} {msg : List Byte} {c'' c₃ : Conn σ} {e : Errno} {recover : Bool}
      (received : modbusReceiveMsg dev .confirmation c' = (.ok rc, msg, c''))
      (judged : judgeConfirmation c.ctx.backend (ofBytes (op.sentFrame c.ctx))
        (overlay c.ctx.uninit msg) rc = .error (e, recover)) :
      Ends op dev c c' (.error (.errno e), op.dest, c₃)
  | confirmed {rc k : Int} {msg : List Byte} {c'' : Conn σ}
      (received : modbusReceiveMsg dev .confirmation c' = (.ok rc, msg, c''))
      (judged : judgeConfirmation c.ctx.backend (ofBytes (op.sentFrame c.ctx))
        (overlay c.ctx.uninit msg) rc = .ok k) :
      Ends op dev c c' (.ok (op.returned k), op.filled c.ctx.backend k (overlay c.ctx.uninit msg), c'')

theorem sentFrame_carries (op : ClientOp) (ctx : Ctx) :
    Carries ctx.backend (op.sentFrame ctx) op.pdu := op.sent_carries ctx

theorem nextRequest_uninit (ctx : Ctx) : ctx.nextRequest.uninit = ctx.uninit := by
  unfold Ctx.nextRequest
  split <;> rfl

section
variable {σ : Type} {op : ClientOp} {dev : Device σ} {c c' : Conn σ}
  (sent : op.SentInFull dev c c')
include sent

theorem SentInFull.alike : c.ctx.nextRequest.Alike c'.ctx := by
  have sending := sendFrame_alike dev (op.sentFrame c.ctx) { c with ctx := c.ctx.nextRequest }
  rwa [sent.whole] at sending

theorem SentInFull.backend : c'.ctx.backend = c.ctx.backend := by
  rw [sent.alike.backend, nextRequest_backend]

theorem SentInFull.slave : c'.ctx.slave = c.ctx.slave := by
  rw [sent.alike.slave, nextRequest_slave]

theorem SentInFull.uninit : c'.ctx.uninit = c.ctx.uninit := by
  obtain ⟨s, errorRecovery, same⟩ := sent.alike
  rw [same]
  exact nextRequest_uninit c.ctx

theorem SentInFull.run_ends : op.Ends dev c c' (op.run dev c) := by
  rcases op.run_sends dev c with ⟨e, refused, -⟩ | ⟨-, run⟩
  · rw [sent.accepted] at refused
    cases refused
  · have positive : (0 : Int) < (op.sentFrame c.ctx).length := by
      exact_mod_cast List.length_pos_iff.mpr (op.sentFrame_carries c.ctx).nonempty
    have framed : sendMsgPre c.ctx.nextRequest.backend (requestHeader c.ctx.nextRequest ++ op.pdu) =
        op.sentFrame c.ctx := by rw [nextRequest_backend, sentFrame]
    rw [run, exchange]
    simp only [framed]
    rw [sent.whole]
    simp only
    rw [if_pos positive]
    cases received : modbusReceiveMsg dev .confirmation c' with
    | mk result rest =>
        obtain ⟨msg, c''⟩ := rest
        cases result with
        | error e => exact .unanswered received
        | ok rc =>
            have same := (modbusReceiveMsg_ok dev received).1
            have backend : c''.ctx.backend = c.ctx.backend := by rw [same, sent.backend]
            have uninit : c''.ctx.uninit = c.ctx.uninit := by rw [same, sent.uninit]
            simp only [checkConfirmation, backend, uninit]
            cases judged : judgeConfirmation c.ctx.backend (ofBytes (op.sentFrame c.ctx))
                (overlay c.ctx.uninit msg) rc with
            | error failed => exact .rejected received judged
            | ok k =>
                simp only [finish, backend]
                exact .confirmed received judged

theorem SentInFull.confirmed {n : Int} (success : (op.run dev c).1 = .ok n) :
    ∃ rc k msg c'', modbusReceiveMsg dev .confirmation c' = (.ok rc, msg, c'') ∧
      judgeConfirmation c.ctx.backend (ofBytes (op.sentFrame c.ctx)) (overlay c.ctx.uninit msg) rc =
        .ok k ∧
      n = op.returned k := by
  have ends := sent.run_ends
  generalize op.run dev c = result at success ends
  cases ends with
  | unanswered => cases success
  | rejected => cases success
  | confirmed received judged => exact ⟨_, _, _, _, received, judged, (Except.ok.inj success).symm⟩

end

def answerReact (frame : List Byte) : React Unit := fun msg peer =>
  (.ok msg.length, (frame.map Signal.item).map Signal.arrival, peer)

theorem run_answered (op : ClientOp) (accepted : op.refusal = none) (ctx : Ctx)
    (connected : ctx.isConnected) (frame : List Byte)
    (delimits : Delimits ctx.backend .confirmation (ofBytes frame) frame.length) {rc k : Int}
    (checked : integrity ctx.nextRequest frame = .ok rc)
    (judged : judgeConfirmation ctx.backend (ofBytes (op.sentFrame ctx)) (overlay ctx.uninit frame) rc =
      .ok k) :
    ∃ c' c'', op.SentInFull (lineDevice (answerReact frame)) ⟨ctx, ⟨⟨[], []⟩, ()⟩⟩ c' ∧
      modbusReceiveMsg (lineDevice (answerReact frame)) .confirmation c' = (.ok rc, frame, c'') ∧
      (op.run (lineDevice (answerReact frame)) ⟨ctx, ⟨⟨[], []⟩, ()⟩⟩).1 = .ok (op.returned k) := by
  set c : Conn (Line Unit) := ⟨ctx, ⟨⟨[], []⟩, ()⟩⟩
  set c' : Conn (Line Unit) :=
    ⟨ctx.nextRequest, ⟨⟨[], (frame.map Signal.item).map Signal.arrival⟩, ()⟩⟩
  have sent : op.SentInFull (lineDevice (answerReact frame)) c c' :=
    ⟨accepted, sendFrame_line _ _ _ rfl⟩
  have signals : c'.line.incoming.signals = frame.map .item ++ [] := by
    rw [List.append_nil]
    exact arrivals_signals _
  have connected' : c'.ctx.isConnected := by
    unfold c' Ctx.nextRequest
    split <;> exact connected
  obtain ⟨incoming, -, received⟩ := modbusReceiveMsg_frame (answerReact frame) .confirmation frame []
    c' connected' (by rw [sent.backend]; exact delimits) signals
  rw [checkIntegrity_fst, withIncoming_ctx, show integrity c'.ctx frame = .ok rc from checked] at received
  refine ⟨c', _, sent, received, ?_⟩
  have ends := sent.run_ends
  generalize op.run (lineDevice (answerReact frame)) c = result at ends
  cases ends with
  | unanswered silent =>
      rw [received] at silent
      cases silent
  | rejected received' judged' =>
      rw [received] at received'
      cases received'
      cases judged.symm.trans judged'
  | confirmed received' judged' =>
      rw [received] at received'
      cases received'
      cases judged.symm.trans judged'
      rfl

/-! ## Verified responses -/

theorem pdu_head (op : ClientOp) : (ofBytes op.pdu 0).toNat = op.request.function := by
  cases op <;> rfl

theorem sentFrame_function (op : ClientOp) (ctx : Ctx) :
    (ofBytes (op.sentFrame ctx) ctx.backend.headerLength).toNat = op.request.function := by
  have contains : Contains ctx.backend (ofBytes (op.sentFrame ctx)) op.pdu :=
    (op.sentFrame_carries ctx).contains fun _ _ => rfl
  rw [← pdu_head, contains.function]
  cases op <;> exact Nat.succ_pos _

theorem judged_values {op : ClientOp} {ctx : Ctx} {rsp : Buffer} {rc k : Int}
    (judged : judgeConfirmation ctx.backend (ofBytes (op.sentFrame ctx)) rsp rc = .ok k) :
    ∃ m : Nat, k = m ∧ (rsp ctx.backend.headerLength).toNat = op.request.function ∧
      rsp ctx.backend.headerLength = ofBytes (op.sentFrame ctx) ctx.backend.headerLength ∧
      confirmedValues ctx.backend (ofBytes (op.sentFrame ctx)) rsp = (m, m, true, true) := by
  obtain ⟨-, same, -, m, rfl, values⟩ := judgeConfirmation_ok judged
  exact ⟨m, rfl, by rw [same, op.sentFrame_function], same, values⟩

def ReportsSlaveId (op : ClientOp) : Prop :=
  ∃ maxDest dest, op = .reportSlaveId maxDest dest ∧ 0 < maxDest

/-- A call over RTU that succeeds after its request has been sent in full has used a response with a
correct checksum, and if the request is no broadcast, one of the slave. -/
def Verified (op : ClientOp) (slave : Int) : Prop :=
  ∀ (σ : Type) (dev : Device σ) (c c' : Conn σ) (n : Int), c.ctx.backend = .rtu →
    c.ctx.slave = slave → op.SentInFull dev c c' → (op.run dev c).1 = .ok n →
    ∃ rc msg c'', modbusReceiveMsg dev .confirmation c' = (.ok rc, msg, c'') ∧ crcMatches msg = true ∧
      (slave = broadcastAddress ∨ ((msg.getD 0 0).toNat : Int) = slave)

theorem computeResponseLength_pos (b : Backend) (req : Buffer)
    (known : (req b.headerLength).toNat ≠ fcReportSlaveId) :
    b.headerLength + 2 + b.checksumLength ≤ computeResponseLengthFromRequest b req := by
  simp only [computeResponseLengthFromRequest]
  rw [if_neg known]
  split_ifs <;> omega

theorem reportsSlaveId_of_function {op : ClientOp} (function : op.request.function = fcReportSlaveId)
    (accepted : op.refusal = none) : op.ReportsSlaveId := by
  cases op with
  | reportSlaveId maxDest dest =>
      refine ⟨maxDest, dest, rfl, ?_⟩
      by_contra refused
      rw [refusal, if_pos (not_lt.mp refused)] at accepted
      cases accepted
  | readBits => cases function
  | readInputBits => cases function
  | readRegisters => cases function
  | readInputRegisters => cases function
  | writeBit => cases function
  | writeRegister => cases function
  | writeBits => cases function
  | writeRegisters => cases function
  | maskWriteRegister => cases function
  | writeAndReadRegisters => cases function

theorem preCheckConfirmation_rtu {req rsp : Buffer}
    (checked : preCheckConfirmation .rtu req rsp = .ok ()) :
    req 0 = rsp 0 ∨ (req 0).toNat = broadcastAddress := by
  rw [preCheckConfirmation, modbusRtuPreCheckConfirmation] at checked
  split at checked
  · cases checked
  · tauto

theorem verified_of {op : ClientOp} {slave : Int} (range : 0 ≤ slave ∧ slave ≤ 255)
    (otherwise : ¬ (slave = broadcastAddress ∧ op.ReportsSlaveId)) : op.Verified slave := by
  intro σ dev c c' n backend same sent success
  obtain ⟨rc, k, msg, c'', received, judged, -⟩ := sent.confirmed success
  refine ⟨rc, msg, c'', received, ?_⟩
  obtain ⟨s, rfl⟩ := Int.eq_ofNat_of_zero_le range.1
  have delimits := (modbusReceiveMsg_ok dev received).2.1
  rw [sent.backend, backend] at delimits
  have positive : 0 < msg.length :=
    (Nat.zero_lt_of_lt (headLength_pos .rtu .confirmation (ofBytes msg))).trans_le delimits.head_le
  rw [backend] at judged
  obtain ⟨checked, -, length, -⟩ := judgeConfirmation_ok judged
  have asked : (ofBytes (op.sentFrame c.ctx) 0).toNat = s := by
    have head : ofBytes (op.sentFrame c.ctx) 0 = loByte s := by
      rw [sentFrame, backend, requestHeader, nextRequest_backend, backend, nextRequest_slave, same]
      rfl
    rw [head]
    exact loByte_toNat s (by omega)
  have answered : overlay c.ctx.uninit msg 0 = msg.getD 0 0 :=
    overlay_agree c.ctx.uninit msg 0 positive
  have own : s = broadcastAddress ∨ (msg.getD 0 0).toNat = s := by
    rcases preCheckConfirmation_rtu checked with equal | broadcast
    · exact .inr (by rw [← answered, ← equal, asked])
    · exact .inl (asked.symm.trans broadcast)
  rcases integrity_rtu (sent.backend.trans backend) (modbusReceiveMsg_integrity received) with
    ⟨unicast, foreign, ignored⟩ | accepts
  · rw [sent.slave, same] at foreign
    have broadcast : s = broadcastAddress := own.resolve_right fun equal => foreign (by rw [equal])
    have unknown : (ofBytes (op.sentFrame c.ctx) 1).toNat = fcReportSlaveId := by
      by_contra known
      have long := computeResponseLength_pos .rtu _ known
      rcases length with computed | undefined
      · omega
      · rw [undefined, msgLengthUndefined] at long
        omega
    have function := op.sentFrame_function c.ctx
    rw [backend] at function
    exact absurd ⟨congrArg _ broadcast, reportsSlaveId_of_function (function.symm.trans unknown)
      sent.accepted⟩ otherwise
  · exact ⟨accepts.2, by omega⟩

def foreignReport : List Byte := [5, 0x11, 1, 0xFF, 0, 0]

def broadcaster : Ctx := { newRtu 0 with s := 3 }

theorem report_unverified (maxDest : Int) (dest : Buffer) (positive : 0 < maxDest) :
    ∃ c', (reportSlaveId maxDest dest).SentInFull (lineDevice (answerReact foreignReport))
        ⟨broadcaster, ⟨⟨[], []⟩, ()⟩⟩ c' ∧
      (modbusReceiveMsg (lineDevice (answerReact foreignReport)) .confirmation c').2.1 = foreignReport ∧
      ((reportSlaveId maxDest dest).run (lineDevice (answerReact foreignReport))
        ⟨broadcaster, ⟨⟨[], []⟩, ()⟩⟩).1 = .ok 1 := by
  have judged : judgeConfirmation .rtu (ofBytes (sendMsgPre .rtu [0, 0x11]))
      (overlay (fun _ => 0) foreignReport) 0 = .ok 1 := by decide +kernel
  have ignored : integrity broadcaster.nextRequest foreignReport = .ok 0 := by decide +kernel
  obtain ⟨c', c'', sent, received, run⟩ := run_answered (.reportSlaveId maxDest dest)
    (if_neg (not_le.mpr positive)) broadcaster rfl foreignReport ⟨by decide, by decide⟩ ignored judged
  exact ⟨c', sent, by rw [received], run⟩

theorem report_not_verified (maxDest : Int) (dest : Buffer) (positive : 0 < maxDest) :
    ¬ (reportSlaveId maxDest dest).Verified broadcastAddress := by
  intro verified
  obtain ⟨c', sent, msg, run⟩ := report_unverified maxDest dest positive
  obtain ⟨rc, msg', c'', received, crc, -⟩ := verified _ _ _ _ _ rfl rfl sent run
  rw [received] at msg
  rw [show msg' = foreignReport from msg] at crc
  exact absurd crc (by decide +kernel)

theorem verified_iff (op : ClientOp) {ctx ctx' : Ctx} {slave : Int}
    (accepted : modbusSetSlave ctx slave = .ok ctx') :
    op.Verified slave ↔ ¬ (slave = broadcastAddress ∧ op.ReportsSlaveId) := by
  constructor
  · rintro verified ⟨rfl, maxDest, dest, rfl, positive⟩
    exact report_not_verified maxDest dest positive verified
  · exact verified_of (modbusSetSlave_range accepted).2

theorem verified_iff_readRegisters : (ClientOp.readRegisters 0 1 fun _ => 0).Verified 17 := by
  have accepted : modbusSetSlave (newRtu 1) 17 = .ok (newRtu 17) := rfl
  refine (verified_iff _ accepted).mpr ?_
  rintro ⟨broadcast, -⟩
  exact absurd broadcast (by decide)

theorem broadcast_report_unverified :
    modbusSetSlave (newRtu 1) 0 = .ok (newRtu 0) ∧ crcMatches foreignReport = false ∧
      ((reportSlaveId 8 fun _ => 0).run (lineDevice (answerReact foreignReport))
        ⟨broadcaster, ⟨⟨[], []⟩, ()⟩⟩).1 = .ok 1 ∧ ¬ (reportSlaveId 8 fun _ => 0).Verified 0 := by
  obtain ⟨c', -, -, run⟩ := report_unverified 8 (fun _ => 0) (by decide)
  exact ⟨rfl, by decide +kernel, run, report_not_verified 8 _ (by decide)⟩

/-! ## Repeated requests -/

def Writes : ClientOp → Prop
  | .writeBit .. | .writeRegister .. | .writeBits .. | .writeRegisters .. | .maskWriteRegister .. => True
  | _ => False

def IsMask (op : ClientOp) : Prop := ∃ addr andMask orMask, op = .maskWriteRegister addr andMask orMask

def repeated : ClientOp → Nat
  | .maskWriteRegister .. => 7
  | _ => 5

def Echoes (op : ClientOp) (b : Backend) (frame msg : List Byte) : Prop :=
  b.headerLength + op.repeated ≤ msg.length ∧
    bytesAt (ofBytes msg) b.headerLength op.repeated = bytesAt (ofBytes frame) b.headerLength op.repeated

/-- A call that returns a positive value after its request has been sent in full has used a response
that repeats the request. -/
def Echoed (op : ClientOp) (b : Backend) : Prop :=
  ∀ (σ : Type) (dev : Device σ) (c c' : Conn σ) (n : Int), c.ctx.backend = b →
    op.SentInFull dev c c' → (op.run dev c).1 = .ok n → 0 < n →
    ∃ rc msg c'', modbusReceiveMsg dev .confirmation c' = (.ok rc, msg, c'') ∧
      op.Echoes b (op.sentFrame c.ctx) msg

theorem bytes_of_be16 {x y : Buffer} {i : Nat} (same : be16 x i = be16 y i) :
    x i = y i ∧ x (i + 1) = y (i + 1) := by
  have hi := (x (i + 1)).isLt
  have hi' := (y (i + 1)).isLt
  simp only [be16, beWord] at same
  exact ⟨BitVec.eq_of_toNat_eq (by omega), BitVec.eq_of_toNat_eq (by omega)⟩

theorem confirmedValues_write {b : Backend} {req rsp : Buffer} {m : Nat}
    (function : (rsp b.headerLength).toNat ∈ [fcWriteSingleCoil, fcWriteSingleRegister,
      fcWriteMultipleCoils, fcWriteMultipleRegisters])
    (values : confirmedValues b req rsp = (m, m, true, true)) :
    be16 req (b.headerLength + 1) = be16 rsp (b.headerLength + 1) ∧
      be16 req (b.headerLength + 3) = be16 rsp (b.headerLength + 3) := by
  simp only [List.mem_cons, List.not_mem_nil, or_false] at function
  rcases function with same | same | same | same
  · simp [confirmedValues, same] at values
    tauto
  · simp [confirmedValues, same] at values
    tauto
  · simp [confirmedValues, same] at values
    exact ⟨values.2.2, values.1.trans values.2.1.symm⟩
  · simp [confirmedValues, same] at values
    exact ⟨values.2.2, values.1.trans values.2.1.symm⟩

theorem write_function {op : ClientOp} (writes : op.Writes) (unmasked : ¬ op.IsMask) :
    op.request.function ∈ [fcWriteSingleCoil, fcWriteSingleRegister, fcWriteMultipleCoils,
      fcWriteMultipleRegisters] ∧ op.repeated = 5 := by
  cases op with
  | writeBit => exact ⟨List.mem_of_elem_eq_true rfl, rfl⟩
  | writeRegister => exact ⟨List.mem_of_elem_eq_true rfl, rfl⟩
  | writeBits => exact ⟨List.mem_of_elem_eq_true rfl, rfl⟩
  | writeRegisters => exact ⟨List.mem_of_elem_eq_true rfl, rfl⟩
  | maskWriteRegister addr andMask orMask => exact absurd ⟨addr, andMask, orMask, rfl⟩ unmasked
  | readBits => exact writes.elim
  | readInputBits => exact writes.elim
  | readRegisters => exact writes.elim
  | readInputRegisters => exact writes.elim
  | writeAndReadRegisters => exact writes.elim
  | reportSlaveId => exact writes.elim

theorem computeResponseLength_write {b : Backend} {req : Buffer}
    (function : (req b.headerLength).toNat ∈ [fcWriteSingleCoil, fcWriteSingleRegister,
      fcWriteMultipleCoils, fcWriteMultipleRegisters]) :
    computeResponseLengthFromRequest b req = (b.headerLength + 5 + b.checksumLength : Nat) := by
  simp only [List.mem_cons, List.not_mem_nil, or_false] at function
  rcases function with same | same | same | same <;> simp [computeResponseLengthFromRequest, same]

theorem echoed_of {op : ClientOp} (writes : op.Writes) (unmasked : ¬ op.IsMask) (b : Backend) :
    op.Echoed b := by
  rintro σ dev c c' n rfl sent success -
  obtain ⟨rc, k, msg, c'', received, judged, -⟩ := sent.confirmed success
  refine ⟨rc, msg, c'', received, ?_⟩
  obtain ⟨written, five⟩ := write_function writes unmasked
  obtain ⟨-, -, length, -⟩ := judgeConfirmation_ok judged
  obtain ⟨m, -, answered, same, values⟩ := judged_values judged
  have asked := op.sentFrame_function c.ctx
  rw [← asked] at written
  have computed := computeResponseLength_write written
  rw [asked, ← answered] at written
  obtain ⟨address, data⟩ := confirmedValues_write written values
  have received_length : msg.length = c.ctx.backend.headerLength + 5 + c.ctx.backend.checksumLength := by
    rw [computed, msgLengthUndefined] at length
    rcases (modbusReceiveMsg_ok dev received).2.2 with whole | ignored
    · omega
    · omega
  have bytes : ∀ i < c.ctx.backend.headerLength + 5,
      overlay c.ctx.uninit msg i = ofBytes msg i :=
    fun i bound => overlay_agree c.ctx.uninit msg i (by omega)
  obtain ⟨first, second⟩ := bytes_of_be16 address
  obtain ⟨third, fourth⟩ := bytes_of_be16 data
  rw [Echoes, five]
  refine ⟨by omega, List.map_congr_left fun k member => ?_⟩
  have bound := List.mem_range.mp member
  rw [← bytes _ (by omega)]
  interval_cases k
  · exact same
  · exact first.symm
  · exact second.symm
  · exact third.symm
  · exact fourth.symm

def clientOf : Backend → Ctx
  | .rtu => { newRtu 1 with s := 3 }
  | .tcp => { newTcp with s := 3 }

@[simp] theorem clientOf_backend (b : Backend) : (clientOf b).backend = b := by
  cases b <;> rfl

def otherMask (b : Backend) (addr : Int) : List Byte :=
  adu b (clientOf b).nextRequest.tId (loByte (clientOf b).slave)
    (Response.echo (.maskWriteRegister (~~~ BitVec.ofInt 16 addr) 0 0)).encode

theorem mask_confirmed (b : Backend) (addr : Int) (andMask orMask : Word) :
    ∃ c' c'', (maskWriteRegister addr andMask orMask).SentInFull
        (lineDevice (answerReact (otherMask b addr))) ⟨clientOf b, ⟨⟨[], []⟩, ()⟩⟩ c' ∧
      modbusReceiveMsg (lineDevice (answerReact (otherMask b addr))) .confirmation c' =
        (.ok (otherMask b addr).length, otherMask b addr, c'') ∧
      ((maskWriteRegister addr andMask orMask).run (lineDevice (answerReact (otherMask b addr)))
        ⟨clientOf b, ⟨⟨[], []⟩, ()⟩⟩).1 = .ok 1 := by
  set op : ClientOp := maskWriteRegister addr andMask orMask
  set response : Response := .echo (.maskWriteRegister (~~~ BitVec.ofInt 16 addr) 0 0)
  have carries : Carries b (otherMask b addr) response.encode := adu_carries _ _ _ _
  have contains : Contains b (overlay (clientOf b).uninit (otherMask b addr)) response.encode :=
    carries.contains (overlay_agree _ _)
  have asked : (ofBytes (op.sentFrame (clientOf b)) b.headerLength).toNat = fcMaskWriteRegister := by
    have function := op.sentFrame_function (clientOf b)
    rwa [clientOf_backend] at function
  have answered : (overlay (clientOf b).uninit (otherMask b addr) b.headerLength).toNat =
      fcMaskWriteRegister := by
    rw [contains.function response.encode_pos]
    rfl
  have answer : (Request.maskWriteRegister (~~~ BitVec.ofInt 16 addr) 0 0).Answer response :=
    ⟨rfl, trivial⟩
  have length : (otherMask b addr).length = b.headerLength + 7 + b.checksumLength := carries.length
  have computed : computeResponseLengthFromRequest b (ofBytes (op.sentFrame (clientOf b))) =
      (b.headerLength + 7 + b.checksumLength : Nat) := by
    simp [computeResponseLengthFromRequest, asked]
  have values : confirmedValues b (ofBytes (op.sentFrame (clientOf b)))
      (overlay (clientOf b).uninit (otherMask b addr)) = (1, 1, true, true) := by
    simp [confirmedValues, answered]
  have judged : judgeConfirmation b (ofBytes (op.sentFrame (clientOf b)))
      (overlay (clientOf b).uninit (otherMask b addr)) (otherMask b addr).length = .ok (1 : Nat) := by
    have checked := preCheckConfirmation_adu b (clientOf b).nextRequest.tId
      (loByte (clientOf b).slave) op.pdu response.encode (clientOf b).uninit
    have sent : op.sentFrame (clientOf b) = _ := sendMsgPre_request (clientOf b) op.pdu
    rw [clientOf_backend] at sent
    rw [← sent] at checked
    exact judgeConfirmation_normal checked (BitVec.eq_of_toNat_eq (answered.trans asked.symm))
      (by rw [asked]; decide) (.inl (by rw [length, computed])) values
  have checked : integrity (clientOf b).nextRequest (otherMask b addr) =
      .ok (otherMask b addr).length := by
    apply integrity_accepts
    cases b with
    | tcp => exact fun rtu => absurd rtu (by decide)
    | rtu => exact fun _ => rtuAccepts_send _ _ _ (.inl rfl)
  exact run_answered op rfl (clientOf b) (by cases b <;> rfl) (otherMask b addr)
    (by rw [clientOf_backend]; exact carries.delimits (answer.whole (Nat.le_of_ble_eq_true rfl)))
    checked (by rw [clientOf_backend]; exact judged)

theorem mask_not_echoed (b : Backend) (addr : Int) (andMask orMask : Word) :
    ¬ (maskWriteRegister addr andMask orMask).Echoed b := by
  intro echoed
  obtain ⟨c', c'', sent, received, run⟩ := mask_confirmed b addr andMask orMask
  obtain ⟨rc, msg, c₃, received', -, repeats⟩ :=
    echoed _ _ _ _ _ (clientOf_backend b) sent run (by decide)
  obtain rfl : otherMask b addr = msg := congrArg (·.2.1) (received.symm.trans received')
  have answered : be16 (ofBytes (otherMask b addr)) (b.headerLength + 1) =
      (~~~ BitVec.ofInt 16 addr).toNat := by
    have contains : Contains b (ofBytes (otherMask b addr)) _ :=
      (adu_carries _ _ _ _).contains fun _ _ => rfl
    exact (contains.word 1 (Nat.le_of_ble_eq_true rfl)).trans (beWord_wordBytes _)
  have asked : be16 (ofBytes ((maskWriteRegister addr andMask orMask).sentFrame (clientOf b)))
      (b.headerLength + 1) = (BitVec.ofInt 16 addr).toNat := by
    have contains : Contains (clientOf b).backend _ _ :=
      (sentFrame_carries (maskWriteRegister addr andMask orMask) (clientOf b)).contains fun _ _ => rfl
    rw [clientOf_backend] at contains
    exact (contains.word 1 (Nat.le_of_ble_eq_true rfl)).trans (beWord_wordBytes _)
  have same := congrArg (fun bytes => beWord (bytes.getD 1 0) (bytes.getD 2 0)) repeats
  simp only [repeated, bytesAt_getD _ _ 7 _ (show 1 < 7 by decide),
    bytesAt_getD _ _ 7 _ (show 2 < 7 by decide)] at same
  have equal : (~~~ BitVec.ofInt 16 addr).toNat = (BitVec.ofInt 16 addr).toNat :=
    answered.symm.trans (same.trans asked)
  rw [BitVec.toNat_not] at equal
  omega

theorem echoed_iff (op : ClientOp) (writes : op.Writes) (b : Backend) : op.Echoed b ↔ ¬ op.IsMask := by
  constructor
  · rintro echoed ⟨addr, andMask, orMask, rfl⟩
    exact mask_not_echoed b addr andMask orMask echoed
  · exact fun unmasked => echoed_of writes unmasked b

theorem echoed_iff_writeRegister : (ClientOp.writeRegister 5 7).Echoed .rtu := by
  refine (echoed_iff (.writeRegister 5 7) trivial .rtu).mpr ?_
  rintro ⟨addr, andMask, orMask, same⟩
  cases same

theorem mask_write_unchecked :
    otherMask .tcp 5 = [0, 1, 0, 0, 0, 8, 0xFF, 0x16, 0xFF, 0xFA, 0, 0, 0, 0] ∧
      ((ClientOp.maskWriteRegister 5 0xF2 0x25).run (lineDevice (answerReact (otherMask .tcp 5)))
        ⟨clientOf .tcp, ⟨⟨[], []⟩, ()⟩⟩).1 = .ok 1 ∧
      ¬ (ClientOp.maskWriteRegister 5 0xF2 0x25).Echoed .tcp := by
  obtain ⟨c', c'', -, -, run⟩ := mask_confirmed .tcp 5 0xF2 0x25
  exact ⟨by decide, run, mask_not_echoed .tcp 5 0xF2 0x25⟩

end ClientOp
end ModbusNet
