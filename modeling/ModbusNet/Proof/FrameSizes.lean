import ModbusNet.Model.UnitTestServer
import ModbusNet.Proof.Answers
import ModbusNet.Proof.Responses

namespace ModbusNet

def minReqLength : Nat := 12

namespace ClientOp

def reqSize : ClientOp → Nat
  | .readBits .. | .readInputBits .. | .readRegisters .. | .readInputRegisters ..
  | .writeBit .. | .writeRegister .. | .reportSlaveId .. => minReqLength
  | .maskWriteRegister .. => minReqLength + 2
  | .writeBits .. | .writeRegisters .. | .writeAndReadRegisters .. => maxMessageLength

/-- What is in `req` after each statement, and after each round of a loop, that changes its length,
in front of `send_msg`. -/
def drafts (op : ClientOp) (ctx : Ctx) : List (List Byte) :=
  let basis function addr nb := (buildRequestBasis ctx function addr nb).1
  match op with
  | .readBits addr nb _ => [basis fcReadCoils addr nb]
  | .readInputBits addr nb _ => [basis fcReadDiscreteInputs addr nb]
  | .readRegisters addr nb _ => [basis fcReadHoldingRegisters addr nb]
  | .readInputRegisters addr nb _ => [basis fcReadInputRegisters addr nb]
  | .writeBit addr status =>
      [basis fcWriteSingleCoil addr (if status ≠ 0 then 0xFF00 else 0 : Word).toNat]
  | .writeRegister addr value => [basis fcWriteSingleRegister addr value.toNat]
  | .writeBits addr nb src =>
      let count := writeBitsByteCount nb
      let counted := basis fcWriteMultipleCoils addr nb ++ [loByte count]
      basis fcWriteMultipleCoils addr nb ::
        (List.range (count.toNat + 1)).map fun i => packBytesLoop src nb i 0 0 counted
  | .writeRegisters addr nb src =>
      let counted := basis fcWriteMultipleRegisters addr nb ++ [loByte (nb * 2)]
      basis fcWriteMultipleRegisters addr nb ::
        (List.range (nb.toNat + 1)).map fun i => encodeRegistersLoop src i 0 counted
  | .maskWriteRegister addr andMask orMask =>
      let req := basis fcMaskWriteRegister addr 0
      [req, req.take (req.length - 2), req.take (req.length - 2) ++
        [hiByte andMask.toNat, loByte andMask.toNat, hiByte orMask.toNat, loByte orMask.toNat]]
  | .writeAndReadRegisters writeAddr writeNb src readAddr readNb _ =>
      let counted := basis fcWriteAndReadRegisters readAddr readNb ++
        [hiByte writeAddr, loByte writeAddr, hiByte writeNb, loByte writeNb, loByte (writeNb * 2)]
      basis fcWriteAndReadRegisters readAddr readNb ::
        (List.range (writeNb.toNat + 1)).map fun i => encodeRegistersLoop src i 0 counted
  | .reportSlaveId _ _ =>
      let req := basis fcReportSlaveId 0 0
      [req, req.take (req.length - 4)]

end ClientOp

def rawDrafts (b : Backend) (rawReq : List Byte) (tId : Int) : List (List Byte) :=
  let sft : Sft := { slave := (rawReq.getD 0 0).toNat, function := (rawReq.getD 1 0).toNat, tId }
  [buildResponseBasis b sft, buildResponseBasis b sft ++ rawReq.drop 2]

structure FitsIn (size : Nat) (b : Backend) (drafts : List (List Byte)) (frame : List Byte) :
    Prop where
  inside : ∀ draft ∈ drafts, draft.length ≤ size
  sent : drafts.getLast?.map (sendMsgPre b) = some frame
  room : frame.length ≤ size
  adu : frame.length ≤ b.maxAduLength

theorem sendMsgPre_length (b : Backend) (msg : List Byte) :
    (sendMsgPre b msg).length = msg.length + b.checksumLength := by
  cases b with
  | rtu => rw [sendMsgPre, modbusRtuSendMsgPre, List.length_append]; rfl
  | tcp => rw [sendMsgPre, modbusTcpSendMsgPre, List.length_set, List.length_set]; rfl

theorem FitsIn.of_last {size : Nat} {b : Backend} {drafts : List (List Byte)} {msg : List Byte}
    (inside : ∀ draft ∈ drafts, draft.length ≤ size) (last : drafts.getLast? = some msg)
    (room : msg.length + b.checksumLength ≤ size)
    (adu : msg.length + b.checksumLength ≤ b.maxAduLength) :
    FitsIn size b drafts (sendMsgPre b msg) where
  inside := inside
  sent := by rw [last]; rfl
  room := by rwa [sendMsgPre_length]
  adu := by rwa [sendMsgPre_length]

theorem basis_length (ctx : Ctx) (function : Nat) (addr nb : Int) :
    (buildRequestBasis ctx function addr nb).1.length = ctx.backend.headerLength + 5 := by
  rw [buildRequestBasis]
  cases ctx.backend <;> rfl

theorem FitsIn.loop (step : Nat) {size n : Nat} {b : Backend} {basis : List Byte} {draft : Nat → List Byte}
    {msg : List Byte} (length : ∀ i, (draft i).length = (draft 0).length + step * i)
    (last : draft n = msg) (longer : basis.length ≤ (draft 0).length)
    (room : (draft 0).length + step * n + b.checksumLength ≤ size)
    (adu : (draft 0).length + step * n + b.checksumLength ≤ b.maxAduLength) :
    FitsIn size b (basis :: (List.range (n + 1)).map draft) (sendMsgPre b msg) := by
  have whole := length n
  rw [last] at whole
  refine .of_last (fun msg' member => ?_) ?_ (by omega) (by omega)
  · rcases List.mem_cons.mp member with rfl | later
    · omega
    · obtain ⟨i, bound, rfl⟩ := List.mem_map.mp later
      have earlier : step * i ≤ step * n :=
        Nat.mul_le_mul_left step (Nat.le_of_lt_succ (List.mem_range.mp bound))
      rw [length i]
      omega
  · rw [List.range_succ, List.map_append, ← List.cons_append, List.getLast?_append]
    simp [last]

namespace ClientOp

theorem backend_room (b : Backend) :
    b.headerLength + maxPduLength + b.checksumLength = b.maxAduLength ∧
      b.maxAduLength ≤ maxMessageLength := by
  cases b <;> decide

theorem encodeRegistersLoop_length (src : Nat → Word) (left i : Nat) (req : List Byte) :
    (encodeRegistersLoop src left i req).length = req.length + 2 * left := by
  rw [encodeRegistersLoop_eq, List.length_append, wordBytes_flatMap_length, cellsOf_length]

section
variable (op : ClientOp) (ctx : Ctx)

theorem sentFrame_basis {function : Nat} {addr nb : Int} (back : List Byte)
    (encoded : op.pdu = loByte function ::
      (wordBytes (BitVec.ofInt 16 addr) ++ (wordBytes (BitVec.ofInt 16 nb) ++ back))) :
    op.sentFrame ctx =
      sendMsgPre ctx.backend ((buildRequestBasis ctx function addr nb).1 ++ back) := by
  rw [sentFrame, encoded, buildRequestBasis_eq]
  simp only [List.append_assoc, List.cons_append]

theorem basis_fits {function : Nat} {addr nb : Int} (size : op.reqSize = minReqLength)
    (only : op.drafts ctx = [(buildRequestBasis ctx function addr nb).1])
    (encoded : op.pdu = loByte function ::
      (wordBytes (BitVec.ofInt 16 addr) ++ wordBytes (BitVec.ofInt 16 nb))) :
    FitsIn op.reqSize ctx.backend (op.drafts ctx) (op.sentFrame ctx) := by
  have length := basis_length ctx function addr nb
  have short : ctx.backend.headerLength + 5 + ctx.backend.checksumLength ≤ minReqLength ∧
      minReqLength ≤ ctx.backend.maxAduLength := by
    cases ctx.backend <;> decide
  rw [op.sentFrame_basis ctx [] (by rw [List.append_nil, encoded]), List.append_nil, only, size]
  refine .of_last (fun draft member => ?_) rfl (by omega) (by omega)
  rw [List.mem_singleton.mp member]
  omega

theorem registers_fit {function : Nat} {addr nb : Int} (fields : List Byte) (src : Nat → Word)
    (n : Nat) (size : op.reqSize = maxMessageLength)
    (drafts : op.drafts ctx = (buildRequestBasis ctx function addr nb).1 ::
      (List.range (n + 1)).map fun i =>
        encodeRegistersLoop src i 0 ((buildRequestBasis ctx function addr nb).1 ++ fields))
    (encoded : op.pdu = loByte function :: (wordBytes (BitVec.ofInt 16 addr) ++
      (wordBytes (BitVec.ofInt 16 nb) ++ (fields ++ (cellsOf src n).flatMap wordBytes))))
    (few : 5 + fields.length + 2 * n ≤ maxPduLength) :
    FitsIn op.reqSize ctx.backend (op.drafts ctx) (op.sentFrame ctx) := by
  have length := basis_length ctx function addr nb
  have room := backend_room ctx.backend
  rw [op.sentFrame_basis ctx _ encoded, ← List.append_assoc, drafts, size]
  apply FitsIn.loop 2
  · intro i
    rw [encodeRegistersLoop_length, encodeRegistersLoop_length, Nat.mul_zero, Nat.add_zero]
  · rw [encodeRegistersLoop_eq]
    simp only [Nat.zero_add]
  · rw [encodeRegistersLoop_length, List.length_append]
    omega
  · rw [encodeRegistersLoop_length, List.length_append, length]
    omega
  · rw [encodeRegistersLoop_length, List.length_append, length]
    omega

theorem cut_fits {function : Nat} {addr nb : Int} {kept dropped cut : List Byte} (back : List Byte)
    (basis : loByte function :: (wordBytes (BitVec.ofInt 16 addr) ++
      wordBytes (BitVec.ofInt 16 nb)) = kept ++ dropped)
    (taken : (buildRequestBasis ctx function addr nb).1.take
      ((buildRequestBasis ctx function addr nb).1.length - dropped.length) = cut)
    (encoded : op.pdu = kept ++ back)
    (drafts : ∀ draft ∈ op.drafts ctx,
      draft = (buildRequestBasis ctx function addr nb).1 ∨ draft = cut ∨ draft = cut ++ back)
    (last : (op.drafts ctx).getLast? = some (cut ++ back))
    (room : ctx.backend.headerLength + 5 + ctx.backend.checksumLength ≤ op.reqSize ∧
      ctx.backend.headerLength + kept.length + back.length + ctx.backend.checksumLength ≤ op.reqSize)
    (adu : op.reqSize ≤ ctx.backend.maxAduLength) :
    FitsIn op.reqSize ctx.backend (op.drafts ctx) (op.sentFrame ctx) := by
  have length := basis_length ctx function addr nb
  have header : cut = requestHeader ctx.nextRequest ++ kept := by
    rw [← taken, buildRequestBasis_eq, basis, ← List.append_assoc]
    exact List.take_left' (by simp only [List.length_append]; omega)
  have shorter : cut.length = ctx.backend.headerLength + kept.length := by
    rw [header, List.length_append, requestHeader_length, nextRequest_backend]
  have sent : op.sentFrame ctx = sendMsgPre ctx.backend (cut ++ back) := by
    rw [sentFrame, encoded, header, List.append_assoc]
  rw [sent]
  refine .of_last (fun draft member => ?_) last ?_ ?_
  · rcases drafts draft member with rfl | rfl | rfl
    · omega
    · omega
    · rw [List.length_append]
      omega
  · rw [List.length_append, shorter]
    omega
  · rw [List.length_append, shorter]
    omega

end

theorem writeBitsByteCount_le {nb : Int} (limit : nb ≤ maxWriteBits) :
    (writeBitsByteCount nb).toNat ≤ 246 := by
  simp only [maxWriteBits] at limit
  rw [writeBitsByteCount]
  have rounded := Int.mul_tdiv_add_tmod nb 8
  have remainder := Int.lt_tmod_of_pos nb (b := 8) (by decide)
  rcases Int.le_total 0 nb with pos | neg
  · have := Int.tmod_nonneg 8 pos
    split <;> omega
  · split <;> omega

theorem frame_fits (op : ClientOp) (ctx : Ctx) (accepted : op.refusal = none) :
    FitsIn op.reqSize ctx.backend (op.drafts ctx) (op.sentFrame ctx) := by
  have room := backend_room ctx.backend
  simp only [maxPduLength] at room
  cases op with
  | readBits addr nb dest => exact basis_fits _ ctx rfl rfl rfl
  | readInputBits addr nb dest => exact basis_fits _ ctx rfl rfl rfl
  | readRegisters addr nb dest => exact basis_fits _ ctx rfl rfl rfl
  | readInputRegisters addr nb dest => exact basis_fits _ ctx rfl rfl rfl
  | writeBit addr status =>
      refine basis_fits _ ctx rfl rfl ?_
      rw [BitVec.ofInt_natCast, BitVec.ofNat_toNat, BitVec.setWidth_eq]
      rfl
  | writeRegister addr value =>
      refine basis_fits _ ctx rfl rfl ?_
      rw [BitVec.ofInt_natCast, BitVec.ofNat_toNat, BitVec.setWidth_eq]
      rfl
  | writeBits addr nb src =>
      have limit : nb ≤ maxWriteBits := not_lt.mp (not_of_ite_none accepted)
      have count := writeBitsByteCount_le limit
      have length := basis_length ctx fcWriteMultipleCoils addr nb
      rw [sentFrame_basis _ ctx ([loByte (writeBitsByteCount nb)] ++
        packBytesLoop src nb (writeBitsByteCount nb).toNat 0 0 []) rfl, ← List.append_assoc,
        ← packBytesLoop_append]
      apply FitsIn.loop 1
      · intro i
        rw [packBytesLoop_length, packBytesLoop_length, Nat.one_mul, Nat.add_zero]
      · rfl
      · rw [packBytesLoop_length, List.length_append]
        omega
      · rw [packBytesLoop_length, List.length_append, List.length_singleton, length, reqSize]
        omega
      · rw [packBytesLoop_length, List.length_append, List.length_singleton, length]
        omega
  | writeRegisters addr nb src =>
      have limit : nb ≤ maxWriteRegisters := not_lt.mp (not_of_ite_none accepted)
      simp only [maxWriteRegisters] at limit
      exact registers_fit _ ctx [loByte (nb * 2)] src nb.toNat rfl rfl rfl
        (by simp only [List.length_singleton, maxPduLength]; omega)
  | maskWriteRegister addr andMask orMask =>
      have basis : loByte fcMaskWriteRegister :: (wordBytes (BitVec.ofInt 16 addr) ++
          wordBytes (BitVec.ofInt 16 0)) =
            loByte fcMaskWriteRegister :: wordBytes (BitVec.ofInt 16 addr) ++ wordBytes 0 := rfl
      refine cut_fits _ ctx [hiByte andMask.toNat, loByte andMask.toNat, hiByte orMask.toNat,
        loByte orMask.toNat] basis rfl rfl (fun draft member => ?_) rfl ?_ ?_
      · simp only [drafts, List.mem_cons, List.not_mem_nil, or_false] at member
        exact member
      · cases ctx.backend <;> exact ⟨Nat.le_of_ble_eq_true rfl, Nat.le_of_ble_eq_true rfl⟩
      · cases ctx.backend <;> exact Nat.le_of_ble_eq_true rfl
  | writeAndReadRegisters writeAddr writeNb src readAddr readNb dest =>
      have limit : writeNb ≤ maxWrWriteRegisters := not_lt.mp fun exceeds =>
        not_of_ite_none accepted (.inl exceeds)
      simp only [maxWrWriteRegisters] at limit
      refine registers_fit _ ctx [hiByte writeAddr, loByte writeAddr, hiByte writeNb, loByte writeNb,
        loByte (writeNb * 2)] src writeNb.toNat rfl rfl ?_ ?_
      · simp only [pdu, List.append_assoc]
      · simp only [List.length_cons, List.length_nil, maxPduLength]
        omega
  | reportSlaveId maxDest dest =>
      have basis : loByte fcReportSlaveId :: (wordBytes (BitVec.ofInt 16 0) ++
          wordBytes (BitVec.ofInt 16 0)) = [loByte fcReportSlaveId] ++ (wordBytes 0 ++ wordBytes 0) :=
        rfl
      refine cut_fits _ ctx [] basis rfl rfl (fun draft member => ?_) ?_ ?_ ?_
      · simp only [drafts, List.mem_cons, List.not_mem_nil, or_false] at member
        exact member.imp_right .inl
      · rw [List.append_nil]
        rfl
      · cases ctx.backend <;> exact ⟨Nat.le_of_ble_eq_true rfl, Nat.le_of_ble_eq_true rfl⟩
      · cases ctx.backend <;> exact Nat.le_of_ble_eq_true rfl

end ClientOp

theorem rawDrafts_fit (b : Backend) (rawReq : List Byte) (tId : Int) (low : 2 ≤ rawReq.length)
    (high : rawReq.length ≤ maxPduLength + 1) :
    FitsIn maxMessageLength b (rawDrafts b rawReq tId)
      (sendMsgPre b (buildResponseBasis b ⟨(rawReq.getD 0 0).toNat, (rawReq.getD 1 0).toNat, tId⟩ ++
        rawReq.drop 2)) := by
  have room := ClientOp.backend_room b
  have basis : (buildResponseBasis b
      ⟨(rawReq.getD 0 0).toNat, (rawReq.getD 1 0).toNat, tId⟩).length = b.headerLength + 1 := by
    cases b <;> rfl
  have whole := List.length_drop (l := rawReq) (i := 2)
  refine .of_last (fun draft member => ?_) rfl ?_ ?_
  · simp only [rawDrafts, List.mem_cons, List.not_mem_nil, or_false] at member
    rcases member with rfl | rfl
    · omega
    · rw [List.length_append]
      omega
  · rw [List.length_append]
    omega
  · rw [List.length_append]
    omega

theorem getLast?_inits {α : Type} (l : List α) : l.inits.getLast? = some l := by
  rw [List.getLast?_eq_getElem?, List.length_inits, Nat.add_sub_cancel,
    List.getElem?_eq_getElem (by rw [List.length_inits]; omega), List.getElem_inits, List.take_length]

theorem answer_fits {b : Backend} {req : Buffer} {response : Response}
    (short : response.encode.length ≤ maxPduLength) :
    FitsIn maxMessageLength b (answerHeader b req response ++ response.encode).inits
      (answerFrame b req response) := by
  have room := ClientOp.backend_room b
  have header := answerHeader_length b req response
  refine .of_last (fun draft member => ?_) ?_ ?_ ?_
  · have grown := ((List.mem_inits _ _).mp member).length_le
    rw [List.length_append] at grown
    omega
  · exact getLast?_inits _
  · rw [List.length_append]
    omega
  · rw [List.length_append]
    omega

/-- Every request of a client function that is not refused, every raw request that is accepted and
every response to a request that has been received stay inside their arrays, and are messages of
the backend. -/
theorem frames_fit (c : Conn (Line Log)) :
    (∀ op : ClientOp, op.refusal = none →
      ∃ frame, c.sent (op.run logDevice c).2.2 = [frame] ∧
        FitsIn op.reqSize c.ctx.backend (op.drafts c.ctx) frame) ∧
    (∀ rawReq tId, 2 ≤ rawReq.length → rawReq.length ≤ maxPduLength + 1 →
      ∃ frame, c.sent (modbusSendRawRequestTid logDevice c rawReq tId).2 = [frame] ∧
        FitsIn maxMessageLength c.ctx.backend (rawDrafts c.ctx.backend rawReq tId) frame) ∧
    ∀ req n mb, Returned c.ctx req n → mb.WellFormed →
      (∀ e, replySwitch c.ctx req n mb = .error e → e = .errno .enoprotoopt) ∧
      ∀ answer mb', replySwitch c.ctx req n mb = .ok (answer, mb') →
        FitsIn maxMessageLength c.ctx.backend answer.rsp.inits
            (sendMsgPre c.ctx.backend answer.rsp) ∧
          ∀ frame ∈ c.sent (modbusReply logDevice c req n mb).2.2,
            frame = sendMsgPre c.ctx.backend answer.rsp := by
  refine ⟨fun op accepted => ?_, fun rawReq tId low high => ?_, fun req n mb returned valid => ?_⟩
  · exact ⟨op.sentFrame c.ctx, op.run_sent c accepted, op.frame_fits c.ctx accepted⟩
  · refine ⟨_, Conn.sent_append ?_, rawDrafts_fit _ rawReq tId low high⟩
    rw [modbusSendRawRequestTid, if_neg (by omega), sendMsg_log]
    rfl
  · have received := returned.received
    have fits : (Request.decode (pduAt c.ctx.backend req)).encode.length ≤ maxPduLength := by
      rw [Request.encode_length]
      exact received.length.2
    have switched := replySwitch_received c.ctx req n mb received
    cases served : (Request.decode (pduAt c.ctx.backend req)).serve c.ctx.version mb with
    | error e =>
        rw [served] at switched
        refine ⟨fun e' failed => ?_, fun answer mb' done => ?_⟩
        · rw [← Except.error.inj (switched.symm.trans failed)]
          exact (Request.serve_fails valid served).2
        · cases switched.symm.trans done
    | ok outcome =>
        have sent := modbusReply_sent c req received served
        rw [served] at switched
        refine ⟨fun e failed => ?_, fun answer mb' done => ?_⟩
        · cases switched.symm.trans failed
        · obtain ⟨rfl, rfl⟩ := Prod.mk.inj (Except.ok.inj (switched.symm.trans done))
          refine ⟨answer_fits ((Request.serve_answer _ _ _ outcome served).short fits), ?_⟩
          intro frame member
          rw [sent] at member
          split at member
          · cases member
          · exact List.mem_singleton.mp member

theorem frames_fit_readRegisters :
    let server := heard newTcp readTwoRegisters
    let write : ClientOp := .writeRegisters 0 123 fun _ => 0
    (∃ frame, server.2.2.sent (write.run logDevice server.2.2).2.2 = [frame] ∧
        FitsIn maxMessageLength .tcp (write.drafts server.2.2.ctx) frame) ∧
      (∃ frame, server.2.2.sent (modbusSendRawRequestTid logDevice server.2.2 [0xFF, 0x11] 0).2 =
          [frame] ∧ FitsIn maxMessageLength .tcp (rawDrafts .tcp [0xFF, 0x11] 0) frame) ∧
      ∃ answer mb', replySwitch server.2.2.ctx server.2.1 12 (modbusMappingNew 0 0 4 0) =
          .ok (answer, mb') ∧
        FitsIn maxMessageLength .tcp answer.rsp.inits (sendMsgPre .tcp answer.rsp) := by
  intro server write
  have fit := frames_fit server.2.2
  have returned : Returned server.2.2.ctx server.2.1 12 :=
    heard_returned (by decide) (by decide +kernel)
  refine ⟨fit.1 write rfl, fit.2.1 [0xFF, 0x11] 0 (by decide) (by decide), ?_⟩
  have answered : (replySwitch server.2.2.ctx server.2.1 12 (modbusMappingNew 0 0 4 0)).isOk := by
    decide +kernel
  cases replied : replySwitch server.2.2.ctx server.2.1 12 (modbusMappingNew 0 0 4 0) with
  | error e =>
      rw [replied] at answered
      cases answered
  | ok result =>
      exact ⟨result.1, result.2, rfl,
        ((fit.2.2 _ 12 _ returned fourRegisters_wellFormed).2 _ _ replied).1⟩

end ModbusNet
