import ModbusNet.Proof.ClientRequests
import ModbusNet.Proof.Receptions

namespace ModbusNet

theorem ClientOp.request_encodable (op : ClientOp) (valid : op.InRange) : op.request.Encodable := by
  cases op with
  | writeBits addr nb src =>
      obtain ⟨-, pos, limit⟩ := valid
      simp only [request, Request.Encodable, packBits_length, sourceBits, List.length_map,
        List.length_range, byteCount_eq]
      simp only [maxWriteBits] at limit
      omega
  | writeRegisters addr nb src =>
      obtain ⟨-, pos, limit⟩ := valid
      simp only [request, Request.Encodable, wordBytes_flatMap_length, cellsOf_length]
      simp only [maxWriteRegisters] at limit
      omega
  | writeAndReadRegisters writeAddr writeNb src readAddr readNb dest =>
      obtain ⟨⟨-, pos, limit⟩, -⟩ := valid
      simp only [request, Request.Encodable, wordBytes_flatMap_length, cellsOf_length]
      simp only [maxWrWriteRegisters] at limit
      omega
  | _ => trivial

theorem ClientOp.request_fits (op : ClientOp) (valid : op.InRange) :
    op.request.encode.length ≤ maxPduLength := by
  cases op with
  | writeBits addr nb src =>
      obtain ⟨-, pos, limit⟩ := valid
      simp only [request, Request.encode, Request.payload, List.length_cons, List.length_append,
        wordBytes_length, packBits_length, sourceBits, List.length_map, List.length_range,
        byteCount_eq, maxPduLength]
      simp only [maxWriteBits] at limit
      omega
  | writeRegisters addr nb src =>
      obtain ⟨-, pos, limit⟩ := valid
      simp only [request, Request.encode, Request.payload, List.length_cons, List.length_append,
        wordBytes_length, wordBytes_flatMap_length, cellsOf_length, maxPduLength]
      simp only [maxWriteRegisters] at limit
      omega
  | writeAndReadRegisters writeAddr writeNb src readAddr readNb dest =>
      obtain ⟨⟨-, pos, limit⟩, -⟩ := valid
      simp only [request, Request.encode, Request.payload, List.length_cons, List.length_append,
        wordBytes_length, wordBytes_flatMap_length, cellsOf_length, maxPduLength]
      simp only [maxWrWriteRegisters] at limit
      omega
  | _ => simp [request, Request.encode, Request.payload, maxPduLength]

theorem ClientOp.request_whole (op : ClientOp) (valid : op.InRange) :
    Whole .indication op.request.encode :=
  op.request.whole (op.request_encodable valid) (op.request_fits valid)

theorem requestHeader_length (ctx : Ctx) : (requestHeader ctx).length = ctx.backend.headerLength := by
  unfold requestHeader
  cases ctx.backend <;> rfl

theorem nextRequest_backend (ctx : Ctx) : ctx.nextRequest.backend = ctx.backend := by
  unfold Ctx.nextRequest
  split <;> rfl

def ClientOp.frame (op : ClientOp) (ctx : Ctx) : List Byte :=
  sendMsgPre ctx.backend (requestHeader ctx.nextRequest ++ op.request.encode)

theorem exchange_log (c : Conn (Line Log)) (req : List Byte) :
    (exchange logDevice c req).2.line.peer = c.line.peer ++ [sendMsgPre c.ctx.backend req] := by
  have keeps := lineDevice_keeps_peer logReact (c.record (sendMsgPre c.ctx.backend req)).line.peer
  refine (exchange_preserves (keeps.preserves (c.record _)) c req ?_).2 rfl
  have sent : sendFrame logDevice (sendMsgPre c.ctx.backend req) c = _ := sendMsg_log c req
  rw [sent]
  exact .refl _

theorem ClientOp.finish_conn {σ : Type} (op : ClientOp)
    (result : Except Failure (Int × Option Buffer) × Conn σ) : (op.finish result).2.2 = result.2 := by
  obtain ⟨result, c⟩ := result
  cases result with
  | error e => rfl
  | ok values =>
      obtain ⟨rc, rsp⟩ := values
      cases rsp <;> rfl

theorem ClientOp.run_log (op : ClientOp) (c : Conn (Line Log)) (valid : op.InRange) :
    (op.run logDevice c).2.2.line.peer = c.line.peer ++ [op.frame c.ctx] := by
  rw [op.run_eq logDevice c valid, finish_conn, exchange_log]
  simp only [nextRequest_backend, frame]

def Emitted (b : Backend) (slave : Int) (frame : List Byte) : Prop :=
  ∃ (c : Conn (Line Log)) (op : ClientOp), op.InRange ∧ c.ctx.backend = b ∧
    (b = .rtu → c.ctx.slave = slave) ∧ c.line.peer = [] ∧
    (op.run logDevice c).2.2.line.peer = [frame]

theorem Emitted.frame {b : Backend} {slave : Int} {frame : List Byte}
    (emitted : Emitted b slave frame) :
    ∃ (ctx : Ctx) (op : ClientOp), op.InRange ∧ ctx.backend = b ∧ (b = .rtu → ctx.slave = slave) ∧
      frame = op.frame ctx := by
  obtain ⟨c, op, valid, backend, same, silent, log⟩ := emitted
  rw [op.run_log c valid, silent] at log
  exact ⟨c.ctx, op, valid, backend, same, (List.cons.inj log).1.symm⟩

theorem Carries.delimits {b : Backend} {msgType : MsgType} {frame pdu : List Byte}
    (carries : Carries b frame pdu) (whole : Whole msgType pdu) :
    Delimits b msgType (ofBytes frame) frame.length := by
  obtain ⟨header, checksum, header_length, checksum_length, rfl⟩ := carries
  exact whole.delimits header_length checksum_length

theorem ClientOp.frame_carries (op : ClientOp) (ctx : Ctx) :
    Carries ctx.backend (op.frame ctx) op.request.encode :=
  sendMsgPre_carries ctx.backend _ _ (by rw [requestHeader_length, nextRequest_backend])

theorem Carries.nonempty {b : Backend} {frame pdu : List Byte} (carries : Carries b frame pdu) :
    frame ≠ [] := by
  obtain ⟨header, checksum, header_length, -, rfl⟩ := carries
  have : 0 < header.length := by
    rw [header_length]
    cases b <;> simp
  intro empty
  rw [List.append_eq_nil_iff.mp empty |>.1] at this
  simp at this

def SlaveInRange (slave : Int) : Prop := 0 ≤ slave ∧ slave ≤ 255

theorem SlaveInRange.loByte {slave : Int} (valid : SlaveInRange slave) :
    ((loByte slave).toNat : Int) = slave := by
  obtain ⟨low, high⟩ := valid
  simp only [ModbusNet.loByte, BitVec.toNat_ofInt]
  omega

theorem ClientOp.frame_accepted (op : ClientOp) (ctx ctx' : Ctx) (backend : ctx.backend = .rtu)
    (same : ctx.slave = ctx'.slave) (slave : SlaveInRange ctx'.slave) :
    RtuAccepts ctx' (op.frame ctx) := by
  have header : requestHeader ctx.nextRequest = [ModbusNet.loByte ctx.slave] := by
    simp only [requestHeader, Ctx.nextRequest, backend]
  rw [frame, header, backend, sendMsgPre]
  refine rtuAccepts_send ctx' (ModbusNet.loByte ctx.slave) _ (.inl ?_)
  rw [same, slave.loByte]

theorem Emitted.takes {π : Type} (react : React π) (ctx : Ctx) (frame : List Byte)
    (connected : ctx.isConnected) (slave : ctx.backend = .rtu → SlaveInRange ctx.slave)
    (emitted : Emitted ctx.backend ctx.slave frame) :
    Takes react ctx false (.accepted frame) false := by
  obtain ⟨ctx', op, valid, backend, same, rfl⟩ := emitted.frame
  have carries := op.frame_carries ctx'
  rw [backend] at carries
  exact takes_accepted react ctx (op.frame ctx') connected (carries.delimits (op.request_whole valid))
    (fun rtu => op.frame_accepted ctx' ctx (backend.trans rtu) (same rtu) (slave rtu))
    carries.nonempty

theorem receptions_requests {π : Type} (react : React π) (frames : List (List Byte))
    (rest : List (Signal Byte)) (c : Conn (Line π)) (buffer : Buffer)
    (connected : c.ctx.isConnected) (listening : c.ctx.confirmationToIgnore = false)
    (slave : c.ctx.backend = .rtu → SlaveInRange c.ctx.slave)
    (emitted : ∀ frame ∈ frames, Emitted c.ctx.backend c.ctx.slave frame)
    (stream : c.line.incoming.signals = frames.flatten.map .item ++ rest) :
    Follow rest (frames.map .accepted) (receptions react frames.length c buffer).1 ∧
      (receptions react frames.length c buffer).2.line.incoming.signals = rest := by
  have taken : ∀ fs : List (List Byte), (∀ frame ∈ fs, Emitted c.ctx.backend c.ctx.slave frame) →
      TakesAll react c.ctx false (fs.map .accepted) false := by
    intro fs
    induction fs with
    | nil => exact fun _ => .nil false
    | cons frame fs ih =>
        intro sent
        exact .cons (Emitted.takes react c.ctx frame connected slave (sent frame List.mem_cons_self))
          (ih fun frame' member => sent frame' (List.mem_cons_of_mem _ member))
  have signals : (frames.map Message.accepted).flatMap Message.signals =
      frames.flatten.map Signal.item := by
    rw [List.flatMap_map, List.map_flatten, List.flatMap_def]
    rfl
  have run := receptions_follow react (taken frames emitted) c buffer rest (by rw [← listening])
    (by rw [signals]; exact stream)
  rwa [List.length_map] at run

def twoRequests : List (List Byte) :=
  [[0, 1, 0, 0, 0, 6, 0xFF, 0x03, 0, 0, 0, 2], [0, 1, 0, 0, 0, 9, 0xFF, 0x10, 0, 0, 0, 1, 2, 0, 7]]

def twoRequestsArrive : List (Arrival Byte) :=
  [.items 0 [1, 0, 0, 0, 6, 0xFF, 0x03, 0], .items 0 [0, 2, 0, 1, 0],
    .items 0 [0, 9, 0xFF, 0x10, 0, 0, 0, 1, 2, 0, 7]]

theorem receptions_requests_twoRequests :
    let c := (Conn.established newTcp []).hear twoRequestsArrive
    Follow [] (twoRequests.map .accepted) (receptions logReact 2 c fun _ => 0).1 ∧
      (receptions logReact 2 c fun _ => 0).2.line.incoming.signals = [] := by
  have emitted : ∀ frame ∈ twoRequests, Emitted .tcp 0xFF frame := by
    simp only [twoRequests, List.forall_mem_cons, List.not_mem_nil, false_imp_iff, implies_true,
      and_true]
    exact ⟨⟨.established newTcp [], .readRegisters 0 2 fun _ => 0, by decide, rfl, fun _ => rfl, rfl,
        by decide +kernel⟩,
      ⟨.established newTcp [], .writeRegisters 0 1 fun _ => 7, by decide, rfl, fun _ => rfl, rfl,
        by decide +kernel⟩⟩
  exact receptions_requests logReact twoRequests [] ((Conn.established newTcp []).hear twoRequestsArrive)
    (fun _ => 0) rfl rfl (fun rtu => absurd rtu (by decide)) emitted rfl

end ModbusNet
