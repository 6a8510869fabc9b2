import ModbusNet.Proof.Confirmation
import ModbusNet.Proof.RequestStream

namespace ModbusNet

def adu (b : Backend) (tId : Word) (slave : Byte) (pdu : List Byte) : List Byte :=
  match b with
  | .rtu => modbusRtuSendMsgPre (slave :: pdu)
  | .tcp => [hiByte tId.toNat, loByte tId.toNat, 0, 0, hiByte (pdu.length + 1 : Nat),
      loByte (pdu.length + 1 : Nat), slave] ++ pdu

theorem adu_carries (b : Backend) (tId : Word) (slave : Byte) (pdu : List Byte) :
    Carries b (adu b tId slave pdu) pdu := by
  cases b with
  | rtu => exact ⟨[slave], _, rfl, rfl, rfl⟩
  | tcp => exact ⟨_, [], rfl, rfl, by rw [List.append_nil]; rfl⟩

theorem Carries.length {b : Backend} {frame pdu : List Byte} (carries : Carries b frame pdu) :
    frame.length = b.headerLength + pdu.length + b.checksumLength := by
  obtain ⟨header, checksum, header_length, checksum_length, rfl⟩ := carries
  simp only [List.length_append, header_length, checksum_length]
  omega

theorem Carries.contains {b : Backend} {frame pdu : List Byte} {msg : Buffer}
    (carries : Carries b frame pdu) (holds : AgreeBelow frame.length msg (ofBytes frame)) :
    Contains b msg pdu := by
  obtain ⟨header, checksum, header_length, -, rfl⟩ := carries
  intro i bound
  rw [pduAt, holds _ (by simp only [List.length_append, header_length]; omega), ← header_length,
    ofBytes_append_right]
  exact (ofBytes_append_left pdu checksum i bound).symm

theorem sendMsgPre_tcp (hi lo p q x y slave : Byte) (pdu : List Byte) :
    sendMsgPre .tcp ([hi, lo, p, q, x, y, slave] ++ pdu) =
      [hi, lo, p, q, hiByte (pdu.length + 1 : Nat), loByte (pdu.length + 1 : Nat), slave] ++ pdu := by
  have length : (([hi, lo, p, q, x, y, slave] ++ pdu).length : Int) - 6 = (pdu.length + 1 : Nat) := by
    simp only [List.length_append, List.length_cons, List.length_nil]
    omega
  rw [sendMsgPre, modbusTcpSendMsgPre, length]
  rfl

theorem sendMsgPre_tcp_adu (tId : Word) (slave x y : Byte) (pdu : List Byte) :
    sendMsgPre .tcp ([hiByte tId.toNat, loByte tId.toNat, 0, 0, x, y, slave] ++ pdu) =
      adu .tcp tId slave pdu := sendMsgPre_tcp _ _ _ _ _ _ _ _

theorem nextRequest_slave (ctx : Ctx) : ctx.nextRequest.slave = ctx.slave := by
  unfold Ctx.nextRequest
  split <;> rfl

theorem nextRequest_tcp {ctx : Ctx} (backend : ctx.backend = .tcp) :
    ctx.nextRequest = { ctx with tId := ctx.tId + 1 } := by
  have wraps : (if ctx.tId.toNat < 65535 then ctx.tId + 1 else 0) = ctx.tId + 1 := by
    split
    · rfl
    · rename_i last
      have full : ctx.tId = 65535 := by
        apply BitVec.eq_of_toNat_eq
        have bound := ctx.tId.isLt
        exact Nat.le_antisymm (Nat.le_of_lt_succ bound) (not_lt.mp last)
      rw [full]
      rfl
  simp only [Ctx.nextRequest, backend, wraps]

theorem sendMsgPre_request (ctx : Ctx) (pdu : List Byte) :
    sendMsgPre ctx.backend (requestHeader ctx.nextRequest ++ pdu) =
      adu ctx.backend ctx.nextRequest.tId (loByte ctx.slave) pdu := by
  rw [requestHeader, nextRequest_backend, nextRequest_slave]
  cases ctx.backend with
  | rtu => rfl
  | tcp => exact sendMsgPre_tcp_adu _ _ _ _ _

theorem ClientOp.frame_adu (op : ClientOp) (ctx : Ctx) :
    op.frame ctx = adu ctx.backend ctx.nextRequest.tId (loByte ctx.slave) op.request.encode :=
  sendMsgPre_request ctx op.request.encode

theorem answerHeader_rtu (req : Buffer) (response : Response) :
    answerHeader .rtu req response = [req 0] := by
  cases response <;> rfl

theorem answerHeader_tcp (req : Buffer) (response : Response) (hi : req 2 = 0) (lo : req 3 = 0) :
    ∃ x y, answerHeader .tcp req response = [req 0, req 1, 0, 0, x, y, req 6] := by
  cases response with
  | echo request =>
      have copied : answerHeader .tcp req (.echo request) =
          [req 0, req 1, req 2, req 3, req 4, req 5, req 6] := rfl
      exact ⟨req 4, req 5, by rw [copied, hi, lo]⟩
  | _ => exact ⟨0, 0, rfl⟩

theorem answer_adu (b : Backend) (tId : Word) (slave : Byte) (pdu : List Byte) (req : Buffer)
    (holds : AgreeBelow (adu b tId slave pdu).length (ofBytes (adu b tId slave pdu)) req)
    (response : Response) :
    sendMsgPre b (answerHeader b req response ++ response.encode) =
      adu b tId slave response.encode := by
  cases b with
  | rtu =>
      have address : req 0 = slave := (holds 0 (by simp [adu, modbusRtuSendMsgPre])).symm
      rw [answerHeader_rtu, address]
      rfl
  | tcp =>
      have byte : ∀ i < 7, req i = ofBytes (adu .tcp tId slave pdu) i := by
        intro i bound
        exact (holds i (by simp only [adu, List.length_append, List.length_cons]; omega)).symm
      obtain ⟨x, y, header⟩ := answerHeader_tcp req response (byte 2 (by decide)) (byte 3 (by decide))
      rw [header, byte 0 (by decide), byte 1 (by decide), byte 6 (by decide)]
      exact sendMsgPre_tcp_adu tId slave x y response.encode

theorem preCheckConfirmation_adu (b : Backend) (tId : Word) (slave : Byte) (pdu pdu' : List Byte)
    (uninit : Buffer) :
    preCheckConfirmation b (ofBytes (adu b tId slave pdu)) (overlay uninit (adu b tId slave pdu')) =
      .ok () := by
  cases b with
  | rtu => exact if_neg fun different => different.1 rfl
  | tcp =>
      have same : ¬ (ofBytes (adu .tcp tId slave pdu) 0 ≠ overlay uninit (adu .tcp tId slave pdu') 0 ∨
          ofBytes (adu .tcp tId slave pdu) 1 ≠ overlay uninit (adu .tcp tId slave pdu') 1) := by
        rintro (different | different)
        · exact different rfl
        · exact different rfl
      exact (if_neg same).trans (if_neg fun nonzero => nonzero rfl)

theorem exchange_silence {π : Type} (react : React π) (c : Conn (Line π)) (req : List Byte)
    (connected : c.ctx.isConnected) (silent : c.line.incoming.signals = [])
    (nonempty : sendMsgPre c.ctx.backend req ≠ []) {arrivals : List (Arrival Byte)} {peer : π}
    (reacts : react (sendMsgPre c.ctx.backend req) c.line.peer =
      (.ok (sendMsgPre c.ctx.backend req).length, arrivals, peer))
    (quiet : arrivals.flatMap Arrival.signals = [.silence]) :
    ∃ incoming, incoming.signals = [] ∧ exchange (lineDevice react) c req =
      (.error (.errno .etimedout), { c with line := ⟨incoming, peer⟩ }) := by
  set c₁ : Conn (Line π) := { c with line :=
    ⟨{ c.line.incoming with future := c.line.incoming.future ++ arrivals }, peer⟩ }
  have signals : c₁.line.incoming.signals = [.silence] := by
    simp only [Incoming.signals, List.append_eq_nil_iff] at silent
    simp only [c₁, Incoming.signals, List.flatMap_append, silent.1, silent.2, List.nil_append]
    exact quiet
  have positive : (0 : Int) < (sendMsgPre c.ctx.backend req).length := by
    have := List.length_pos_iff.mpr nonempty
    omega
  obtain ⟨incoming, silent', received⟩ :=
    modbusReceiveMsg_silence react .confirmation [] c₁ connected signals
  refine ⟨incoming, silent', ?_⟩
  rw [exchange, sendFrame_line react _ c reacts]
  simp only
  rw [if_pos positive, received]
  rfl

theorem exchange_unsent {π : Type} (react : React π) (c : Conn (Line π)) (req : List Byte)
    (noRecovery : c.ctx.linkRecovery = false) {e : Errno} {arrivals : List (Arrival Byte)} {peer : π}
    (reacts : react (sendMsgPre c.ctx.backend req) c.line.peer = (.error e, arrivals, peer)) :
    exchange (lineDevice react) c req = (.error (.errno e), { c with line :=
      ⟨{ c.line.incoming with future := c.line.incoming.future ++ arrivals }, peer⟩ }) := by
  have failed : (lineDevice react).send (sendMsgPre c.ctx.backend req) c.line = (.error e,
      ⟨{ c.line.incoming with future := c.line.incoming.future ++ arrivals }, peer⟩) := by
    simp only [lineDevice, reacts]
  rw [exchange, sendFrame, sendLoop, failed]
  simp [noRecovery]

end ModbusNet
