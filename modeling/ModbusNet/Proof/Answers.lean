import ModbusNet.Model.Setup
import ModbusNet.Proof.Frames

namespace ModbusNet

/-- A request that `modbus_receive` returns on some connection, which then has the given context. -/
def Returned (ctx : Ctx) (req : Buffer) (n : Int) : Prop :=
  n ≠ 0 ∧ ∃ (τ : Type) (link : Device τ) (c c' : Conn τ) (buffer : Buffer),
    modbusReceive link c buffer = (.ok n, req, c') ∧ c'.ctx = ctx

theorem Returned.received {ctx : Ctx} {req : Buffer} {n : Int} (returned : Returned ctx req n) :
    Received ctx.backend req n := by
  obtain ⟨accepted, τ, link, c, c', buffer, result, rfl⟩ := returned
  obtain ⟨same, received⟩ := modbusReceive_received link result accepted
  rwa [same]

def Conn.sent (c c' : Conn (Line Log)) : List (List Byte) := c'.line.peer.drop c.line.peer.length

theorem Conn.sent_append {c c' : Conn (Line Log)} {frames : List (List Byte)}
    (log : c'.line.peer = c.line.peer ++ frames) : c.sent c' = frames := by
  rw [sent, log]
  exact List.drop_left

def answerFrame (b : Backend) (req : Buffer) (response : Response) : List Byte :=
  sendMsgPre b (answerHeader b req response ++ response.encode)

theorem answerFrame_carries (b : Backend) (req : Buffer) (response : Response) :
    Carries b (answerFrame b req response) response.encode :=
  sendMsgPre_carries b _ _ (answerHeader_length b req response)

theorem ClientOp.run_sent (op : ClientOp) (c : Conn (Line Log)) (accepted : op.refusal = none) :
    c.sent (op.run logDevice c).2.2 =
      [sendMsgPre c.ctx.backend (requestHeader c.ctx.nextRequest ++ op.pdu)] := by
  rcases op.run_sends logDevice c with ⟨e, refused, -⟩ | ⟨-, run⟩
  · rw [accepted] at refused
    cases refused
  · apply Conn.sent_append
    rw [run, finish_conn, exchange_log]
    simp only [nextRequest_backend]

theorem Carries.function {b : Backend} {frame pdu : List Byte} (carries : Carries b frame pdu)
    (nonempty : 0 < pdu.length) : ofBytes frame b.headerLength = ofBytes pdu 0 :=
  (carries.contains fun _ _ => rfl).function nonempty

section
variable (c : Conn (Line Log)) (req : Buffer)

theorem modbusReply_served {n : Int} {mb : ModbusMapping} {outcome : Outcome}
    (received : Received c.ctx.backend req n)
    (served : (Request.decode (pduAt c.ctx.backend req)).serve c.ctx.version mb = .ok outcome) :
    let frame := answerFrame c.ctx.backend req outcome.response
    let done := modbusReply logDevice c req n mb
    done.1 = .ok (if suppressed c.ctx req then 0 else frame.length) ∧
      done.2.1 = outcome.mapping ∧
      done.2.2.line.peer = c.line.peer ++ if suppressed c.ctx req then [] else [frame] := by
  rw [modbusReply, replySwitch_received c.ctx req n mb received, served]
  exact ⟨sendAnswer_log_rc c req _, rfl, sendAnswer_log c req _⟩

theorem modbusReply_failed {n : Int} {mb : ModbusMapping} {e : Failure}
    (received : Received c.ctx.backend req n)
    (failed : (Request.decode (pduAt c.ctx.backend req)).serve c.ctx.version mb = .error e) :
    modbusReply logDevice c req n mb = (.error e, mb, c) := by
  rw [modbusReply, replySwitch_received c.ctx req n mb received, failed]
  rfl

theorem modbusReply_sent {n : Int} {mb : ModbusMapping} {outcome : Outcome}
    (received : Received c.ctx.backend req n)
    (served : (Request.decode (pduAt c.ctx.backend req)).serve c.ctx.version mb = .ok outcome) :
    c.sent (modbusReply logDevice c req n mb).2.2 =
      if suppressed c.ctx req then [] else [answerFrame c.ctx.backend req outcome.response] :=
  Conn.sent_append (modbusReply_served c req received served).2.2

theorem modbusReply_sent_mem {n : Int} {mb : ModbusMapping} {frame : List Byte}
    (received : Received c.ctx.backend req n)
    (member : frame ∈ c.sent (modbusReply logDevice c req n mb).2.2) :
    ∃ outcome, (Request.decode (pduAt c.ctx.backend req)).serve c.ctx.version mb = .ok outcome ∧
      frame = answerFrame c.ctx.backend req outcome.response := by
  cases served : (Request.decode (pduAt c.ctx.backend req)).serve c.ctx.version mb with
  | error e =>
      have nothing : c.sent c = [] := Conn.sent_append (List.append_nil _).symm
      rw [modbusReply_failed c req received served, nothing] at member
      cases member
  | ok outcome =>
      rw [modbusReply_sent c req received served] at member
      split at member
      · cases member
      · exact ⟨outcome, rfl, List.mem_singleton.mp member⟩

theorem modbusReplyException_sent {code : Nat} (valid : code < exceptionMax) :
    c.sent (modbusReplyException logDevice c req code).2 =
      [answerFrame c.ctx.backend req (.exception (req c.ctx.backend.headerLength).toNat code)] := by
  have basis := responseBasis_eq c.ctx.backend req 99 ((req c.ctx.backend.headerLength).toNat + 0x80)
  apply Conn.sent_append
  rw [modbusReplyException]
  simp only [if_pos valid, basis, sendMsg_log]
  rw [List.append_assoc]
  rfl

end

/-! ## How often a request is answered -/

/-- One frame has been sent and its length returned; or, when responses to broadcasts are
suppressed, nothing has been sent and 0 returned. -/
def AnsweredOnce (c : Conn (Line Log)) (req : Buffer) (rc : Except Failure Int)
    (c' : Conn (Line Log)) : Prop :=
  if suppressed c.ctx req then rc = .ok 0 ∧ c.sent c' = []
  else ∃ frame, rc = .ok frame.length ∧ c.sent c' = [frame]

/-- Every request is answered exactly once except a read exception status request, for which
`modbus_reply` returns -1. -/
theorem modbusReply_answeredOnce_iff (c : Conn (Line Log)) (req : Buffer) (n : Int)
    (returned : Returned c.ctx req n) (mb : ModbusMapping) (valid : mb.WellFormed) :
    AnsweredOnce c req (modbusReply logDevice c req n mb).1 (modbusReply logDevice c req n mb).2.2 ↔
      (req c.ctx.backend.headerLength).toNat ≠ fcReadExceptionStatus := by
  have received := returned.received
  cases served : (Request.decode (pduAt c.ctx.backend req)).serve c.ctx.version mb with
  | error e =>
      have asked := (Request.serve_fails valid served).1
      have function := Request.decode_function (pduAt c.ctx.backend req)
      rw [asked] at function
      refine iff_of_false ?_ (not_not.mpr function.symm)
      rw [modbusReply_failed c req received served, AnsweredOnce]
      split
      · rintro ⟨⟨⟩, -⟩
      · rintro ⟨frame, ⟨⟩, -⟩
  | ok outcome =>
      obtain ⟨rc, -, log⟩ := modbusReply_served c req received served
      have sent := Conn.sent_append log
      refine iff_of_true ?_ fun function => ?_
      · rw [AnsweredOnce, rc, sent]
        split
        · exact ⟨rfl, rfl⟩
        · exact ⟨_, rfl, rfl⟩
      · have asked : Request.decode (pduAt c.ctx.backend req) = .readExceptionStatus :=
          Request.decode_readExceptionStatus function
        rw [asked] at served
        cases served

def heard (ctx : Ctx) (frame : List Byte) : Except Failure Int × Buffer × Conn (Line Log) :=
  modbusReceive logDevice ((Conn.established ctx []).hear (carryWhole 0 frame)) fun _ => 0

theorem heard_returned {ctx : Ctx} {frame : List Byte} {n : Int} (accepted : n ≠ 0)
    (rc : (heard ctx frame).1 = .ok n) :
    Returned (heard ctx frame).2.2.ctx (heard ctx frame).2.1 n :=
  ⟨accepted, _, _, _, _, _, Prod.ext rc rfl, rfl⟩

def readTwoRegisters : List Byte := [0, 1, 0, 0, 0, 6, 0xFF, 0x03, 0, 0, 0, 2]

theorem fourRegisters_wellFormed : (modbusMappingNew 0 0 4 0).WellFormed :=
  modbusMappingNewStartAddress_wellFormed 0 0 0 0 0 4 0 0 (by simp [FitsInt])

theorem modbusReply_answeredOnce_iff_readRegisters :
    let server := heard newTcp readTwoRegisters
    let done := modbusReply logDevice server.2.2 server.2.1 12 (modbusMappingNew 0 0 4 0)
    AnsweredOnce server.2.2 server.2.1 done.1 done.2.2 :=
  (modbusReply_answeredOnce_iff _ _ 12 (heard_returned (by decide) (by decide +kernel)) _
    fourRegisters_wellFormed).mpr (by decide +kernel)

def readExceptionStatus : List Byte := [0, 1, 0, 0, 0, 2, 0xFF, 0x07]

theorem exceptionStatus_unanswered :
    let server := heard newTcp readExceptionStatus
    let done := modbusReply logDevice server.2.2 server.2.1 8 (modbusMappingNew 0 0 4 0)
    Returned server.2.2.ctx server.2.1 8 ∧ (modbusMappingNew 0 0 4 0).WellFormed ∧
      done.1 = .error (.errno .enoprotoopt) ∧ ¬ AnsweredOnce server.2.2 server.2.1 done.1 done.2.2 := by
  intro server done
  have failed : done.1 = .error (.errno .enoprotoopt) := by decide +kernel
  have addressed : suppressed server.2.2.ctx server.2.1 = false := by decide +kernel
  refine ⟨heard_returned (by decide) (by decide +kernel), fourRegisters_wellFormed, failed, ?_⟩
  rw [AnsweredOnce, addressed, failed]
  rintro ⟨frame, ⟨⟩, -⟩

/-! ## How an answer is delimited -/

/-- `_modbus_receive_msg` in confirmation mode reads exactly the frame, whatever comes behind it. On
a serial line it returns 0 for the frame of another slave. -/
def ConsumedWhole (b : Backend) (frame : List Byte) : Prop :=
  ∀ (π : Type) (react : React π) (c : Conn (Line π)) (rest : List (Signal Byte)),
    c.ctx.backend = b → c.ctx.isConnected → c.line.incoming.signals = frame.map .item ++ rest →
    ∃ rc incoming, incoming.signals = rest ∧
      modbusReceiveMsg (lineDevice react) .confirmation c =
        (.ok rc, frame, c.withIncoming incoming) ∧
      (rc = frame.length ∨ b = .rtu ∧ rc = 0 ∧ ((ofBytes frame 0).toNat : Int) ≠ c.ctx.slave)

def ExceptionReply (b : Backend) (req : Buffer) (frame : List Byte) : Prop :=
  ofBytes frame b.headerLength = loByte ((req b.headerLength).toNat + 0x80)

instance (b : Backend) (req : Buffer) (frame : List Byte) : Decidable (ExceptionReply b req frame) :=
  inferInstanceAs (Decidable (_ = _))

def FramedAlike (b : Backend) (req : Buffer) (frame : List Byte) : Prop :=
  ConsumedWhole b frame ∧
    (ExceptionReply b req frame → 0x80 ≤ (ofBytes frame b.headerLength).toNat)

theorem checkIntegrity_sent {σ : Type} (dev : Device σ) (c : Conn σ) (msg : List Byte) :
    ∃ rc : Int, checkIntegrity dev c (sendMsgPre c.ctx.backend msg) = (.ok rc, c) ∧
      (rc = (sendMsgPre c.ctx.backend msg).length ∨ c.ctx.backend = .rtu ∧ rc = 0 ∧
        ((ofBytes (sendMsgPre c.ctx.backend msg) 0).toNat : Int) ≠ c.ctx.slave) := by
  cases backend : c.ctx.backend with
  | tcp => exact ⟨_, checkIntegrity_tcp dev c _ backend, .inl rfl⟩
  | rtu =>
      have crc : crcMatches (sendMsgPre .rtu msg) = true := crcMatches_send msg
      rw [checkIntegrity, backend]
      simp only [modbusRtuCheckIntegrity, crc]
      by_cases foreign : (((sendMsgPre .rtu msg).getD 0 0).toNat : Int) ≠ c.ctx.slave ∧
          ((sendMsgPre .rtu msg).getD 0 0).toNat ≠ broadcastAddress
      · rw [if_pos foreign]
        exact ⟨0, rfl, .inr ⟨trivial, rfl, foreign.1⟩⟩
      · rw [if_neg foreign]
        exact ⟨_, rfl, .inl rfl⟩

theorem consumedWhole_answer {b : Backend} {req : Buffer} {response : Response}
    (whole : Whole .confirmation response.encode) :
    ConsumedWhole b (answerFrame b req response) := by
  rintro π react c rest rfl connected next
  have delimits := (answerFrame_carries c.ctx.backend req response).delimits whole
  obtain ⟨incoming, rest', received⟩ :=
    modbusReceiveMsg_frame react .confirmation _ rest c connected delimits next
  obtain ⟨rc, checked, length⟩ := checkIntegrity_sent (lineDevice react) (c.withIncoming incoming)
    (answerHeader c.ctx.backend req response ++ response.encode)
  refine ⟨rc, incoming, rest', ?_, length⟩
  rw [received, answerFrame, show sendMsgPre c.ctx.backend _ = sendMsgPre
    (c.withIncoming incoming).ctx.backend _ from rfl, checked]

theorem answerFrame_function (b : Backend) (req : Buffer) (response : Response) :
    ofBytes (answerFrame b req response) b.headerLength = ofBytes response.encode 0 :=
  (answerFrame_carries b req response).function response.encode_pos

theorem exception_unmarked (b : Backend) (req : Buffer) (code : Nat)
    (high : 0x80 ≤ (req b.headerLength).toNat) :
    ¬ FramedAlike b req (answerFrame b req (.exception (req b.headerLength).toNat code)) := by
  rintro ⟨-, marked⟩
  have function := answerFrame_function b req (.exception (req b.headerLength).toNat code)
  have seen := marked function
  rw [function] at seen
  simp only [Response.encode, ofBytes, List.getD_cons_zero, loByte, BitVec.toNat_ofInt] at seen
  omega

theorem exception_marked {b : Backend} {req : Buffer} {frame : List Byte}
    (small : (req b.headerLength).toNat < 0x80) (marked : ExceptionReply b req frame) :
    0x80 ≤ (ofBytes frame b.headerLength).toNat := by
  rw [marked]
  simp only [loByte, BitVec.toNat_ofInt]
  omega

theorem exception_framed_iff (b : Backend) (req : Buffer) (code : Nat) :
    FramedAlike b req (answerFrame b req (.exception (req b.headerLength).toNat code)) ↔
      (req b.headerLength).toNat < 0x80 := by
  constructor
  · intro framed
    by_contra high
    exact exception_unmarked b req code (not_lt.mp high) framed
  · intro small
    exact ⟨consumedWhole_answer (exception_whole _ code small), exception_marked small⟩

/-- The frames of `modbus_reply` are read as they have been sent exactly when the function code is
below 0x80 or nothing is sent, and those of `modbus_reply_exception` when it is below 0x80. -/
theorem replies_framed_iff (c : Conn (Line Log)) (req : Buffer) (n : Int)
    (returned : Returned c.ctx req n) (mb : ModbusMapping) :
    ((∀ frame ∈ c.sent (modbusReply logDevice c req n mb).2.2, FramedAlike c.ctx.backend req frame) ↔
        (req c.ctx.backend.headerLength).toNat < 0x80 ∨ suppressed c.ctx req) ∧
      ∀ code < exceptionMax,
        (∀ frame ∈ c.sent (modbusReplyException logDevice c req code).2,
            FramedAlike c.ctx.backend req frame) ↔
          (req c.ctx.backend.headerLength).toNat < 0x80 := by
  have received := returned.received
  have asked := Request.decode_function (pduAt c.ctx.backend req)
  refine ⟨⟨fun framed => ?_, ?_⟩, fun code valid => ?_⟩
  · by_contra neither
    obtain ⟨high, addressed⟩ := not_or.mp neither
    have unknown : (req c.ctx.backend.headerLength).toNat ∉ knownFunctions := by
      intro known
      have small := known_small (r := Request.decode (pduAt c.ctx.backend req)) (by rwa [asked])
      exact high (by rwa [asked] at small)
    obtain ⟨data, decoded⟩ : ∃ data, Request.decode (pduAt c.ctx.backend req) =
        .other (req c.ctx.backend.headerLength) data := Request.decode_other unknown
    have served : (Request.decode (pduAt c.ctx.backend req)).serve c.ctx.version mb =
        .ok ⟨.exception (req c.ctx.backend.headerLength).toNat exceptionIllegalFunction, true, mb⟩ := by
      rw [decoded]
      rfl
    rw [modbusReply_sent c req received served, if_neg addressed] at framed
    exact exception_unmarked c.ctx.backend req _ (not_lt.mp high) (framed _ (List.mem_singleton_self _))
  · rintro (small | silent) frame member
    · obtain ⟨outcome, served, rfl⟩ := modbusReply_sent_mem c req received member
      have answer := Request.serve_answer _ _ _ outcome served
      exact ⟨consumedWhole_answer (answer.whole (by rwa [asked])), exception_marked small⟩
    · obtain ⟨outcome, served, rfl⟩ := modbusReply_sent_mem c req received member
      rw [modbusReply_sent c req received served, if_pos silent] at member
      cases member
  · rw [modbusReplyException_sent c req valid, ← exception_framed_iff c.ctx.backend req code]
    exact ⟨fun framed => framed _ (List.mem_singleton_self _),
      fun framed frame member => List.mem_singleton.mp member ▸ framed⟩

theorem replies_framed_iff_readRegisters :
    let server := heard newTcp readTwoRegisters
    ∀ frame ∈ server.2.2.sent (modbusReply logDevice server.2.2 server.2.1 12
      (modbusMappingNew 0 0 4 0)).2.2, FramedAlike .tcp server.2.1 frame :=
  (replies_framed_iff _ _ 12 (heard_returned (by decide) (by decide +kernel)) _).1.mpr
    (.inl (by decide +kernel))

def functionFrom0x80 : List Byte := [0, 1, 0, 0, 0, 2, 0xFF, 0x83]

theorem exception_of_0x83 :
    let server := heard newTcp functionFrom0x80
    let sent := server.2.2.sent (modbusReply logDevice server.2.2 server.2.1 8
      (modbusMappingNew 0 0 4 0)).2.2
    Returned server.2.2.ctx server.2.1 8 ∧ sent = [[0, 1, 0, 0, 0, 3, 0xFF, 0x03, 1]] ∧
      (modbusReceiveMsg logDevice .confirmation ((Conn.established newTcp []).hear
        (carryWhole 0 [0, 1, 0, 0, 0, 3, 0xFF, 0x03, 1]))).1 = .error .hang ∧
      ¬ ∀ frame ∈ sent, FramedAlike .tcp server.2.1 frame := by
  intro server sent
  have reply : sent = [[0, 1, 0, 0, 0, 3, 0xFF, 0x03, 1]] := by decide +kernel
  refine ⟨heard_returned (by decide) (by decide +kernel), reply, by decide +kernel, ?_⟩
  intro framed
  rw [reply] at framed
  have marked := (framed _ (List.mem_singleton_self _)).2 (by decide +kernel)
  exact absurd marked (by decide)

/-! ## The MBAP header of an answer -/

structure MbapHeader (req : Buffer) (frame : List Byte) : Prop where
  tId : be16 (ofBytes frame) 0 = be16 req 0
  protocol : be16 (ofBytes frame) 2 = 0
  length : be16 (ofBytes frame) 4 + 6 = frame.length
  unit : ofBytes frame 6 = req 6

def answerProtocol (req : Buffer) : Response → Byte × Byte
  | .echo _ => (req 2, req 3)
  | _ => (0, 0)

theorem answerFrame_tcp (req : Buffer) (response : Response) :
    answerFrame .tcp req response = [req 0, req 1, (answerProtocol req response).1,
      (answerProtocol req response).2, hiByte (response.encode.length + 1 : Nat),
      loByte (response.encode.length + 1 : Nat), req 6] ++ response.encode := by
  obtain ⟨x, y, header⟩ : ∃ x y, answerHeader .tcp req response = [req 0, req 1,
      (answerProtocol req response).1, (answerProtocol req response).2, x, y, req 6] := by
    cases response with
    | echo request => exact ⟨req 4, req 5, rfl⟩
    | _ => exact ⟨0, 0, rfl⟩
  rw [answerFrame, header, sendMsgPre_tcp]

theorem answerFrame_mbap_iff (req : Buffer) (response : Response)
    (short : response.encode.length ≤ maxPduLength) :
    MbapHeader req (answerFrame .tcp req response) ↔
      beWord (answerProtocol req response).1 (answerProtocol req response).2 = 0 := by
  rw [answerFrame_tcp]
  constructor
  · exact fun header => header.protocol
  · intro protocol
    refine ⟨rfl, protocol, ?_, rfl⟩
    have counted : beWord (hiByte (response.encode.length + 1 : Nat))
        (loByte (response.encode.length + 1 : Nat)) = response.encode.length + 1 := by
      apply beWord_bytes_nat
      simp only [maxPduLength] at short
      omega
    rw [List.length_append, List.length_cons]
    exact (congrArg (· + 6) counted).trans (by simp only [List.length_cons, List.length_nil]; omega)

/-- The header of every reply is right exactly when the protocol identifier of the request is 0 or
the request is not copied; the header of an exception of `modbus_reply_exception` always is. -/
theorem replies_mbap_iff (c : Conn (Line Log)) (tcp : c.ctx.backend = .tcp) (req : Buffer) (n : Int)
    (returned : Returned c.ctx req n) (mb : ModbusMapping) (valid : mb.WellFormed) :
    ((∀ frame ∈ c.sent (modbusReply logDevice c req n mb).2.2, MbapHeader req frame) ∧
        ∀ code, ∀ frame ∈ c.sent (modbusReplyException logDevice c req code).2, MbapHeader req frame) ↔
      be16 req 2 = 0 ∨ ¬ (Request.decode (pduAt .tcp req)).Copied mb := by
  have received := returned.received
  have fits : (Request.decode (pduAt .tcp req)).encode.length ≤ maxPduLength := by
    rw [Request.encode_length, ← tcp]
    exact received.length.2
  have loud : suppressed c.ctx req = false := by
    rw [suppressed, tcp]
    rfl
  have exceptions : ∀ code, ∀ frame ∈ c.sent (modbusReplyException logDevice c req code).2,
      MbapHeader req frame := by
    intro code frame member
    by_cases known : code < exceptionMax
    · rw [modbusReplyException_sent c req known, tcp] at member
      rw [List.mem_singleton.mp member, answerFrame_mbap_iff _ _ (Nat.le_of_ble_eq_true rfl)]
      rfl
    · have nothing : c.sent c = [] := Conn.sent_append (List.append_nil _).symm
      rw [modbusReplyException, if_neg known, nothing] at member
      cases member
  have echoes := Request.serve_echo_iff c.ctx.version mb (Request.decode (pduAt .tcp req))
  have answers := Request.serve_answer c.ctx.version mb (Request.decode (pduAt .tcp req))
  rw [tcp] at received
  cases served : (Request.decode (pduAt .tcp req)).serve c.ctx.version mb with
  | error e =>
      obtain ⟨asked, -⟩ := Request.serve_fails valid served
      refine iff_of_true ⟨?_, exceptions⟩ (.inr ?_)
      · intro frame member
        obtain ⟨outcome, served', -⟩ := modbusReply_sent_mem c req (tcp ▸ received) member
        rw [tcp, served] at served'
        cases served'
      · rw [asked]
        exact id
  | ok outcome =>
      have short := (answers outcome served).short fits
      have sent : c.sent (modbusReply logDevice c req n mb).2.2 = _ :=
        modbusReply_sent c req (tcp ▸ received) (by rw [tcp]; exact served)
      have header := answerFrame_mbap_iff req outcome.response short
      have only : (∀ frame ∈ c.sent (modbusReply logDevice c req n mb).2.2, MbapHeader req frame) ↔
          MbapHeader req (answerFrame .tcp req outcome.response) := by
        rw [sent, loud, tcp]
        exact ⟨fun right => right _ (List.mem_singleton_self _),
          fun right frame member => List.mem_singleton.mp member ▸ right⟩
      have copied : (∃ request, outcome.response = .echo request) ↔ _ := echoes outcome served
      rw [only, header, ← copied, and_iff_left exceptions]
      cases outcome.response with
      | echo request => exact ⟨.inl, fun either => either.resolve_right (not_not.mpr ⟨_, rfl⟩)⟩
      | _ =>
          refine iff_of_true rfl (.inr ?_)
          rintro ⟨request, ⟨⟩⟩

def writeCoilProtocol7 : List Byte := [0, 1, 0, 7, 0, 6, 0xFF, 0x05, 0, 0, 0xFF, 0]

theorem replies_mbap_iff_readRegisters :
    let server := heard newTcp readTwoRegisters
    ∀ frame ∈ server.2.2.sent (modbusReply logDevice server.2.2 server.2.1 12
      (modbusMappingNew 0 0 4 0)).2.2, MbapHeader server.2.1 frame :=
  ((replies_mbap_iff (heard newTcp readTwoRegisters).2.2 (by decide +kernel)
    (heard newTcp readTwoRegisters).2.1 12 (heard_returned (by decide) (by decide +kernel)) _
    fourRegisters_wellFormed).mpr (.inl (by decide +kernel))).1

theorem written_with_protocol7 :
    let server := heard newTcp writeCoilProtocol7
    let sent := server.2.2.sent (modbusReply logDevice server.2.2 server.2.1 12
      (modbusMappingNew 1 0 0 0)).2.2
    Returned server.2.2.ctx server.2.1 12 ∧ sent = [writeCoilProtocol7] ∧
      ¬ ∀ frame ∈ sent, MbapHeader server.2.1 frame := by
  intro server sent
  have reply : sent = [writeCoilProtocol7] := by decide +kernel
  refine ⟨heard_returned (by decide) (by decide +kernel), reply, fun right => ?_⟩
  rw [reply] at right
  exact absurd (right _ (List.mem_singleton_self _)).protocol (by decide)

end ModbusNet
