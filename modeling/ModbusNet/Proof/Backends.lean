import ModbusNet.Model.Setup
import ModbusNet.Proof.Lines
import ModbusNet.Proof.ServerSafety

namespace ModbusNet

theorem crcMatches_send (msg : List Byte) : crcMatches (modbusRtuSendMsgPre msg) = true := by
  have last : (msg ++ [loByte (crc16 msg).toNat, hiByte (crc16 msg).toNat]).getD (msg.length + 1) 0 =
      hiByte (crc16 msg).toNat := by
    rw [List.getD_append_right _ _ _ _ (by omega)]
    simp
  have second : (msg ++ [loByte (crc16 msg).toNat, hiByte (crc16 msg).toNat]).getD msg.length 0 =
      loByte (crc16 msg).toNat := by
    rw [List.getD_append_right _ _ _ _ le_rfl]
    simp
  have length : (msg ++ [loByte (crc16 msg).toNat, hiByte (crc16 msg).toNat]).length =
      msg.length + 2 := by
    simp
  rw [crcMatches, modbusRtuSendMsgPre, length, Nat.add_sub_cancel, Nat.add_sub_assoc (by omega),
    List.take_left' rfl, last, second, wordOf_bytes]
  exact beq_self_eq_true _

section
variable {σ : Type} (dev : Device σ)

theorem checkIntegrity_tcp (c : Conn σ) (msg : List Byte) (backend : c.ctx.backend = .tcp) :
    checkIntegrity dev c msg = (.ok msg.length, c) := by
  rw [checkIntegrity, backend]

def RtuAccepts (ctx : Ctx) (msg : List Byte) : Prop :=
  (((msg.getD 0 0).toNat : Int) = ctx.slave ∨ (msg.getD 0 0).toNat = broadcastAddress) ∧
    crcMatches msg = true

theorem checkIntegrity_accepts (c : Conn σ) (msg : List Byte)
    (accepts : c.ctx.backend = .rtu → RtuAccepts c.ctx msg) :
    checkIntegrity dev c msg = (.ok msg.length, c) := by
  cases backend : c.ctx.backend with
  | tcp => exact checkIntegrity_tcp dev c msg backend
  | rtu =>
      obtain ⟨addressed, crc⟩ := accepts backend
      simp only [checkIntegrity, backend, modbusRtuCheckIntegrity, crc]
      rw [if_neg (by tauto)]
      rfl

theorem rtuAccepts_send (ctx : Ctx) (slave : Byte) (msg : List Byte)
    (addressed : (slave.toNat : Int) = ctx.slave ∨ slave.toNat = broadcastAddress) :
    RtuAccepts ctx (modbusRtuSendMsgPre (slave :: msg)) := ⟨addressed, crcMatches_send _⟩

theorem checkIntegrity_foreign (c : Conn σ) (slave : Byte) (msg : List Byte)
    (backend : c.ctx.backend = .rtu) (foreign : (slave.toNat : Int) ≠ c.ctx.slave)
    (unicast : slave.toNat ≠ broadcastAddress) :
    checkIntegrity dev c (slave :: msg) = (.ok 0, c) := by
  simp only [checkIntegrity, backend, modbusRtuCheckIntegrity, List.getD_cons_zero]
  exact if_pos ⟨foreign, unicast⟩

end

theorem pduLength_take (msgType : MsgType) (p : List Byte) (n : Nat)
    (enough : pduHeadLength msgType (ofBytes p) ≤ n) (long : n ≤ p.length) :
    pduLength msgType (ofBytes (p.take n)) = pduLength msgType (ofBytes p) := by
  refine (pduLength_agree fun i bound => ?_).symm
  have inside : i < (p.take n).length := by
    rw [List.length_take]
    omega
  have split := ofBytes_append_left (p.take n) (p.drop n) i inside
  rwa [List.take_append_drop] at split

theorem pduHeadLength_le_ten (msgType : MsgType) (pdu : Buffer) : pduHeadLength msgType pdu ≤ 10 := by
  unfold pduHeadLength computeMetaLengthAfterFunction
  cases msgType <;> simp only <;> split_ifs <;> omega

theorem whole_take (msgType : MsgType) (p : List Byte)
    (fits : pduLength msgType (ofBytes p) ≤ maxPduLength) (long : maxPduLength ≤ p.length) :
    Whole msgType (p.take (pduLength msgType (ofBytes p))) where
  length := by
    rw [pduLength_take _ _ _ (pduHeadLength_le _ _) (fits.trans long), List.length_take]
    exact Nat.min_eq_left (fits.trans long)
  fits := by
    rw [List.length_take]
    exact (Nat.min_le_left _ _).trans fits

section
variable {π : Type} (react : React π)

theorem modbusReceiveMsg_whole (msgType : MsgType) (header pdu checksum : List Byte)
    (rest : List (Signal Byte)) (c : Conn (Line π)) (connected : c.ctx.isConnected)
    (whole : Whole msgType pdu) (header_length : header.length = c.ctx.backend.headerLength)
    (checksum_length : checksum.length = c.ctx.backend.checksumLength)
    (next : c.line.incoming.signals = (header ++ (pdu ++ checksum)).map .item ++ rest) :
    ∃ incoming, incoming.signals = rest ∧
      modbusReceiveMsg (lineDevice react) msgType c =
        ((checkIntegrity (lineDevice react) (c.withIncoming incoming)
            (header ++ (pdu ++ checksum))).1, header ++ (pdu ++ checksum),
          (checkIntegrity (lineDevice react) (c.withIncoming incoming)
            (header ++ (pdu ++ checksum))).2) :=
  modbusReceiveMsg_frame react msgType _ rest c connected
    (whole.delimits header_length checksum_length) next

theorem modbusReceiveMsg_reject (msgType : MsgType) (header p : List Byte)
    (rest : List (Signal Byte)) (c : Conn (Line π)) (connected : c.ctx.isConnected)
    (header_length : header.length = c.ctx.backend.headerLength) (long : 10 ≤ p.length)
    (tooLong : maxPduLength < pduLength msgType (ofBytes p))
    (next : c.line.incoming.signals = (header ++ p).map .item ++ rest) :
    (modbusReceiveMsg (lineDevice react) msgType c).1 = .error (.errno .embbaddata) := by
  set n := pduHeadLength msgType (ofBytes p) with n_def
  have enough : n ≤ p.length := (pduHeadLength_le_ten _ _).trans long
  have pdu : AgreeBelow n (pduAt c.ctx.backend (ofBytes (header ++ p.take n))) (ofBytes p) := by
    intro i bound
    have inside : i < (p.take n).length := by
      rw [List.length_take]
      omega
    have split := ofBytes_append_left (p.take n) (p.drop n) i inside
    rw [List.take_append_drop] at split
    rw [pduAt, ← header_length, ofBytes_append_right, split]
  have positive : 0 < n := by
    rw [n_def, pduHeadLength]
    omega
  have heads : pduHeadLength msgType (pduAt c.ctx.backend (ofBytes (header ++ p.take n))) = n :=
    pduHeadLength_congr msgType (pdu 0 positive)
  have lengths : pduLength msgType (pduAt c.ctx.backend (ofBytes (header ++ p.take n))) =
      pduLength msgType (ofBytes p) := pduLength_agree (by rw [heads]; exact pdu)
  have head_length : (header ++ p.take n).length =
      headLength c.ctx.backend msgType (ofBytes (header ++ p.take n)) := by
    rw [headLength_eq, heads, List.length_append, header_length, List.length_take,
      Nat.min_eq_left enough]
  have exceeds : c.ctx.backend.maxAduLength <
      frameLength c.ctx.backend msgType (ofBytes (header ++ p.take n)) := by
    rw [frameLength_eq, lengths, maxAduLength_eq]
    omega
  have split : c.line.incoming.signals =
      (header ++ p.take n).map .item ++ ((p.drop n).map .item ++ rest) := by
    rw [next, ← List.append_assoc, ← List.map_append, List.append_assoc, List.take_append_drop]
  obtain ⟨incoming, -, run⟩ :=
    modbusReceiveMsg_tooLong react msgType _ _ c connected head_length exceeds split
  rw [run]

end

theorem answerHeader_length (b : Backend) (req : Buffer) (response : Response) :
    (answerHeader b req response).length = b.headerLength := by
  cases response with
  | echo request => exact bytesAt_length _ _ _
  | _ => exact responseHeader_length b req

def Carries (b : Backend) (frame pdu : List Byte) : Prop :=
  ∃ header checksum, header.length = b.headerLength ∧ checksum.length = b.checksumLength ∧
    frame = header ++ (pdu ++ checksum)

theorem sendMsgPre_carries (b : Backend) (header pdu : List Byte)
    (header_length : header.length = b.headerLength) :
    Carries b (sendMsgPre b (header ++ pdu)) pdu := by
  cases b with
  | rtu => exact ⟨header, _, header_length, rfl, List.append_assoc _ _ _⟩
  | tcp =>
      rw [Backend.headerLength_tcp] at header_length
      set mbapLength : Int := (header ++ pdu).length - 6
      have framed : sendMsgPre .tcp (header ++ pdu) =
          (header.set 4 (hiByte mbapLength)).set 5 (loByte mbapLength) ++ (pdu ++ []) := by
        rw [sendMsgPre, modbusTcpSendMsgPre, List.set_append_left _ _ (by omega),
          List.set_append_left _ _ (by rw [List.length_set]; omega), List.append_nil]
      exact ⟨_, [], by simpa using header_length, rfl, framed⟩

theorem modbusReply_log (c : Conn (Line Log)) (req : Buffer) (n : Int) (mb : ModbusMapping)
    (received : Received c.ctx.backend req n) (unicast : suppressed c.ctx req = false) :
    let r := Request.decode (pduAt c.ctx.backend req)
    let done := modbusReply logDevice c req n mb
    match r.serve c.ctx.version mb with
    | .error _ => done.2.1 = mb ∧ done.2.2.line.peer = c.line.peer
    | .ok outcome => done.2.1 = outcome.mapping ∧ ∃ frame,
        Carries c.ctx.backend frame outcome.response.encode ∧
          done.2.2.line.peer = c.line.peer ++ [frame] := by
  simp only [modbusReply, replySwitch_received c.ctx req n mb received]
  cases served : (Request.decode (pduAt c.ctx.backend req)).serve c.ctx.version mb with
  | error e => exact ⟨rfl, rfl⟩
  | ok outcome =>
      refine ⟨rfl, _, sendMsgPre_carries c.ctx.backend
        (answerHeader c.ctx.backend req outcome.response) _ (answerHeader_length _ _ _), ?_⟩
      simp only [Except.map, sendAnswer_log, unicast]
      rfl

theorem received_frame (b : Backend) (header pdu checksum : List Byte) (req : Buffer)
    (whole : Whole .indication pdu) (header_length : header.length = b.headerLength)
    (checksum_length : checksum.length = b.checksumLength)
    (holds : AgreeBelow (header ++ (pdu ++ checksum)).length (ofBytes (header ++ (pdu ++ checksum))) req) :
    Received b req (header ++ (pdu ++ checksum)).length ∧
      Request.decode (pduAt b req) = Request.decode (ofBytes pdu) := by
  refine ⟨⟨_, rfl, (whole.delimits header_length checksum_length).agree holds⟩, ?_⟩
  refine (Request.decode_agree fun i bound => ?_).symm
  have inside : i < pdu.length := by
    rw [whole.length]
    exact bound
  rw [pduAt, ← holds _ (by simp only [List.length_append, header_length]; omega), ← header_length,
    ofBytes_append_right]
  exact (ofBytes_append_left pdu checksum i inside).symm

/-- The TCP and the RTU reading of a stream: both reject it, or both delimit the same protocol data
unit. -/
def ReadAlike {π π' : Type} (react : React π) (react' : React π') (msgType : MsgType)
    (tcp : Conn (Line π)) (rtu : Conn (Line π')) (slave : Byte) (header p : List Byte) : Prop :=
  ∀ (incoming : Incoming Byte) (rest : List (Signal Byte)),
    incoming.signals = (header ++ p).map .item ++ rest →
    ((modbusReceiveMsg (lineDevice react) msgType (tcp.withIncoming incoming)).1 =
        .error (.errno .embbaddata) ∧
      ∀ incoming' rest', incoming'.signals = (slave :: p).map .item ++ rest' →
        (modbusReceiveMsg (lineDevice react') msgType (rtu.withIncoming incoming')).1 =
          .error (.errno .embbaddata)) ∨
    ∃ q later, p = q ++ later ∧
      (∃ left, left.signals = later.map .item ++ rest ∧
        modbusReceiveMsg (lineDevice react) msgType (tcp.withIncoming incoming) =
          (.ok (header ++ q).length, header ++ q, tcp.withIncoming left)) ∧
      ∀ incoming' rest',
        incoming'.signals = (modbusRtuSendMsgPre (slave :: q)).map .item ++ rest' →
        ∃ left, left.signals = rest' ∧
          modbusReceiveMsg (lineDevice react') msgType (rtu.withIncoming incoming') =
            (.ok (modbusRtuSendMsgPre (slave :: q)).length, modbusRtuSendMsgPre (slave :: q),
              rtu.withIncoming left)

/-- A TCP request and an RTU request with the same protocol data unit are answered alike: the same
new mapping, and frames that carry the same protocol data units. -/
def AnsweredAlike (tcp rtu : Conn (Line Log)) (slave : Byte) (header q : List Byte)
    (mb : ModbusMapping) : Prop :=
  ∀ reqTcp reqRtu : Buffer,
    AgreeBelow (header ++ q).length (ofBytes (header ++ q)) reqTcp →
    AgreeBelow (modbusRtuSendMsgPre (slave :: q)).length (ofBytes (modbusRtuSendMsgPre (slave :: q)))
      reqRtu →
    let byTcp := modbusReply logDevice tcp reqTcp (header ++ q).length mb
    let byRtu := modbusReply logDevice rtu reqRtu (modbusRtuSendMsgPre (slave :: q)).length mb
    byTcp.2.1 = byRtu.2.1 ∧ ∃ framesTcp framesRtu pdus : List (List Byte),
      byTcp.2.2.line.peer = tcp.line.peer ++ framesTcp ∧ List.Forall₂ (Carries .tcp) framesTcp pdus ∧
      byRtu.2.2.line.peer = rtu.line.peer ++ framesRtu ∧ List.Forall₂ (Carries .rtu) framesRtu pdus

theorem readAlike {π π' : Type} (react : React π) (react' : React π') (msgType : MsgType)
    (tcp : Conn (Line π)) (rtu : Conn (Line π')) (slave : Byte) (header p : List Byte)
    (tcpBackend : tcp.ctx.backend = .tcp) (rtuBackend : rtu.ctx.backend = .rtu)
    (tcpConnected : tcp.ctx.isConnected) (rtuConnected : rtu.ctx.isConnected)
    (own : (slave.toNat : Int) = rtu.ctx.slave) (header_length : header.length = 7)
    (long : maxPduLength ≤ p.length) : ReadAlike react react' msgType tcp rtu slave header p := by
  intro incoming rest stream
  have tcp_header : header.length = (tcp.withIncoming incoming).ctx.backend.headerLength := by
    rw [withIncoming_ctx, tcpBackend, header_length]
    rfl
  have longer : 10 ≤ p.length := by
    simp only [maxPduLength] at long
    omega
  by_cases fits : pduLength msgType (ofBytes p) ≤ maxPduLength
  · right
    have whole := whole_take msgType p fits long
    set q := p.take (pduLength msgType (ofBytes p))
    set later := p.drop (pduLength msgType (ofBytes p))
    have split : p = q ++ later := (List.take_append_drop _ _).symm
    refine ⟨q, later, split, ?_, ?_⟩
    · have next : (tcp.withIncoming incoming).line.incoming.signals =
          (header ++ (q ++ [])).map .item ++ (later.map .item ++ rest) := by
        rw [withIncoming_incoming, stream, List.append_nil, split, ← List.append_assoc,
          List.map_append, List.append_assoc]
      obtain ⟨left, left_rest, run⟩ := modbusReceiveMsg_whole react msgType header q [] _
        (tcp.withIncoming incoming) tcpConnected whole tcp_header
        (by rw [withIncoming_ctx, tcpBackend]; rfl) next
      refine ⟨left, left_rest, ?_⟩
      have accepted := checkIntegrity_tcp (lineDevice react) (tcp.withIncoming left) (header ++ q)
        tcpBackend
      rw [run, List.append_nil, withIncoming_withIncoming, accepted]
    · intro incoming' rest' next
      obtain ⟨left, left_rest, run⟩ := modbusReceiveMsg_whole react' msgType [slave] q
        [loByte (crc16 (slave :: q)).toNat, hiByte (crc16 (slave :: q)).toNat] rest'
        (rtu.withIncoming incoming') rtuConnected whole (by rw [withIncoming_ctx, rtuBackend]; rfl)
        (by rw [withIncoming_ctx, rtuBackend]; rfl) next
      have frame : [slave] ++ (q ++ [loByte (crc16 (slave :: q)).toNat,
          hiByte (crc16 (slave :: q)).toNat]) = modbusRtuSendMsgPre (slave :: q) := rfl
      refine ⟨left, left_rest, ?_⟩
      have accepted := checkIntegrity_accepts (lineDevice react') (rtu.withIncoming left)
        (modbusRtuSendMsgPre (slave :: q)) fun _ => rtuAccepts_send _ slave q (.inl own)
      rw [run, frame, withIncoming_withIncoming, accepted]
  · left
    refine ⟨modbusReceiveMsg_reject react msgType header p rest _ tcpConnected tcp_header longer
      (by omega) stream, ?_⟩
    intro incoming' rest' next
    exact modbusReceiveMsg_reject react' msgType [slave] p rest' _ rtuConnected
      (by rw [withIncoming_ctx, rtuBackend]; rfl) longer (by omega) next

theorem answeredAlike (tcp rtu : Conn (Line Log)) (slave : Byte) (header q : List Byte)
    (mb : ModbusMapping) (tcpBackend : tcp.ctx.backend = .tcp) (rtuBackend : rtu.ctx.backend = .rtu)
    (unicast : slave.toNat ≠ broadcastAddress) (sameVersion : tcp.ctx.version = rtu.ctx.version)
    (header_length : header.length = 7) (whole : Whole .indication q) :
    AnsweredAlike tcp rtu slave header q mb := by
  intro reqTcp reqRtu holdsTcp holdsRtu
  have framed : header ++ q = header ++ (q ++ []) := by rw [List.append_nil]
  obtain ⟨receivedTcp, decodedTcp⟩ := received_frame .tcp header q [] reqTcp whole header_length rfl
    (framed ▸ holdsTcp)
  obtain ⟨receivedRtu, decodedRtu⟩ := received_frame .rtu [slave] q
    [loByte (crc16 (slave :: q)).toNat, hiByte (crc16 (slave :: q)).toNat] reqRtu whole rfl rfl holdsRtu
  rw [← framed] at receivedTcp
  have address : reqRtu 0 = slave := (holdsRtu 0 (by simp [modbusRtuSendMsgPre])).symm
  have answeredTcp := modbusReply_log tcp reqTcp _ mb (tcpBackend ▸ receivedTcp)
    (by rw [suppressed, tcpBackend]; rfl)
  have answeredRtu := modbusReply_log rtu reqRtu _ mb (rtuBackend ▸ receivedRtu) (by
    rw [suppressed, rtuBackend, Backend.headerLength_rtu, address]
    simp [unicast])
  simp only [tcpBackend, decodedTcp] at answeredTcp
  simp only [rtuBackend, decodedRtu, ← sameVersion] at answeredRtu
  cases served : (Request.decode (ofBytes q)).serve tcp.ctx.version mb with
  | error e =>
      rw [served] at answeredTcp answeredRtu
      refine ⟨answeredTcp.1.trans answeredRtu.1.symm, [], [], [], ?_, .nil, ?_, .nil⟩
      · rw [answeredTcp.2, List.append_nil]
      · rw [List.append_nil]
        exact answeredRtu.2
  | ok outcome =>
      rw [served] at answeredTcp answeredRtu
      obtain ⟨mappingTcp, frameTcp, carriesTcp, sentTcp⟩ := answeredTcp
      obtain ⟨mappingRtu, frameRtu, carriesRtu, sentRtu⟩ := answeredRtu
      exact ⟨mappingTcp.trans mappingRtu.symm, [frameTcp], [frameRtu], [outcome.response.encode],
        sentTcp, .cons carriesTcp .nil, sentRtu, .cons carriesRtu .nil⟩

theorem backends_agree {π π' : Type} (react : React π) (react' : React π')
    (tcp : Conn (Line π)) (rtu : Conn (Line π')) (slave : Byte)
    (tcpBackend : tcp.ctx.backend = .tcp) (rtuBackend : rtu.ctx.backend = .rtu)
    (tcpConnected : tcp.ctx.isConnected) (rtuConnected : rtu.ctx.isConnected)
    (own : (slave.toNat : Int) = rtu.ctx.slave)
    (header : List Byte) (header_length : header.length = 7) (p : List Byte)
    (long : 600 ≤ p.length) :
    (∀ msgType, ReadAlike react react' msgType tcp rtu slave header p) ∧
      ∀ (tcp' rtu' : Conn (Line Log)) (slave' : Byte) (q : List Byte) (mb : ModbusMapping),
        tcp'.ctx.backend = .tcp → rtu'.ctx.backend = .rtu → tcp'.ctx.version = rtu'.ctx.version →
        slave'.toNat ≠ broadcastAddress → q <+: p → Whole .indication q →
        AnsweredAlike tcp' rtu' slave' header q mb := by
  constructor
  · intro msgType
    exact readAlike react react' msgType tcp rtu slave header p tcpBackend rtuBackend tcpConnected
      rtuConnected own header_length (by simp only [maxPduLength]; omega)
  · intro tcp' rtu' slave' q mb tcpBackend' rtuBackend' sameVersion unicast _ whole
    exact answeredAlike tcp' rtu' slave' header q mb tcpBackend' rtuBackend' unicast sameVersion
      header_length whole

theorem backends_agree_readRegister :
    let p : List Byte := [0x03, 0, 0, 0, 1] ++ List.replicate 595 0
    let tcp : Conn (Line Log) := .established newTcp []
    let rtu : Conn (Line Log) := .established (newRtu 17) []
    ReadAlike logReact logReact .indication tcp rtu 17 (List.replicate 7 0) p ∧
      AnsweredAlike tcp rtu 17 (List.replicate 7 0) [0x03, 0, 0, 0, 1] (modbusMappingNew 0 0 4 0) := by
  intro p tcp rtu
  have long : 600 ≤ p.length := by
    rw [List.length_append, List.length_replicate]
    decide
  obtain ⟨read, answered⟩ := backends_agree logReact logReact tcp rtu 17 rfl rfl rfl rfl rfl
    (List.replicate 7 0) rfl p long
  exact ⟨read .indication, answered tcp rtu 17 [0x03, 0, 0, 0, 1] _ rfl rfl rfl (by decide)
    ⟨List.replicate 595 0, rfl⟩ ⟨rfl, by decide⟩⟩

end ModbusNet
