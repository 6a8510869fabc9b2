import ModbusNet.Model.RawRequests
import ModbusNet.Proof.EndToEnd
import ModbusNet.Proof.Store

namespace ModbusNet

def rawRequest (rawReq : List Byte) : Request := .decode (ofBytes (rawReq.drop 1))

/-- A whole request for the slave, of a function whose responses differ from those to other functions
and which a server answers. -/
structure RawValid (b : Backend) (slave : Int) (rawReq : List Byte) : Prop where
  whole : rawReq.drop 1 = (rawRequest rawReq).encode
  fits : rawReq.length ≤ maxPduLength + 1
  small : (rawRequest rawReq).function < 0x80
  answered : rawRequest rawReq ≠ .readExceptionStatus
  addressed : b = .rtu → ((rawReq.getD 0 0).toNat : Int) = slave

def RawRefused (rawReq : List Byte) : Prop := rawReq.length < 2 ∨ maxPduLength + 1 < rawReq.length

instance (rawReq : List Byte) : Decidable (RawRefused rawReq) := inferInstanceAs (Decidable (_ ∨ _))

def Exchange.Valid (b : Backend) (slave : Int) : Exchange → Prop
  | .typed op => op.InRange
  | .raw rawReq _ _ => RawRefused rawReq ∨ RawValid b slave rawReq

def Exchange.expected (b : Backend) (version : VersionString) (mb : ModbusMapping) :
    Exchange → Exchanged × ModbusMapping
  | .typed op =>
      let effect := op.effect version mb
      (.typed effect.rc effect.dest, effect.mapping)
  | .raw rawReq tId rsp =>
      if RawRefused rawReq then (.raw (.error (.errno .einval)) rsp, mb)
      else
        match (rawRequest rawReq).serve version mb with
        | .error e => (.raw (.error e) rsp, mb)
        | .ok outcome =>
            let reply := adu b (BitVec.ofInt 16 tId) (rawReq.getD 0 0) outcome.response.encode
            (.raw (.ok reply.length) (overlay rsp reply), outcome.mapping)

theorem hiByte_ofInt (x : Int) : hiByte (BitVec.ofInt 16 x).toNat = hiByte x :=
  (List.cons.inj (wordBytes_ofInt x)).1

theorem loByte_ofInt (x : Int) : loByte (BitVec.ofInt 16 x).toNat = loByte x :=
  (List.cons.inj (List.cons.inj (wordBytes_ofInt x)).2).1

theorem RawValid.split {b : Backend} {slave : Int} {rawReq : List Byte}
    (valid : RawValid b slave rawReq) :
    ∃ first function data, rawReq = first :: function :: data := by
  have whole := valid.whole
  cases rawReq with
  | nil => cases whole
  | cons first rest =>
      cases rest with
      | nil => cases whole
      | cons function data => exact ⟨first, function, data, rfl⟩

theorem RawValid.accepted {b : Backend} {slave : Int} {rawReq : List Byte}
    (valid : RawValid b slave rawReq) : ¬ RawRefused rawReq := by
  obtain ⟨first, function, data, rfl⟩ := valid.split
  have fits := valid.fits
  rintro (short | long)
  · simp only [List.length_cons] at short
    omega
  · omega

theorem modbusSendRawRequestTid_adu {σ : Type} (dev : Device σ) (c : Conn σ) (rawReq : List Byte)
    (tId : Int) {slave : Int} (valid : RawValid c.ctx.backend slave rawReq) :
    modbusSendRawRequestTid dev c rawReq tId =
      sendFrame dev (adu c.ctx.backend (BitVec.ofInt 16 tId) (rawReq.getD 0 0)
        (rawRequest rawReq).encode) c := by
  have accepted : ¬ (rawReq.length < 2 ∨ maxPduLength + 1 < rawReq.length) := valid.accepted
  rw [modbusSendRawRequestTid, if_neg accepted, ← valid.whole]
  obtain ⟨first, function, data, rfl⟩ := valid.split
  rw [sendMsg]
  congr 1
  cases c.ctx.backend with
  | rtu => simp [buildResponseBasis, modbusRtuBuildResponseBasis, adu, sendMsgPre]
  | tcp =>
      have header := sendMsgPre_tcp (hiByte tId) (loByte tId) 0 0 0 0 first (function :: data)
      simp only [buildResponseBasis, modbusTcpBuildResponseBasis, adu, hiByte_ofInt, loByte_ofInt]
      simpa using header

theorem modbusReceiveConfirmation_whole {π : Type} (react : React π) (c : Conn (Line π)) (tId : Word)
    (slave : Byte) (pdu : List Byte) (rsp : Buffer) (whole : Whole .confirmation pdu)
    (connected : c.ctx.isConnected)
    (addressed : c.ctx.backend = .rtu → (slave.toNat : Int) = c.ctx.slave)
    (arrived : c.line.incoming.signals = (adu c.ctx.backend tId slave pdu).map .item) :
    ∃ incoming, incoming.signals = [] ∧
      modbusReceiveConfirmation (lineDevice react) c rsp =
        (.ok (adu c.ctx.backend tId slave pdu).length,
          overlay rsp (adu c.ctx.backend tId slave pdu), c.withIncoming incoming) := by
  set reply := adu c.ctx.backend tId slave pdu with reply_def
  have carries : Carries c.ctx.backend reply pdu := adu_carries _ _ _ _
  obtain ⟨incoming, silent, received⟩ := modbusReceiveMsg_frame react .confirmation reply [] c
    connected (carries.delimits whole) (by rw [arrived, List.append_nil])
  have accepts : (c.withIncoming incoming).ctx.backend = .rtu →
      RtuAccepts (c.withIncoming incoming).ctx reply := by
    intro rtu
    have backend : c.ctx.backend = .rtu := rtu
    rw [reply_def, backend]
    exact rtuAccepts_send _ slave pdu (.inl (addressed backend))
  rw [checkIntegrity_accepts _ (c.withIncoming incoming) reply accepts] at received
  refine ⟨incoming, silent, ?_⟩
  rw [modbusReceiveConfirmation, received]

section
variable {toServer toClient : Carrier} (outward : Lossless toServer) (homeward : Lossless toClient)
include outward homeward

theorem raw_expected (rawReq : List Byte) (tId : Int) (rsp : Buffer) (c : Conn (Line Server))
    (linked : Linked c) (wellFormed : c.line.peer.mapping.WellFormed)
    (valid : RawValid c.ctx.backend c.ctx.slave rawReq) :
    let expected := (Exchange.raw rawReq tId rsp).expected c.ctx.backend
      c.line.peer.conn.ctx.version c.line.peer.mapping
    ∃ c', (Exchange.raw rawReq tId rsp).run (lineDevice (serverReact toServer toClient)) c =
        (expected.1, c') ∧
      c'.ctx.backend = c.ctx.backend ∧ c'.ctx.slave = c.ctx.slave ∧ Linked c' ∧
      c'.line.peer.mapping = expected.2 ∧
      c'.line.peer.conn.ctx.version = c.line.peer.conn.ctx.version := by
  set s := c.line.peer
  set r := rawRequest rawReq with r_def
  set first := rawReq.getD 0 0
  cases served : r.serve s.conn.ctx.version s.mapping with
  | error e => exact absurd (Request.serve_fails wellFormed served).1 valid.answered
  | ok outcome =>
      obtain ⟨response, toFlush, mapping⟩ := outcome
      have encodable : r.Encodable := Request.decode_encodable _
      have fits : r.encode.length ≤ maxPduLength := by
        rw [r_def, ← valid.whole, List.length_drop]
        have := valid.fits
        omega
      have same : loByte (first.toNat : Int) = first := loByte_of_toNat first
      have unicast : c.ctx.backend = .rtu → 1 ≤ (first.toNat : Int) ∧ (first.toNat : Int) ≤ 247 := by
        intro rtu
        rw [valid.addressed rtu]
        exact linked.unicast rtu
      have ready : s.conn.Ready c.ctx.backend first.toNat :=
        { linked.ready with
          slave := fun rtu => (linked.ready.slave rtu).trans (valid.addressed rtu).symm }
      set request := adu c.ctx.backend (BitVec.ofInt 16 tId) first r.encode
      obtain ⟨replied, mapped, ready', version⟩ := s.serve_answers c.ctx.backend (BitVec.ofInt 16 tId)
        first.toNat r ready unicast encodable fits (toServer s.turn request)
        (by rw [same]; exact outward _ _) response mapping served
      set s' := (s.hear (toServer s.turn request)).serve
      rw [same] at replied
      set reply := adu c.ctx.backend (BitVec.ofInt 16 tId) first response.encode
      let arrivals := [reply].flatMap (toClient s.turn)
      let c₁ : Conn (Line Server) := { c with line :=
        ⟨{ c.line.incoming with future := c.line.incoming.future ++ arrivals }, s'⟩ }
      have sent : sendFrame (lineDevice (serverReact toServer toClient)) request c =
          (.ok request.length, c₁) := by
        apply sendFrame_line
        have sends : s'.conn.line.peer.flatMap (toClient s.turn) = arrivals := by rw [replied]
        exact congrArg (fun arrivals => ((.ok request.length : Except Errno Nat), arrivals, s')) sends
      have arrived : c₁.line.incoming.signals = reply.map .item := by
        have silent := linked.silent
        simp only [Incoming.signals, List.append_eq_nil_iff] at silent
        simp only [c₁, Incoming.signals, List.flatMap_append, silent.1, silent.2, List.nil_append,
          arrivals, List.flatMap_singleton]
        exact homeward s.turn reply
      obtain ⟨incoming, silent', received⟩ := modbusReceiveConfirmation_whole
        (serverReact toServer toClient) c₁ (BitVec.ofInt 16 tId) first response.encode rsp
        ((r.serve_answer _ _ _ served).whole valid.small) linked.connected valid.addressed arrived
      refine ⟨c₁.withIncoming incoming, ?_, rfl, rfl, ?_, ?_, version⟩
      · rw [Exchange.run, modbusSendRawRequestTid_adu _ c rawReq tId valid]
        simp only [Exchange.expected, if_neg valid.accepted, ← r_def, served]
        rw [show sendFrame _ (adu c.ctx.backend (BitVec.ofInt 16 tId) (rawReq.getD 0 0) r.encode) c =
          (.ok request.length, c₁) from sent]
        simp only [received]
        rfl
      · exact ⟨linked.connected, silent', { ready' with
          slave := fun rtu => (ready'.slave rtu).trans (valid.addressed rtu) }, linked.unicast⟩
      · simp only [Exchange.expected, if_neg valid.accepted, ← r_def, served]
        exact mapped

theorem Exchange.run_expected (exchange : Exchange) (c : Conn (Line Server)) (linked : Linked c)
    (wellFormed : c.line.peer.mapping.WellFormed) (binary : c.line.peer.mapping.Binary)
    (valid : exchange.Valid c.ctx.backend c.ctx.slave) :
    let expected := exchange.expected c.ctx.backend c.line.peer.conn.ctx.version c.line.peer.mapping
    ∃ c', exchange.run (lineDevice (serverReact toServer toClient)) c = (expected.1, c') ∧
      c'.ctx.backend = c.ctx.backend ∧ c'.ctx.slave = c.ctx.slave ∧ Linked c' ∧
      c'.line.peer.mapping = expected.2 ∧
      c'.line.peer.conn.ctx.version = c.line.peer.conn.ctx.version := by
  cases exchange with
  | typed op =>
      obtain ⟨c', run, ctx, linked', mapped, version, -⟩ :=
        op.run_serves outward homeward valid c linked wellFormed fun _ => binary
      refine ⟨c', ?_, ?_, ?_, linked', mapped, version⟩
      · rw [Exchange.run, run]
        rfl
      · rw [ctx, nextRequest_backend]
      · rw [ctx, nextRequest_slave]
  | raw rawReq tId rsp =>
      rcases valid with refused | valid
      · have short : rawReq.length < 2 ∨ maxPduLength + 1 < rawReq.length := refused
        refine ⟨c, ?_, rfl, rfl, linked, ?_, rfl⟩
        · rw [Exchange.run, modbusSendRawRequestTid, if_pos short]
          simp only [Exchange.expected, if_pos refused]
        · simp only [Exchange.expected, if_pos refused]
      · exact raw_expected outward homeward rawReq tId rsp c linked wellFormed valid

end

end ModbusNet
