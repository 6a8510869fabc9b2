import ModbusNet.Model.Loopback
import ModbusNet.Model.Setup
import ModbusNet.Proof.ClientEffects
import ModbusNet.Proof.Frames

namespace ModbusNet

structure Conn.Ready (c : Conn (Line Log)) (b : Backend) (slave : Int) : Prop where
  connected : c.ctx.isConnected
  backend : c.ctx.backend = b
  listening : c.ctx.confirmationToIgnore = false
  silent : c.line.incoming.signals = []
  slave : b = .rtu → c.ctx.slave = slave

theorem Conn.hear_signals (c : Conn (Line Log)) (arrivals : List (Arrival Byte)) :
    (c.hear arrivals).line.incoming.signals =
      c.line.incoming.signals ++ arrivals.flatMap Arrival.signals := by
  simp only [hear, Incoming.signals, List.flatMap_append, List.append_assoc]

theorem adu_accepted (ctx : Ctx) (b : Backend) (tId : Word) (slave : Int) (pdu : List Byte)
    (unicast : b = .rtu → 1 ≤ slave ∧ slave ≤ 247) (same : b = .rtu → ctx.slave = slave) :
    b = .rtu → RtuAccepts ctx (adu b tId (loByte slave) pdu) := by
  rintro rfl
  obtain ⟨low, high⟩ := unicast rfl
  apply rtuAccepts_send
  rw [same rfl]
  exact .inl (SlaveInRange.loByte ⟨by omega, by omega⟩)

theorem suppressed_unicast (ctx : Ctx) (req : Buffer)
    (unicast : ctx.backend = .rtu → (req 0).toNat ≠ broadcastAddress) : suppressed ctx req = false := by
  rw [suppressed]
  cases backend : ctx.backend with
  | tcp => rfl
  | rtu => simp [unicast backend]

theorem modbusReply_adu (c : Conn (Line Log)) (tId : Word) (slave : Byte) (r : Request)
    (req : Buffer) (mb : ModbusMapping)
    (holds : AgreeBelow (adu c.ctx.backend tId slave r.encode).length
      (ofBytes (adu c.ctx.backend tId slave r.encode)) req)
    (whole : Whole .indication r.encode) (encodable : r.Encodable)
    (audible : suppressed c.ctx req = false) (empty : c.line.incoming.queued = [])
    (response : Response) {toFlush : Bool} (mapping : ModbusMapping)
    (served : r.serve c.ctx.version mb = .ok ⟨response, toFlush, mapping⟩) :
    modbusReply logDevice c req (adu c.ctx.backend tId slave r.encode).length mb =
      (.ok (adu c.ctx.backend tId slave response.encode).length, mapping,
        c.record (adu c.ctx.backend tId slave response.encode)) := by
  have answer := answer_adu c.ctx.backend tId slave r.encode req holds response
  obtain ⟨header, checksum, header_length, checksum_length, frame⟩ :=
    adu_carries c.ctx.backend tId slave r.encode
  rw [frame] at holds ⊢
  obtain ⟨received, decoded⟩ :=
    received_frame c.ctx.backend header r.encode checksum req whole header_length checksum_length holds
  rw [modbusReply, replySwitch_received c.ctx req _ mb received, decoded,
    Request.decode_ofBytes r encodable, served]
  simp only [Except.map, sendAnswer, sleepAndFlush_empty logReact c empty, ite_self, audible,
    sendMsg_log, answer, Bool.false_eq_true, if_false]

theorem Conn.answers (c : Conn (Line Log)) (query : Buffer) (mb : ModbusMapping) (b : Backend)
    (tId : Word) (slave : Int) (r : Request) (ready : c.Ready b slave)
    (unicast : b = .rtu → 1 ≤ slave ∧ slave ≤ 247) (encodable : r.Encodable)
    (fits : r.encode.length ≤ maxPduLength) (arrivals : List (Arrival Byte))
    (carried : arrivals.flatMap Arrival.signals = (adu b tId (loByte slave) r.encode).map .item)
    (response : Response) {toFlush : Bool} (mapping : ModbusMapping)
    (served : r.serve c.ctx.version mb = .ok ⟨response, toFlush, mapping⟩) :
    ∃ (n : Nat) (n' : Int) (query' : Buffer) (received answered : Conn (Line Log)), 0 < n ∧
      modbusReceive logDevice (c.hear arrivals) query = (.ok n, query', received) ∧
      modbusReply logDevice received query' n mb = (.ok n', mapping, answered) ∧
      answered.line.peer = [adu b tId (loByte slave) response.encode] ∧ answered.Ready b slave ∧
      answered.ctx.version = c.ctx.version := by
  set frame := adu b tId (loByte slave) r.encode with frame_def
  have carries : Carries b frame r.encode := adu_carries b tId (loByte slave) r.encode
  have whole := r.whole encodable fits
  have signals : (c.hear arrivals).line.incoming.signals = frame.map .item ++ [] := by
    rw [hear_signals, ready.silent, carried, List.append_nil, List.nil_append]
  obtain ⟨incoming, silent, received⟩ := modbusReceive_accepts logReact (c.hear arrivals)
    query frame [] ready.connected ready.listening
    (by rw [show (c.hear arrivals).ctx.backend = b from ready.backend]
        exact carries.delimits whole)
    (by rw [show (c.hear arrivals).ctx.backend = b from ready.backend]
        exact adu_accepted _ b tId slave r.encode unicast ready.slave)
    carries.nonempty signals
  have holds : AgreeBelow frame.length (ofBytes frame) (overlay query frame) :=
    fun i bound => (overlay_agree query frame i bound).symm
  have audible : suppressed c.ctx (overlay query frame) = false := by
    apply suppressed_unicast
    intro rtu
    obtain rfl : b = .rtu := ready.backend.symm.trans rtu
    obtain ⟨low, high⟩ := unicast rfl
    have address : (((overlay query frame) 0).toNat : Int) = slave :=
      SlaveInRange.loByte ⟨by omega, by omega⟩
    simp only [broadcastAddress]
    omega
  have replied := modbusReply_adu ((c.hear arrivals).withIncoming incoming) tId (loByte slave) r
    (overlay query frame) mb (by
      rw [show ((c.hear arrivals).withIncoming incoming).ctx.backend = b from ready.backend]
      exact holds) whole encodable audible (List.map_eq_nil_iff.mp (List.append_eq_nil_iff.mp silent).1)
    response mapping served
  rw [show ((c.hear arrivals).withIncoming incoming).ctx.backend = b from ready.backend] at replied
  exact ⟨frame.length, _, _, _, _, List.length_pos_iff.mpr carries.nonempty, received, replied, rfl,
    ⟨ready.connected, ready.backend, ready.listening, silent, ready.slave⟩, rfl⟩

theorem Server.serve_answers (s : Server) (b : Backend) (tId : Word) (slave : Int) (r : Request)
    (ready : s.conn.Ready b slave) (unicast : b = .rtu → 1 ≤ slave ∧ slave ≤ 247)
    (encodable : r.Encodable) (fits : r.encode.length ≤ maxPduLength) (arrivals : List (Arrival Byte))
    (carried : arrivals.flatMap Arrival.signals = (adu b tId (loByte slave) r.encode).map .item)
    (response : Response) {toFlush : Bool} (mapping : ModbusMapping)
    (served : r.serve s.conn.ctx.version s.mapping = .ok ⟨response, toFlush, mapping⟩) :
    let s' := (s.hear arrivals).serve
    s'.conn.line.peer = [adu b tId (loByte slave) response.encode] ∧ s'.mapping = mapping ∧
      s'.conn.Ready b slave ∧ s'.conn.ctx.version = s.conn.ctx.version := by
  obtain ⟨n, n', query, conn, conn', positive, received, replied, sent, ready', version⟩ :=
    s.conn.answers s.query s.mapping b tId slave r ready unicast encodable fits arrivals carried
      response mapping served
  have turn : (s.hear arrivals).serve = { conn := conn', query, mapping, turn := s.turn + 1 } := by
    rw [serve, hear, received]
    simp only
    rw [if_pos (by exact_mod_cast positive), replied]
  rw [turn]
  exact ⟨sent, rfl, ready', version⟩

/-- A client and a server that wait for each other, with nothing on the line. -/
structure Linked (c : Conn (Line Server)) : Prop where
  connected : c.ctx.isConnected
  silent : c.line.incoming.signals = []
  ready : c.line.peer.conn.Ready c.ctx.backend c.ctx.slave
  unicast : c.ctx.backend = .rtu → 1 ≤ c.ctx.slave ∧ c.ctx.slave ≤ 247

theorem checkConfirmation_judged {σ : Type} (dev : Device σ) (c : Conn σ) {req rsp : Buffer} {n : Int}
    {r : Request} {response : Response}
    (judged : judgeConfirmation c.ctx.backend req rsp n = response.judged r) :
    checkConfirmation dev c req rsp n =
      (match response.judged r with
        | .ok n => .ok n
        | .error (e, _) => .error (.errno e), c) := by
  rw [checkConfirmation, judged]
  cases response <;> rfl

theorem Linked.nextRequest {c : Conn (Line Server)} (linked : Linked c) :
    Linked { c with ctx := c.ctx.nextRequest } := by
  obtain ⟨connected, silent, ready, unicast⟩ := linked
  obtain ⟨ctx, line⟩ := c
  cases backend : ctx.backend with
  | rtu =>
      have same : ctx.nextRequest = ctx := by
        rw [Ctx.nextRequest, backend]
      rw [same]
      exact ⟨connected, silent, ready, unicast⟩
  | tcp =>
      have same : ctx.nextRequest =
          { ctx with tId := if ctx.tId.toNat < 65535 then ctx.tId + 1 else 0 } := by
        rw [Ctx.nextRequest, backend]
      rw [same]
      exact ⟨connected, silent, ready, unicast⟩

theorem exchange_judged {σ : Type} (dev : Device σ) (c c₁ c₂ : Conn σ) (tId : Word) (r : Request)
    (response : Response) (known : r.function ∈ knownFunctions) (expected : r.Expected response)
    (req : List Byte)
    (framed : sendMsgPre c.ctx.backend req = adu c.ctx.backend tId (loByte c.ctx.slave) r.encode)
    (sent : sendFrame dev (adu c.ctx.backend tId (loByte c.ctx.slave) r.encode) c =
      (.ok (adu c.ctx.backend tId (loByte c.ctx.slave) r.encode).length, c₁))
    (received : modbusReceiveMsg dev .confirmation c₁ =
      (.ok (adu c.ctx.backend tId (loByte c.ctx.slave) response.encode).length,
        adu c.ctx.backend tId (loByte c.ctx.slave) response.encode, c₂))
    (same : c₂.ctx.backend = c.ctx.backend) :
    ∃ rsp, Contains c.ctx.backend rsp response.encode ∧
      exchange dev c req =
        (match response.judged r with
          | .ok n => .ok (n, some rsp)
          | .error (e, _) => .error (.errno e), c₂) := by
  set b := c.ctx.backend with backend
  set slave := loByte c.ctx.slave
  set reply := adu b tId slave response.encode with reply_def
  have contains : Contains b (overlay c₂.ctx.uninit reply) response.encode :=
    (adu_carries b tId slave response.encode).contains (overlay_agree c₂.ctx.uninit reply)
  have length : (reply.length : Int) =
      (b.headerLength + response.encode.length + b.checksumLength : Nat) :=
    congrArg _ (adu_carries b tId slave response.encode).length
  have judged := judgeConfirmation_expected
    (preCheckConfirmation_adu b tId slave r.encode response.encode c₂.ctx.uninit) r response known
    ((adu_carries b tId slave r.encode).contains fun _ _ => rfl) contains length expected
  have confirmed : checkConfirmation dev c₂ (ofBytes (adu b tId slave r.encode))
      (overlay c₂.ctx.uninit reply) reply.length = _ :=
    checkConfirmation_judged dev c₂ (by rw [same]; exact judged)
  have positive : (0 : Int) < (adu b tId slave r.encode).length := by
    have := List.length_pos_iff.mpr (adu_carries b tId slave r.encode).nonempty
    omega
  refine ⟨overlay c₂.ctx.uninit reply, contains, ?_⟩
  rw [exchange, framed, sent]
  simp only
  rw [if_pos positive, received]
  simp only [confirmed]
  cases response <;> rfl

theorem exchange_confirms {π : Type} (react : React π) (c : Conn (Line π)) (tId : Word) (r : Request)
    (response : Response) (connected : c.ctx.isConnected) (silent : c.line.incoming.signals = [])
    (unicast : c.ctx.backend = .rtu → 1 ≤ c.ctx.slave ∧ c.ctx.slave ≤ 247)
    (known : r.function ∈ knownFunctions) (expected : r.Expected response) (answer : r.Answer response)
    (req : List Byte)
    (framed : sendMsgPre c.ctx.backend req = adu c.ctx.backend tId (loByte c.ctx.slave) r.encode)
    {arrivals : List (Arrival Byte)} {peer : π}
    (reacts : react (adu c.ctx.backend tId (loByte c.ctx.slave) r.encode) c.line.peer =
      (.ok (adu c.ctx.backend tId (loByte c.ctx.slave) r.encode).length, arrivals, peer))
    (carried : arrivals.flatMap Arrival.signals =
      (adu c.ctx.backend tId (loByte c.ctx.slave) response.encode).map .item) :
    ∃ rsp incoming, Contains c.ctx.backend rsp response.encode ∧ incoming.signals = [] ∧
      exchange (lineDevice react) c req =
        (match response.judged r with
          | .ok n => .ok (n, some rsp)
          | .error (e, _) => .error (.errno e), { c with line := ⟨incoming, peer⟩ }) := by
  set b := c.ctx.backend with backend
  set slave := loByte c.ctx.slave
  set reply := adu b tId slave response.encode with reply_def
  set c₁ : Conn (Line π) := { c with line :=
    ⟨{ c.line.incoming with future := c.line.incoming.future ++ arrivals }, peer⟩ }
  have transmitted : sendFrame (lineDevice react) (adu b tId slave r.encode) c =
      (.ok (adu b tId slave r.encode).length, c₁) :=
    sendFrame_line _ _ c reacts
  have signals : c₁.line.incoming.signals = reply.map .item ++ [] := by
    simp only [Incoming.signals, List.append_eq_nil_iff] at silent
    simp only [c₁, Incoming.signals, List.flatMap_append, silent.1, silent.2, List.nil_append,
      List.append_nil]
    exact carried
  obtain ⟨incoming, silent', received⟩ := modbusReceiveMsg_frame react .confirmation reply [] c₁
    connected ((adu_carries b tId slave response.encode).delimits (answer.whole (known_small known)))
    signals
  rw [checkIntegrity_accepts _ (c₁.withIncoming incoming) reply
    (adu_accepted c.ctx b tId c.ctx.slave response.encode unicast fun _ => rfl)] at received
  obtain ⟨rsp, contains, exchanged⟩ := exchange_judged (lineDevice react) c c₁
    (c₁.withIncoming incoming) tId r response known expected req framed transmitted received rfl
  exact ⟨rsp, incoming, contains, silent', exchanged⟩

section
variable {toServer toClient : Carrier} (outward : Lossless toServer) (homeward : Lossless toClient)
include outward homeward

theorem exchange_serves (c : Conn (Line Server)) (linked : Linked c) (tId : Word) (r : Request)
    (known : r.function ∈ knownFunctions) (encodable : r.Encodable)
    (fits : r.encode.length ≤ maxPduLength) (req : List Byte)
    (framed : sendMsgPre c.ctx.backend req = adu c.ctx.backend tId (loByte c.ctx.slave) r.encode)
    (response : Response) (mapping : ModbusMapping)
    (served : r.serve c.line.peer.conn.ctx.version c.line.peer.mapping =
      .ok ⟨response, false, mapping⟩)
    (expected : r.Expected response) (answer : r.Answer response) :
    ∃ rsp c', Contains c.ctx.backend rsp response.encode ∧ c'.ctx = c.ctx ∧ Linked c' ∧
      c'.line.peer.mapping = mapping ∧
      c'.line.peer.conn.ctx.version = c.line.peer.conn.ctx.version ∧
      c'.line.peer.conn.line.peer = [adu c.ctx.backend tId (loByte c.ctx.slave) response.encode] ∧
      exchange (lineDevice (serverReact toServer toClient)) c req =
        (match response.judged r with
          | .ok n => .ok (n, some rsp)
          | .error (e, _) => .error (.errno e), c') := by
  set s := c.line.peer
  set request := adu c.ctx.backend tId (loByte c.ctx.slave) r.encode
  obtain ⟨sent, mapped, ready, version⟩ := s.serve_answers c.ctx.backend tId c.ctx.slave r linked.ready
    linked.unicast encodable fits (toServer s.turn request) (outward _ _) response mapping served
  obtain ⟨rsp, incoming, contains, silent, exchanged⟩ := exchange_confirms
    (serverReact toServer toClient) c tId r response linked.connected linked.silent linked.unicast
    known expected answer req framed rfl
    (by rw [sent, List.flatMap_singleton]; exact homeward s.turn _)
  exact ⟨rsp, { c with line := ⟨incoming, (s.hear (toServer s.turn request)).serve⟩ }, contains, rfl,
    ⟨linked.connected, silent, ready, linked.unicast⟩, mapped, version, sent, exchanged⟩

theorem ClientOp.run_serves (op : ClientOp) (inRange : op.InRange) (c : Conn (Line Server))
    (linked : Linked c) (valid : c.line.peer.mapping.WellFormed)
    (binary : op.ReadsBits → c.line.peer.mapping.Binary) :
    let effect := op.effect c.line.peer.conn.ctx.version c.line.peer.mapping
    ∃ c', op.run (lineDevice (serverReact toServer toClient)) c = (effect.rc, effect.dest, c') ∧
      c'.ctx = c.ctx.nextRequest ∧ Linked c' ∧ c'.line.peer.mapping = effect.mapping ∧
      c'.line.peer.conn.ctx.version = c.line.peer.conn.ctx.version ∧
      ∃ response frame, c'.line.peer.conn.line.peer = [frame] ∧
        op.request.serve c.line.peer.conn.ctx.version c.line.peer.mapping =
          .ok ⟨response, false, effect.mapping⟩ ∧
        Carries c.ctx.backend frame response.encode := by
  obtain ⟨response, served, expected, concludes⟩ :=
    op.served c.line.peer.conn.ctx.version inRange valid binary
  have framed := op.frame_adu c.ctx
  rw [ClientOp.frame, ← nextRequest_backend, ← nextRequest_slave] at framed
  obtain ⟨rsp, c', contains, ctx, linked', mapped, version, replied, exchanged⟩ :=
    exchange_serves outward homeward _ linked.nextRequest _ op.request op.request_known
      (op.request_encodable inRange) (op.request_fits inRange) _ framed response _ served expected
      (op.request.serve_answer _ _ _ served)
  rw [nextRequest_backend] at replied
  refine ⟨c', ?_, ctx, linked', mapped, version, response, _, replied, served, adu_carries _ _ _ _⟩
  have concluded := concludes c'.ctx.backend rsp (by rw [ctx]; exact contains)
  rw [op.run_eq _ _ inRange, exchanged]
  cases judged : response.judged op.request with
  | error failed =>
      rw [judged] at concluded
      simp only [finish, concluded.1, concluded.2.1]
  | ok n =>
      rw [judged] at concluded
      simp only [finish, concluded.1, concluded.2]

theorem runOps_effects (ops : List ClientOp) (inRange : ∀ op ∈ ops, op.InRange)
    (c : Conn (Line Server)) (linked : Linked c) (valid : c.line.peer.mapping.WellFormed)
    (binary : c.line.peer.mapping.Binary) :
    let done := runOps (lineDevice (serverReact toServer toClient)) ops c
    let expected := effects c.line.peer.conn.ctx.version ops c.line.peer.mapping
    done.1 = expected.1 ∧ done.2.line.peer.mapping = expected.2 := by
  induction ops generalizing c with
  | nil => exact ⟨rfl, rfl⟩
  | cons op ops ih =>
      obtain ⟨c', run, -, linked', mapped, version, -⟩ := op.run_serves outward homeward
        (inRange op List.mem_cons_self) c linked valid fun _ => binary
      have valid' : c'.line.peer.mapping.WellFormed := by
        rw [mapped]
        exact op.effect_wellFormed _ (inRange op List.mem_cons_self) valid fun _ => binary
      have binary' : c'.line.peer.mapping.Binary := by
        rw [mapped]
        exact op.effect_binary _ binary
      obtain ⟨results, final⟩ := ih (fun op' member => inRange op' (List.mem_cons_of_mem op member))
        c' linked' valid' binary'
      rw [version, mapped] at results final
      simp only [runOps, run, effects]
      exact ⟨congrArg _ results, final⟩

end

def newLink : Conn (Line Server) :=
  .established newTcp
    { conn := .established newTcp []
      query := fun _ => 0
      mapping := modbusMappingNew 0 0 4 0
      turn := 0 }

theorem newLink_linked : Linked newLink where
  connected := rfl
  silent := rfl
  ready := ⟨rfl, rfl, rfl, rfl, fun rtu => absurd rtu (by decide)⟩
  unicast rtu := absurd rtu (by decide)

def writeThenRead : List ClientOp :=
  [.writeRegisters 1 2 fun i => BitVec.ofNat 16 (i + 7), .readRegisters 0 4 fun _ => 0]

theorem runOps_effects_writeThenRead :
    let done := runOps (lineDevice (serverReact carryWhole carryWhole)) writeThenRead newLink
    done.1.map Prod.fst = [.ok 2, .ok 4] ∧ done.2.line.peer.mapping.tabRegisters = [0, 7, 8, 0] := by
  have inRange : ∀ op ∈ writeThenRead, op.InRange := by decide
  have valid : (modbusMappingNew 0 0 4 0).WellFormed :=
    modbusMappingNewStartAddress_wellFormed 0 0 0 0 0 4 0 0 (by simp [FitsInt])
  have binary : newLink.line.peer.mapping.Binary := by decide
  have done := runOps_effects carryWhole_lossless carryWhole_lossless writeThenRead inRange newLink
    newLink_linked valid binary
  have returned : (effects libmodbusVersion writeThenRead newLink.line.peer.mapping).1.map Prod.fst =
      [.ok 2, .ok 4] := by decide +kernel
  have stored : (effects libmodbusVersion writeThenRead newLink.line.peer.mapping).2.tabRegisters =
      [0, 7, 8, 0] := by decide +kernel
  exact ⟨(congrArg (List.map Prod.fst) done.1).trans returned,
    (congrArg ModbusMapping.tabRegisters done.2).trans stored⟩

end ModbusNet
