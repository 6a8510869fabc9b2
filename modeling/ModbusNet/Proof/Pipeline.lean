import ModbusNet.Model.Loopback
import ModbusNet.Proof.Answers
import ModbusNet.Proof.Flush

namespace ModbusNet

namespace Request

def Flushes : Request → Prop
  | .readBits _ _ nb => nb.toNat < 1 ∨ maxReadBits < nb.toNat
  | .readRegisters _ _ nb => nb.toNat < 1 ∨ maxReadRegisters < nb.toNat
  | .writeMultipleCoils _ nb data =>
      nb.toNat < 1 ∨ maxWriteBits < nb.toNat ∨ data.length * 8 < nb.toNat
  | .writeMultipleRegisters _ nb data =>
      nb.toNat < 1 ∨ maxWriteRegisters < nb.toNat ∨ data.length ≠ nb.toNat * 2
  | .writeAndReadRegisters _ nb _ nbWrite data =>
      nbWrite.toNat < 1 ∨ maxWrWriteRegisters < nbWrite.toNat ∨ nb.toNat < 1 ∨
        maxWrReadRegisters < nb.toNat ∨ data.length ≠ nbWrite.toNat * 2
  | .other _ _ => True
  | _ => False

instance : (r : Request) → Decidable r.Flushes
  | .readBits .. | .readRegisters .. | .writeMultipleCoils .. | .writeMultipleRegisters ..
  | .writeAndReadRegisters .. => inferInstanceAs (Decidable (_ ∨ _))
  | .other .. => .isTrue trivial
  | .writeSingleCoil .. | .writeSingleRegister .. | .readExceptionStatus | .reportSlaveId
  | .maskWriteRegister .. => .isFalse id

theorem serve_flushes (version : VersionString) (mb : ModbusMapping) (r : Request) :
    Holds (fun outcome => outcome.toFlush = true ↔ r.Flushes) (r.serve version mb) := by
  have flushed : ∀ {response : Response} {mapping : ModbusMapping}, r.Flushes →
      Holds (fun outcome => outcome.toFlush = true ↔ r.Flushes) (.ok ⟨response, true, mapping⟩) :=
    fun illegal => holds_ok (iff_of_true rfl illegal)
  have unflushed : ∀ {response : Response} {mapping : ModbusMapping}, ¬ r.Flushes →
      ((Outcome.mk response false mapping).toFlush = true ↔ r.Flushes) :=
    fun legal => iff_of_false Bool.false_ne_true legal
  cases r with
  | writeSingleCoil =>
      exact holds_ite (fun _ => holds_ok (unflushed id)) fun _ => holds_ite
        (fun _ => holds_access fun _ _ => unflushed id) fun _ => holds_ok (unflushed id)
  | writeSingleRegister =>
      exact holds_ite (fun _ => holds_ok (unflushed id)) fun _ => holds_access fun _ _ => unflushed id
  | maskWriteRegister =>
      exact holds_ite (fun _ => holds_ok (unflushed id)) fun _ => holds_access fun _ _ => unflushed id
  | readExceptionStatus => rintro _ ⟨⟩
  | reportSlaveId => exact holds_ok (unflushed id)
  | other => exact flushed trivial
  | _ =>
      exact holds_ite flushed fun legal => holds_ite (fun _ => holds_ok (unflushed legal))
        fun _ => holds_access fun _ _ => unflushed legal

end Request

theorem sleepAndFlush_all {π : Type} (react : React π) (queued : List Byte) (c : Conn (Line π))
    (tcp : c.ctx.backend = .tcp) (queue : c.line.incoming = ⟨queued, []⟩)
    (counts : queued.length ≤ 65535) :
    sleepAndFlush (lineDevice react) c = c.withIncoming ⟨[], []⟩ := by
  obtain ⟨after, empty, flushed⟩ :=
    modbusTcpFlush_drains (lineDevice_dontWait react) c (by rwa [queue])
  have awake : sleepResponseTimeout (lineDevice react) c = c := rfl
  have run : sleepAndFlush (lineDevice react) c = { c with line := after } := by
    rw [sleepAndFlush, awake, modbusFlush, tcp]
    exact congrArg Prod.snd flushed
  have keeps := lineDevice_keeps_settled react
  have settled :=
    (sleepAndFlush_preserves (keeps.preserves c) c (.refl c)).2 (congrArg Incoming.future queue)
  have peer := sleepAndFlush_peer react c
  rw [run] at settled peer
  have incoming : after.incoming = ⟨[], []⟩ := by
    rw [← List.eq_nil_of_length_eq_zero empty, ← settled]
  have line : after = ⟨⟨[], []⟩, c.line.peer⟩ := by rw [← incoming, ← peer]
  rw [run, line]
  rfl

def pipelinedFunctions : List Nat := [fcReadCoils, fcReadDiscreteInputs, fcReadHoldingRegisters,
  fcReadInputRegisters, fcWriteSingleCoil, fcWriteSingleRegister, fcWriteMultipleCoils,
  fcWriteMultipleRegisters, fcReportSlaveId, fcMaskWriteRegister, fcWriteAndReadRegisters]

/-- A complete TCP request: any header of seven bytes and a request with any address and count, whose
byte count is that of its data. -/
structure QueuedRequest where
  header : List Byte
  request : Request
  header_length : header.length = 7
  pipelined : request.function ∈ pipelinedFunctions
  encodable : request.Encodable
  fits : request.encode.length ≤ maxPduLength

namespace QueuedRequest

def bytes (q : QueuedRequest) : List Byte := q.header ++ q.request.encode

def Replied (q : QueuedRequest) (frame : List Byte) : Prop :=
  be16 (ofBytes frame) 0 = be16 (ofBytes q.bytes) 0 ∧
    ∃ response, q.request.Answer response ∧ Carries .tcp frame response.encode

def answered : List QueuedRequest → List QueuedRequest
  | [] => []
  | q :: qs => if q.request.Flushes then [q] else q :: answered qs

theorem whole (q : QueuedRequest) : Whole .indication q.request.encode :=
  q.request.whole q.encodable q.fits

end QueuedRequest

structure Server.Queued (s : Server) (qs : List QueuedRequest) : Prop where
  tcp : s.conn.ctx.backend = .tcp
  connected : s.conn.ctx.isConnected
  valid : s.mapping.WellFormed
  queue : s.conn.line.incoming = ⟨qs.flatMap QueuedRequest.bytes, []⟩

namespace Server.Queued
variable {s : Server} {q : QueuedRequest} {qs : List QueuedRequest}

theorem receive (queued : s.Queued (q :: qs)) :
    modbusReceive logDevice s.conn s.query = (.ok q.bytes.length, overlay s.query q.bytes,
      s.conn.withIncoming ⟨qs.flatMap QueuedRequest.bytes, []⟩) := by
  have framed : q.bytes = q.header ++ (q.request.encode ++ []) := by
    rw [List.append_nil]
    rfl
  have delimits : Delimits s.conn.ctx.backend .indication (ofBytes q.bytes) q.bytes.length := by
    rw [queued.tcp, framed]
    exact q.whole.delimits q.header_length rfl
  have next : s.conn.line.incoming.signals =
      q.bytes.map .item ++ (qs.flatMap QueuedRequest.bytes).map .item := by
    rw [queued.queue, Incoming.signals_queue, List.flatMap_cons, List.map_append]
    exact List.append_nil _
  obtain ⟨incoming, rest, received⟩ :=
    modbusReceiveMsg_frame logReact .indication _ _ s.conn queued.connected delimits next
  rw [checkIntegrity_tcp _ (s.conn.withIncoming incoming) _ queued.tcp] at received
  have keeps := (lineDevice_keeps_settled logReact).preserves s.conn
  have settled := (modbusReceiveMsg_preserves keeps .indication s.conn (.refl _)).2
    (congrArg Incoming.future queued.queue)
  rw [received] at settled
  obtain rfl := Incoming.eq_of_signals settled rest
  rw [modbusReceive, queued.tcp]
  simp only [modbusTcpReceive, received]

theorem serve (queued : s.Queued (q :: qs)) :
    ∃ frame, q.Replied frame ∧ s.serve.conn.line.peer = s.conn.line.peer ++ [frame] ∧
      (¬ q.request.Flushes → s.serve.Queued qs) ∧
      (q.request.Flushes → (qs.flatMap QueuedRequest.bytes).length ≤ 65535 → s.serve.Queued []) := by
  set req := overlay s.query q.bytes with req_def
  set c := s.conn.withIncoming ⟨qs.flatMap QueuedRequest.bytes, []⟩ with c_def
  have framed : q.bytes = q.header ++ (q.request.encode ++ []) := by
    rw [List.append_nil]
    rfl
  have tcp : c.ctx.backend = .tcp := queued.tcp
  have holds : AgreeBelow q.bytes.length (ofBytes q.bytes) req :=
    fun i bound => (overlay_agree s.query q.bytes i bound).symm
  have length : 7 ≤ q.bytes.length := by
    rw [framed, List.length_append, q.header_length]
    omega
  have parsed := received_frame .tcp q.header q.request.encode [] req q.whole q.header_length rfl
    (framed ▸ holds)
  rw [← framed, Request.decode_ofBytes q.request q.encodable] at parsed
  obtain ⟨received, decoded⟩ := parsed
  have loud : suppressed c.ctx req = false := by
    rw [suppressed, tcp]
    rfl
  have pipelined : q.request ≠ .readExceptionStatus := by
    intro asked
    have function := q.pipelined
    rw [asked] at function
    exact absurd function (by decide)
  have defined := Request.serve_defined c.ctx.version s.mapping queued.valid q.request
  cases served : q.request.serve c.ctx.version s.mapping with
  | error e => exact absurd (Request.serve_fails queued.valid served).1 pipelined
  | ok outcome =>
      rw [served] at defined
      have flushes : outcome.toFlush = true ↔ q.request.Flushes :=
        Request.serve_flushes _ _ _ outcome served
      set answer : ModbusNet.Answer :=
        ⟨answerHeader .tcp req outcome.response ++ outcome.response.encode, outcome.toFlush⟩
      obtain ⟨peer, sent⟩ := sendAnswer_flushed c req answer
      have turn : s.serve = { s with
          conn := (c.flushedFor answer).record (answerFrame .tcp req outcome.response)
          query := req, mapping := outcome.mapping, turn := s.turn + 1 } := by
        have positive : (0 : Int) < q.bytes.length := by omega
        have replied : replySwitch c.ctx req q.bytes.length s.mapping =
            .ok (answer, outcome.mapping) := by
          rw [replySwitch_received c.ctx req _ s.mapping (tcp ▸ received), tcp, decoded, served]
          rfl
        have recorded : (sendAnswer logDevice c req answer).2 =
            (c.flushedFor answer).record (answerFrame .tcp req outcome.response) := by
          rw [sent, loud, tcp]
          rfl
        have taken : modbusReceive logDevice s.conn s.query = (.ok q.bytes.length, req, c) :=
          queued.receive
        rw [Server.serve, taken]
        simp only
        rw [if_pos positive, modbusReply, replied]
        simp only [recorded]
      refine ⟨answerFrame .tcp req outcome.response, ⟨?_, outcome.response,
        Request.serve_answer _ _ _ outcome served, answerFrame_carries _ _ _⟩, ?_, fun legal => ?_,
        fun illegal counts => ?_⟩
      · rw [answerFrame_tcp, be16, be16, holds 0 (by omega), holds 1 (by omega)]
        rfl
      · rw [turn]
        exact congrArg (· ++ _) peer
      · have kept : c.flushedFor answer = c := if_neg (mt flushes.mp legal)
        rw [turn, kept]
        exact ⟨queued.tcp, queued.connected, defined, rfl⟩
      · have flushed : c.flushedFor answer = c.withIncoming ⟨[], []⟩ :=
          (if_pos (flushes.mpr illegal)).trans (sleepAndFlush_all logReact _ c tcp rfl counts)
        rw [turn, flushed]
        exact ⟨queued.tcp, queued.connected, defined, rfl⟩

theorem wait (queued : s.Queued []) : s.serve.Queued [] ∧
    s.serve.conn.line.peer = s.conn.line.peer := by
  have queue : s.conn.line.incoming = ⟨[], []⟩ := queued.queue
  have same : s.conn.line = ⟨⟨[], []⟩, s.conn.line.peer⟩ := by rw [← queue]
  have endless : (lineDevice logReact).select (s.conn.ctx.backend.headerLength + 1) s.conn.line =
      (.error .hang, s.conn.line) := by
    rw [same]
    rfl
  have untouched : recoverSelect logDevice .hang { s.conn with line := s.conn.line } = s.conn := by
    unfold recoverSelect
    split <;> rfl
  have received : modbusReceive logDevice s.conn s.query =
      (.error .hang, overlay s.query [], s.conn) := by
    rw [modbusReceive, queued.tcp]
    simp only [modbusTcpReceive]
    rw [modbusReceiveMsg, if_neg (not_not.mpr queued.connected), receiveFuel, receiveLoop,
      if_neg (by omega), endless]
    simp only [untouched]
  have turn : s.serve = { s with conn := s.conn, query := overlay s.query [], turn := s.turn + 1 } := by
    rw [Server.serve, received]
  rw [turn]
  exact ⟨⟨queued.tcp, queued.connected, queued.valid, queue⟩, rfl⟩

theorem wait_run (queued : s.Queued []) (k : Nat) :
    (Server.serve^[k] s).conn.line.peer = s.conn.line.peer := by
  induction k generalizing s with
  | zero => rfl
  | succ k ih =>
      obtain ⟨waiting, silent⟩ := queued.wait
      rw [Function.iterate_succ_apply, ih waiting, silent]

end Server.Queued

/-- The server answers the queued requests in order, each once and with its transaction identifier,
up to the first with an illegal count. What is queued behind that one is lost, if it is not more than
65535 bytes. -/
theorem pipelined_replies (s : Server) (qs : List QueuedRequest) (queued : s.Queued qs) (k : Nat)
    (within : k ≤ (QueuedRequest.answered qs).length ∨
      (qs.flatMap QueuedRequest.bytes).length ≤ 65535) :
    ∃ frames, (Server.serve^[k] s).conn.line.peer = s.conn.line.peer ++ frames ∧
      List.Forall₂ QueuedRequest.Replied ((QueuedRequest.answered qs).take k) frames := by
  induction k generalizing s qs with
  | zero => exact ⟨[], (List.append_nil _).symm, .nil⟩
  | succ k ih =>
      cases qs with
      | nil =>
          refine ⟨[], ?_, .nil⟩
          rw [queued.wait_run, List.append_nil]
      | cons q qs =>
          obtain ⟨frame, replied, log, legal, illegal⟩ := queued.serve
          rw [Function.iterate_succ_apply]
          rw [List.flatMap_cons, List.length_append] at within
          by_cases flushes : q.request.Flushes
          · have last : QueuedRequest.answered (q :: qs) = [q] := if_pos flushes
            rw [last] at within ⊢
            refine ⟨[frame], ?_, ?_⟩
            · rw [← log]
              rcases within with first | counts
              · obtain rfl : k = 0 := by simpa using first
                rfl
              · exact (illegal flushes (by omega)).wait_run k
            · rw [List.take_of_length_le (by simp)]
              exact .cons replied .nil
          · have more : QueuedRequest.answered (q :: qs) = q :: QueuedRequest.answered qs :=
              if_neg flushes
            rw [more, List.length_cons] at within
            obtain ⟨frames, later, replies⟩ := ih s.serve qs (legal flushes) (by omega)
            rw [more, List.take_succ_cons]
            refine ⟨frame :: frames, ?_, .cons replied replies⟩
            rw [later, log, List.append_assoc]
            rfl

def readNothing : QueuedRequest :=
  ⟨[0, 1, 0, 0, 0, 6, 0xFF], .readRegisters false 0 0, rfl, by decide, trivial, by decide⟩

def readOne : QueuedRequest :=
  ⟨[0, 2, 0, 0, 0, 6, 0xFF], .readRegisters false 0 1, rfl, by decide, trivial, by decide⟩

def queuedServer (qs : List QueuedRequest) : Server where
  conn := ⟨{ newTcp with s := 3 }, ⟨⟨qs.flatMap QueuedRequest.bytes, []⟩, []⟩⟩
  query := fun _ => 0
  mapping := modbusMappingNew 0 0 4 0
  turn := 0

theorem queuedServer_queued (qs : List QueuedRequest) : (queuedServer qs).Queued qs :=
  ⟨rfl, rfl, fourRegisters_wellFormed, rfl⟩

theorem pipelined_replies_three :
    ∃ frames, (Server.serve^[3] (queuedServer [readOne, readNothing, readOne])).conn.line.peer =
        [] ++ frames ∧
      List.Forall₂ QueuedRequest.Replied
        ((QueuedRequest.answered [readOne, readNothing, readOne]).take 3) frames :=
  pipelined_replies (queuedServer [readOne, readNothing, readOne]) _ (queuedServer_queued _) 3
    (.inr (by decide))

/-- The request for no register takes the one behind it with it. -/
theorem request_lost :
    (queuedServer [readNothing, readOne]).Queued [readNothing, readOne] ∧
      ∀ k, (Server.serve^[k] (queuedServer [readNothing, readOne])).conn.line.peer.length ≤ 1 := by
  obtain ⟨frame, -, -, -, flushed⟩ := (queuedServer_queued [readNothing, readOne]).serve
  have emptied : (queuedServer [readNothing, readOne]).serve.Queued [] :=
    flushed (by decide) (by decide)
  have answered : (queuedServer [readNothing, readOne]).serve.conn.line.peer.length = 1 := by
    decide +kernel
  refine ⟨queuedServer_queued _, fun k => ?_⟩
  cases k with
  | zero => decide
  | succ k => rw [Function.iterate_succ_apply, emptied.wait_run k, answered]

end ModbusNet
