import ModbusNet.Model.Network
import ModbusNet.Model.Setup
import ModbusNet.Proof.Frames

namespace ModbusNet

structure Flight.Answers (f : Flight) (requests : List (List Byte)) : Prop where
  sameTId : ∃ request, requests[f.request]? = some request ∧
    be16 (ofBytes f.bytes) 0 = be16 (ofBytes request) 0
  protocol : be16 (ofBytes f.bytes) 2 = 0
  whole : Delimits .tcp .confirmation (ofBytes f.bytes) f.bytes.length

/-- The responses that the peer sends answer requests that have reached it, and what is delivered is
one of the responses on their way. -/
structure Call.Admissible (call : Call) (c : Conn (Line Network)) : Prop where
  answers : ∀ f ∈ call.responses, f.Answers (call.run c).2.2.line.peer.requests
  delivers : match call.delivery with
    | .silence => True
    | .response f arrivals => f ∈ c.line.peer.undelivered ++ call.responses ∧
        arrivals.flatMap Arrival.signals = f.bytes.map .item

/-- Every response on its way belongs to the current request or to one of the 65535 before it. -/
def Call.Recent (call : Call) (c : Conn (Line Network)) : Prop :=
  ∀ f ∈ c.line.peer.undelivered ++ call.responses,
    c.line.peer.requests.length ≤ f.request + 65535

structure Idle (c : Conn (Line Network)) : Prop where
  connected : c.ctx.isConnected
  backend : c.ctx.backend = .tcp
  silent : c.line.incoming.signals = []

structure Fresh (c : Conn (Line Network)) : Prop extends Idle c where
  unused : c.line.peer = ⟨[], []⟩

inductive Reached (start : Conn (Line Network)) : Conn (Line Network) → Prop
  | start : Reached start start
  | call {c : Conn (Line Network)} (call : Call) (before : Reached start c)
      (admissible : call.Admissible c) : Reached start (call.run c).2.2

theorem Flight.Answers.append {f : Flight} {requests : List (List Byte)}
    (answers : f.Answers requests) (more : List (List Byte)) : f.Answers (requests ++ more) := by
  obtain ⟨⟨request, found, same⟩, protocol, whole⟩ := answers
  have inside : f.request < requests.length := (List.getElem?_eq_some_iff.mp found).1
  exact ⟨⟨request, by rwa [List.getElem?_append_left inside], same⟩, protocol, whole⟩

def Delivery.Whole : Delivery → Prop
  | .silence => True
  | .response f arrivals => Delimits .tcp .confirmation (ofBytes f.bytes) f.bytes.length ∧
      arrivals.flatMap Arrival.signals = f.bytes.map .item

theorem recoverProtocol_silent {π : Type} (react : React π) (c : Conn (Line π))
    (silent : c.line.incoming.signals = []) : recoverProtocol (lineDevice react) c = c := by
  have empty : c.line.incoming.queued = [] := by
    simpa using (List.append_eq_nil_iff.mp silent).1
  rw [recoverProtocol]
  split
  · exact sleepAndFlush_empty react c empty
  · rfl

theorem judgeConfirmation_sameTId {req rsp : Buffer} {rspLength n : Int}
    (confirmed : judgeConfirmation .tcp req rsp rspLength = .ok n) : be16 rsp 0 = be16 req 0 := by
  obtain ⟨checked, -⟩ := judgeConfirmation_ok confirmed
  rw [preCheckConfirmation, modbusTcpPreCheckConfirmation] at checked
  split at checked
  · cases checked
  · rename_i same
    obtain ⟨hi, lo⟩ := not_or.mp same
    rw [be16, be16, not_not.mp hi, not_not.mp lo]

def Call.after (call : Call) (network : Network) (request : List Byte) : Network :=
  ⟨network.requests ++ [request], call.delivery.remaining (network.undelivered ++ call.responses)⟩

theorem Call.exchange_reads (call : Call) (c : Conn (Line Network)) (idle : Idle c)
    (whole : call.delivery.Whole) (req : List Byte) (nonempty : sendMsgPre .tcp req ≠ []) :
    ∃ incoming result, incoming.signals = [] ∧
      exchange (lineDevice call.react) c req = (result,
        { c with line := ⟨incoming, call.after c.line.peer (sendMsgPre .tcp req)⟩ }) ∧
      ∀ n rsp, result = .ok (n, rsp) → ∃ f arrivals, call.delivery = .response f arrivals ∧
        be16 (ofBytes f.bytes) 0 = be16 (ofBytes (sendMsgPre .tcp req)) 0 := by
  obtain ⟨connected, backend, silent⟩ := idle
  set request := sendMsgPre .tcp req with request_def
  rw [request_def, ← backend] at nonempty
  cases delivery : call.delivery with
  | silence =>
      obtain ⟨incoming, silent', exchanged⟩ := exchange_silence call.react c req connected silent
        nonempty rfl (by rw [delivery]; rfl)
      refine ⟨incoming, .error (.errno .etimedout), silent', ?_, fun n rsp absurd => by cases absurd⟩
      rw [exchanged, request_def, ← backend]
      rfl
  | response f arrivals =>
      rw [delivery] at whole
      obtain ⟨delimits, grouped⟩ := whole
      set sent : Conn (Line Network) := { c with line :=
        ⟨{ c.line.incoming with future := c.line.incoming.future ++ call.delivery.arrivals },
          call.after c.line.peer request⟩ }
      have transmitted : sendFrame (lineDevice call.react) request c = (.ok request.length, sent) :=
        sendFrame_line _ _ c rfl
      have positive : (0 : Int) < request.length := by
        rw [request_def, ← backend]
        exact_mod_cast List.length_pos_iff.mpr nonempty
      have signals : sent.line.incoming.signals = f.bytes.map .item ++ [] := by
        simp only [Incoming.signals, List.append_eq_nil_iff] at silent
        simp only [sent, Incoming.signals, List.flatMap_append, silent.1, silent.2, List.nil_append,
          delivery, List.append_nil]
        exact grouped
      obtain ⟨incoming, silent', received⟩ := modbusReceiveMsg_frame call.react .confirmation f.bytes []
        sent connected (by rw [show sent.ctx.backend = .tcp from backend]; exact delimits) signals
      rw [checkIntegrity_accepts _ (sent.withIncoming incoming) f.bytes fun rtu =>
        absurd (backend.symm.trans rtu) (by decide)] at received
      have long : 2 ≤ f.bytes.length := by
        have := delimits.head_le
        rw [headLength, Backend.headerLength_tcp] at this
        omega
      -- The check compares the identifiers in the buffers, and the response begins with its own.
      have tId : be16 (overlay c.ctx.uninit f.bytes) 0 = be16 (ofBytes f.bytes) 0 :=
        AgreeBelow.be16_eq (overlay_agree c.ctx.uninit f.bytes) long
      rw [exchange, backend, transmitted]
      simp only
      rw [if_pos positive, received]
      simp only [checkConfirmation, withIncoming_ctx]
      rw [show sent.ctx.backend = .tcp from backend, show sent.ctx.uninit = c.ctx.uninit from rfl]
      cases judged : judgeConfirmation .tcp (ofBytes request) (overlay c.ctx.uninit f.bytes)
          f.bytes.length with
      | ok n =>
          refine ⟨incoming, .ok (n, some (overlay c.ctx.uninit f.bytes)), silent', rfl, ?_⟩
          intro _ _ _
          exact ⟨f, arrivals, rfl, by rw [← tId, judgeConfirmation_sameTId judged]⟩
      | error failed =>
          obtain ⟨e, recover⟩ := failed
          refine ⟨incoming, .error (.errno e), silent', ?_, fun n rsp absurd => by cases absurd⟩
          simp only
          rw [recoverProtocol_silent call.react (sent.withIncoming incoming) silent', ite_self]
          rfl

theorem ClientOp.finish_ok {σ : Type} (op : ClientOp) (result : Except Failure (Int × Option Buffer))
    (c : Conn σ) {n : Int} (success : (op.finish (result, c)).1 = .ok n) :
    ∃ n rsp, result = .ok (n, rsp) := by
  cases result with
  | error e => cases success
  | ok values => exact ⟨values.1, values.2, rfl⟩

theorem Call.run_reads (call : Call) (c : Conn (Line Network)) (idle : Idle c)
    (whole : call.delivery.Whole) :
    (∃ e dest, call.run c = (.error (.errno e), dest, c)) ∨
      ∃ request incoming result dest, incoming.signals = [] ∧
        be16 (ofBytes request) 0 = (c.ctx.tId + 1).toNat ∧
        call.run c = (result, dest, ⟨{ c.ctx with tId := c.ctx.tId + 1 },
          ⟨incoming, call.after c.line.peer request⟩⟩) ∧
        ∀ n, result = .ok n → ∃ f arrivals, call.delivery = .response f arrivals ∧
          be16 (ofBytes f.bytes) 0 = be16 (ofBytes request) 0 := by
  rw [run]
  rcases call.op.run_sends (lineDevice call.react) c with ⟨e, -, refused⟩ | ⟨-, sent⟩
  · exact .inl ⟨e, _, refused⟩
  · right
    have backend := idle.backend
    rw [nextRequest_tcp backend] at sent
    set ctx : Ctx := { c.ctx with tId := c.ctx.tId + 1 } with ctx_def
    have header : requestHeader ctx ++ call.op.pdu =
        [hiByte ctx.tId.toNat, loByte ctx.tId.toNat, 0, 0, 0, 0, loByte ctx.slave] ++ call.op.pdu := by
      rw [requestHeader, show ctx.backend = .tcp from backend]
    have framed := sendMsgPre_tcp_adu ctx.tId (loByte ctx.slave) 0 0 call.op.pdu
    have numbered : be16 (ofBytes (adu .tcp ctx.tId (loByte ctx.slave) call.op.pdu)) 0 = ctx.tId.toNat :=
      beWord_wordBytes ctx.tId
    obtain ⟨incoming, result, silent, exchanged, success⟩ :=
      call.exchange_reads { c with ctx } ⟨idle.connected, backend, idle.silent⟩ whole
        (requestHeader ctx ++ call.op.pdu) (by rw [header, framed]; exact (adu_carries _ _ _ _).nonempty)
    rw [header, framed] at exchanged success
    set frame := adu .tcp ctx.tId (loByte ctx.slave) call.op.pdu
    set c' : Conn (Line Network) := ⟨ctx, ⟨incoming, call.after c.line.peer frame⟩⟩
    have finished : call.op.run (lineDevice call.react) c = call.op.finish (result, c') := by
      rw [sent, header, exchanged]
    refine ⟨frame, incoming, (call.op.finish (result, c')).1, (call.op.finish (result, c')).2.1, silent,
      numbered, ?_, ?_⟩
    · rw [finished]
      exact congrArg (Prod.mk _ ∘ Prod.mk _) (call.op.finish_conn (result, c'))
    · intro n concluded
      obtain ⟨n', rsp, read⟩ := call.op.finish_ok result c' concluded
      exact success n' rsp read

/-- The requests carry consecutive transaction identifiers, and the responses on their way answer
them. -/
structure Numbered (tId : Word) (c : Conn (Line Network)) : Prop extends Idle c where
  next : c.ctx.tId = tId + BitVec.ofNat 16 c.line.peer.requests.length
  sent : ∀ i request, c.line.peer.requests[i]? = some request →
    be16 (ofBytes request) 0 = (tId + BitVec.ofNat 16 (i + 1)).toNat
  pending : ∀ f ∈ c.line.peer.undelivered, f.Answers c.line.peer.requests

theorem Delivery.mem_of_mem_remaining {delivery : Delivery} {flights : List Flight} {f : Flight}
    (member : f ∈ delivery.remaining flights) : f ∈ flights := by
  cases delivery with
  | silence => exact member
  | response g arrivals => exact List.mem_of_mem_erase member

section
variable {tId : Word} {c : Conn (Line Network)} (numbered : Numbered tId c) {call : Call}
include numbered

theorem Numbered.delivery_whole (admissible : call.Admissible c) : call.delivery.Whole := by
  obtain ⟨answers, delivers⟩ := admissible
  cases delivery : call.delivery with
  | silence => trivial
  | response f arrivals =>
      rw [delivery] at delivers
      obtain ⟨member, grouped⟩ := delivers
      refine ⟨?_, grouped⟩
      rcases List.mem_append.mp member with pending | answer
      · exact (numbered.pending f pending).whole
      · exact (answers f answer).whole

theorem Numbered.request (request : List Byte)
    (asked : be16 (ofBytes request) 0 = (c.ctx.tId + 1).toNat) (i : Nat) (later : List Byte)
    (found : (c.line.peer.requests ++ [request])[i]? = some later) :
    be16 (ofBytes later) 0 = (tId + BitVec.ofNat 16 (i + 1)).toNat := by
  rcases Nat.lt_trichotomy i c.line.peer.requests.length with inside | last | outside
  · rw [List.getElem?_append_left inside] at found
    exact numbered.sent i later found
  · subst last
    rw [List.getElem?_concat_length, Option.some.injEq] at found
    rw [← found, asked, numbered.next, BitVec.ofNat_add, BitVec.add_assoc]
    rfl
  · rw [List.getElem?_eq_none (by simpa using outside)] at found
    cases found

theorem Numbered.run (admissible : call.Admissible c) : Numbered tId (call.run c).2.2 := by
  have answers := admissible.answers
  rcases call.run_reads c numbered.toIdle (numbered.delivery_whole admissible) with
    ⟨e, dest, refused⟩ | ⟨request, incoming, result, dest, silent, asked, sent, -⟩
  · rw [refused]
    exact numbered
  · rw [sent] at answers ⊢
    refine ⟨⟨numbered.connected, numbered.backend, silent⟩, ?_, numbered.request request asked, ?_⟩
    · simp only [Call.after, List.length_append, List.length_singleton]
      rw [numbered.next, BitVec.ofNat_add, BitVec.add_assoc]
      rfl
    · intro f member
      rcases List.mem_append.mp (Delivery.mem_of_mem_remaining member) with pending | answer
      · exact (numbered.pending f pending).append [request]
      · exact answers f answer

end

theorem Reached.numbered {start c : Conn (Line Network)} (reached : Reached start c)
    (fresh : Fresh start) : Numbered start.ctx.tId c := by
  induction reached with
  | start =>
      refine ⟨fresh.toIdle, ?_, ?_, ?_⟩
      · rw [fresh.unused]
        simp
      · intro i request found
        rw [fresh.unused] at found
        simp at found
      · intro f member
        rw [fresh.unused] at member
        simp at member
  | call call before admissible ih => exact ih.run admissible

theorem tId_injective (tId : Word) {i k : Nat} (same : tId + BitVec.ofNat 16 (i + 1) =
    tId + BitVec.ofNat 16 (k + 1)) (before : i ≤ k) (recent : k ≤ i + 65535) : i = k := by
  have equal : BitVec.ofNat 16 (i + 1) = BitVec.ofNat 16 (k + 1) := by
    simpa using same
  have residues := congrArg BitVec.toNat equal
  simp only [BitVec.toNat_ofNat] at residues
  omega

/-- Whatever the peer sends and whenever it is delivered, a call that succeeds has sent a request and
read the response to it. -/
theorem success_reads_own_response {start c : Conn (Line Network)} (fresh : Fresh start)
    (reached : Reached start c) (call : Call) (admissible : call.Admissible c)
    (recent : call.Recent c) {n : Int} (success : (call.run c).1 = .ok n) :
    ∃ f arrivals request, call.delivery = .response f arrivals ∧
      (call.run c).2.2.line.peer.requests = c.line.peer.requests ++ [request] ∧
      f.request = c.line.peer.requests.length := by
  have numbered := reached.numbered fresh
  have answers := admissible.answers
  rcases call.run_reads c numbered.toIdle (numbered.delivery_whole admissible) with
    ⟨e, dest, refused⟩ | ⟨request, incoming, result, dest, silent, asked, sent, reads⟩
  · rw [refused] at success
    cases success
  · rw [sent] at success answers ⊢
    obtain ⟨f, arrivals, delivery, same⟩ := reads n success
    refine ⟨f, arrivals, request, delivery, rfl, ?_⟩
    have delivers := admissible.delivers
    rw [delivery] at delivers
    have member := delivers.1
    have answer : f.Answers (c.line.peer.requests ++ [request]) := by
      rcases List.mem_append.mp member with pending | new
      · exact (numbered.pending f pending).append [request]
      · exact answers f new
    obtain ⟨asker, found, asked_by⟩ := answer.sameTId
    have inside : f.request < c.line.peer.requests.length + 1 := by
      simpa using (List.getElem?_eq_some_iff.mp found).1
    have own := numbered.request request asked _ request (List.getElem?_concat_length ..)
    have other := numbered.request request asked _ asker found
    -- The frame answers a request with the identifier of the last one, and identifiers repeat only
    -- after 65536 requests.
    refine tId_injective start.ctx.tId ?_ (Nat.le_of_lt_succ inside) (recent f member)
    exact BitVec.eq_of_toNat_eq (by rw [← own, ← other, ← asked_by, same])

def newClient : Conn (Line Network) := .established newTcp ⟨[], []⟩

def firstCall : Call := ⟨.readRegisters 0 1 fun _ => 0, [], .silence⟩

def ownResponse : Flight := ⟨1, [0, 2, 0, 0, 0, 5, 0xFF, 0x03, 2, 0, 7]⟩

def secondCall : Call :=
  ⟨.readRegisters 0 1 fun _ => 0, [⟨0, [0, 1, 0, 0, 0, 5, 0xFF, 0x03, 2, 0, 6]⟩, ownResponse],
    .response ownResponse [.items 0 [2, 0, 0, 0, 5, 0xFF, 0x03, 2, 0, 7]]⟩

theorem success_reads_own_response_second :
    ∃ f arrivals, secondCall.delivery = .response f arrivals ∧
      f.request = (firstCall.run newClient).2.2.line.peer.requests.length := by
  have fresh : Fresh newClient := ⟨⟨rfl, rfl, rfl⟩, rfl⟩
  have first : firstCall.Admissible newClient := ⟨by simp [firstCall], trivial⟩
  set c := (firstCall.run newClient).2.2 with c_def
  have requests : (secondCall.run c).2.2.line.peer.requests =
      [[0, 1, 0, 0, 0, 6, 0xFF, 0x03, 0, 0, 0, 1], [0, 2, 0, 0, 0, 6, 0xFF, 0x03, 0, 0, 0, 1]] := by
    decide +kernel
  have undelivered : c.line.peer.undelivered = [] := by decide +kernel
  have length : c.line.peer.requests.length = 1 := by decide +kernel
  have second : secondCall.Admissible c := by
    refine ⟨?_, ?_⟩
    · rw [requests]
      simp only [secondCall, List.forall_mem_cons, List.not_mem_nil, false_imp_iff, implies_true,
        and_true]
      exact ⟨⟨⟨_, rfl, by decide⟩, by decide, rfl, by decide⟩, ⟨⟨_, rfl, by decide⟩, by decide, rfl,
        by decide⟩⟩
    · rw [undelivered]
      exact ⟨by decide, rfl⟩
  have recent : secondCall.Recent c := fun f _ => by
    rw [length]
    omega
  have success : (secondCall.run c).1 = .ok 1 := by decide +kernel
  obtain ⟨f, arrivals, -, delivered, -, own⟩ :=
    success_reads_own_response fresh (.call firstCall .start first) secondCall second recent success
  exact ⟨f, arrivals, delivered, own⟩

end ModbusNet
