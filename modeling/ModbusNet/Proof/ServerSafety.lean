import ModbusNet.Model.Loopback
import ModbusNet.Model.Setup
import ModbusNet.Proof.Connections
import ModbusNet.Proof.Reply

namespace ModbusNet

def Received (b : Backend) (req : Buffer) (n : Int) : Prop :=
  ∃ k : Nat, n = k ∧ Delimits b .indication req k

section
variable {σ : Type} (dev : Device σ)

theorem checkIntegrity_ok {c c' : Conn σ} {msg : List Byte} {n : Int}
    (result : checkIntegrity dev c msg = (.ok n, c')) :
    c' = c ∧ (n = msg.length ∨ n = 0) := by
  unfold checkIntegrity at result
  cases backend : c.ctx.backend with
  | tcp =>
      simp only [backend, Prod.mk.injEq, Except.ok.injEq] at result
      exact ⟨result.2.symm, .inl result.1.symm⟩
  | rtu =>
      simp only [backend, modbusRtuCheckIntegrity] at result
      split at result
      · simp only [Prod.mk.injEq, Except.ok.injEq] at result
        exact ⟨result.2.symm, .inr result.1.symm⟩
      · split at result
        · simp only [Prod.mk.injEq, Except.ok.injEq] at result
          exact ⟨result.2.symm, .inl result.1.symm⟩
        · simp at result

theorem modbusReceiveMsg_ok {msgType : MsgType} {c c' : Conn σ} {msg : List Byte} {n : Int}
    (result : modbusReceiveMsg dev msgType c = (.ok n, msg, c')) :
    c'.ctx = c.ctx ∧ Delimits c.ctx.backend msgType (ofBytes msg) msg.length ∧
      (n = msg.length ∨ n = 0) := by
  unfold modbusReceiveMsg at result
  split at result
  · simp at result
  · cases run : receiveLoop dev msgType receiveFuel .stepFunction (c.ctx.backend.headerLength + 1)
        [] c with
    | mk outcome rest =>
        obtain ⟨msg', c₁⟩ := rest
        rw [run] at result
        cases outcome with
        | error e => simp at result
        | ok _ =>
            obtain ⟨ctx, delimits⟩ := receiveLoop_delimits dev msgType receiveFuel .stepFunction _ []
              msg' c c₁ (start_expecting c.ctx.backend msgType) run
            cases checked : checkIntegrity dev c₁ msg' with
            | mk rc c₂ =>
                simp only [checked, Prod.mk.injEq] at result
                obtain ⟨rfl, rfl, rfl⟩ := result
                obtain ⟨rfl, length⟩ := checkIntegrity_ok dev checked
                exact ⟨ctx, delimits, length⟩

theorem modbusReceive_received {c c' : Conn σ} {buffer req : Buffer} {n : Int}
    (result : modbusReceive dev c buffer = (.ok n, req, c')) (accepted : n ≠ 0) :
    c'.ctx = c.ctx ∧ Received c.ctx.backend req n := by
  have indication : ∀ msg, modbusReceiveMsg dev .indication c = (.ok n, msg, c') →
      req = overlay buffer msg → c'.ctx = c.ctx ∧ Received c.ctx.backend req n := by
    rintro msg received rfl
    obtain ⟨ctx, delimits, length⟩ := modbusReceiveMsg_ok dev received
    refine ⟨ctx, msg.length, length.resolve_right accepted, delimits.agree ?_⟩
    exact fun i bound => (overlay_agree buffer msg i bound).symm
  unfold modbusReceive at result
  cases backend : c.ctx.backend with
  | tcp =>
      simp only [backend, modbusTcpReceive] at result
      cases received : modbusReceiveMsg dev .indication c with
      | mk rc rest =>
          simp only [received, Prod.mk.injEq] at result
          obtain ⟨rfl, same, rfl⟩ := result
          exact backend ▸ indication rest.1 received same.symm
  | rtu =>
      simp only [backend, modbusRtuReceive] at result
      split at result
      · split at result <;> simp only [Prod.mk.injEq, Except.ok.injEq, reduceCtorEq, false_and] at result
        exact absurd result.1.symm accepted
      · split at result
        · simp only [Prod.mk.injEq, Except.ok.injEq] at result
          exact absurd result.1.symm accepted
        · rename_i rc msg c₁ _ received
          simp only [Prod.mk.injEq] at result
          obtain ⟨rfl, same, rfl⟩ := result
          exact backend ▸ indication msg received same.symm

end

theorem Received.length {b : Backend} {req : Buffer} {n : Int} (received : Received b req n) :
    n = (b.headerLength + pduLength .indication (pduAt b req) + b.checksumLength : Nat) ∧
      pduLength .indication (pduAt b req) ≤ maxPduLength := by
  obtain ⟨k, rfl, delimits⟩ := received
  obtain ⟨length, fits⟩ := (delimits_iff _ _ _ _).mp delimits
  exact ⟨congrArg _ length, fits⟩

theorem bytesAt_pduAt (b : Backend) (req : Buffer) (n : Nat) :
    bytesAt req 0 (b.headerLength + n) = bytesAt req 0 b.headerLength ++ bytesAt (pduAt b req) 0 n := by
  rw [bytesAt_add]
  simp only [bytesAt, pduAt, Nat.zero_add]

theorem Received.copyRequest_eq {b : Backend} {req : Buffer} {n : Int}
    (received : Received b req n) :
    copyRequest req (prepareResponseTid b req n).2 =
      .ok (bytesAt req 0 b.headerLength ++ (Request.decode (pduAt b req)).encode) := by
  obtain ⟨length, fits⟩ := received.length
  have copied : (prepareResponseTid b req n).2 =
      (b.headerLength + pduLength .indication (pduAt b req) : Nat) := by
    cases b <;> simp only [prepareResponseTid, length] <;> simp
  have header_le : b.headerLength ≤ 7 := by cases b <;> simp
  rw [copied, copyRequest, if_pos, Int.toNat_natCast, bytesAt_pduAt, Request.encode_decode]
  simp only [maxPduLength] at fits
  simp only [maxMessageLength]
  omega

def answerHeader (b : Backend) (req : Buffer) : Response → List Byte
  | .echo _ => bytesAt req 0 b.headerLength
  | _ => responseHeader b req

theorem replySwitch_received (ctx : Ctx) (req : Buffer) (n : Int) (mb : ModbusMapping)
    (received : Received ctx.backend req n) :
    replySwitch ctx req n mb =
      ((Request.decode (pduAt ctx.backend req)).serve ctx.version mb).map fun outcome =>
        (⟨answerHeader ctx.backend req outcome.response ++ outcome.response.encode,
          outcome.toFlush⟩, outcome.mapping) := by
  rw [replySwitch_serve, received.copyRequest_eq]
  have answers := Request.serve_answer ctx.version mb (Request.decode (pduAt ctx.backend req))
  cases served : (Request.decode (pduAt ctx.backend req)).serve ctx.version mb with
  | error e => rfl
  | ok outcome =>
      obtain ⟨response, toFlush, mapping⟩ := outcome
      cases response with
      | echo request =>
          obtain ⟨rfl, -⟩ := answers _ served
          rfl
      | _ => rfl

theorem Received.agree {b : Backend} {req req' : Buffer} {n : Int} (received : Received b req n)
    (agree : AgreeBelow n.toNat req req') : Received b req' n := by
  obtain ⟨k, rfl, delimits⟩ := received
  exact ⟨k, rfl, delimits.agree agree⟩

theorem replySwitch_agree (ctx : Ctx) (req req' : Buffer) (n : Int) (mb : ModbusMapping)
    (received : Received ctx.backend req n) (agree : AgreeBelow n.toNat req req') :
    replySwitch ctx req n mb = replySwitch ctx req' n mb := by
  obtain ⟨length, -⟩ := received.length
  have inside : ∀ i, i < ctx.backend.headerLength + pduLength .indication (pduAt ctx.backend req) →
      req i = req' i := fun i bound => agree i (by omega)
  have decoded : Request.decode (pduAt ctx.backend req) = Request.decode (pduAt ctx.backend req') :=
    Request.decode_agree fun i bound => inside _ (by omega)
  have headers : ∀ response, answerHeader ctx.backend req response =
      answerHeader ctx.backend req' response := by
    have echoed : bytesAt req 0 ctx.backend.headerLength = bytesAt req' 0 ctx.backend.headerLength :=
      AgreeBelow.bytesAt_eq (m := ctx.backend.headerLength) (fun i bound => inside i (by omega))
        (by omega)
    have built : responseHeader ctx.backend req = responseHeader ctx.backend req' := by
      cases backend : ctx.backend with
      | rtu =>
          rw [backend, Backend.headerLength_rtu] at inside
          simp only [responseHeader, inside 0 (by omega)]
      | tcp =>
          rw [backend, Backend.headerLength_tcp] at inside
          simp only [responseHeader, inside 0 (by omega), inside 1 (by omega), inside 6 (by omega)]
    intro response
    cases response <;> simp only [answerHeader, echoed, built]
  rw [replySwitch_received ctx req n mb received,
    replySwitch_received ctx req' n mb (received.agree agree), decoded]
  simp only [headers]

section
variable {σ : Type} (dev : Device σ)

theorem sendLoop_defined (msg : List Byte) (fuel : Nat) (c : Conn σ) :
    (sendLoop dev msg fuel c).1 ≠ .error .undefined := by
  induction fuel generalizing c with
  | zero => simp [sendLoop]
  | succ fuel ih =>
      rw [sendLoop]
      split
      · simp
      · simp only
        split
        · split
          · exact ih _
          · simp
        · simp

theorem sendMsg_defined (c : Conn σ) (msg : List Byte) :
    (sendMsg dev c msg).1 ≠ .error .undefined := by
  have loop := sendLoop_defined dev (sendMsgPre c.ctx.backend msg) (dev.retries + 1) c
  rw [sendMsg, sendFrame]
  split
  · split <;> simp
  · rename_i e _ failed
    rw [failed] at loop
    exact loop

theorem sendAnswer_defined (c : Conn σ) (req : Buffer) (answer : Answer) :
    (sendAnswer dev c req answer).1 ≠ .error .undefined := by
  unfold sendAnswer
  simp only
  split <;> split <;> first | exact sendMsg_defined dev _ _ | simp

theorem suppressed_agree (ctx : Ctx) (req req' : Buffer)
    (agree : AgreeBelow ctx.backend.headerLength req req') :
    suppressed ctx req = suppressed ctx req' := by
  have slave := agree (ctx.backend.headerLength - 1) (by cases ctx.backend <;> simp)
  rw [suppressed, suppressed, slave]

/-- The reply to a received request accesses the tables inside their bounds only, and it depends
only on the bytes that were received. -/
theorem modbusReply_safe {τ : Type} (link : Device τ) (c c' : Conn τ) (buffer req : Buffer) (n : Int)
    (received : modbusReceive link c buffer = (.ok n, req, c')) (accepted : n ≠ 0)
    (answering : Conn σ) (same : answering.ctx = c'.ctx) (mb : ModbusMapping)
    (valid : mb.WellFormed) :
    (modbusReply dev answering req n mb).1 ≠ .error .undefined ∧
      ∀ req', AgreeBelow n.toNat req req' →
        modbusReply dev answering req' n mb = modbusReply dev answering req n mb := by
  obtain ⟨ctx, whole⟩ := modbusReceive_received link received accepted
  have request : Received answering.ctx.backend req n := by
    rw [same, ctx]
    exact whole
  constructor
  · have defined := Request.serve_defined answering.ctx.version mb valid
      (Request.decode (pduAt answering.ctx.backend req))
    rw [modbusReply, replySwitch_received answering.ctx req n mb request]
    cases served : (Request.decode (pduAt answering.ctx.backend req)).serve answering.ctx.version mb with
    | error e =>
        rw [served] at defined
        intro undefined
        exact defined (Except.error.inj undefined)
    | ok outcome => exact sendAnswer_defined dev answering req _
  · intro req' agree
    have header : AgreeBelow answering.ctx.backend.headerLength req' req := by
      intro i bound
      have := request.length.1
      exact (agree i (by omega)).symm
    rw [modbusReply, modbusReply, ← replySwitch_agree answering.ctx req req' n mb request agree]
    cases replySwitch answering.ctx req n mb with
    | error e => rfl
    | ok answer =>
        have sent : sendAnswer dev answering req' answer.1 = sendAnswer dev answering req answer.1 := by
          have flushed := (sleepAndFlush_alike dev answering).backend
          unfold sendAnswer
          simp only
          rw [suppressed_agree _ req' req]
          split
          · rwa [flushed]
          · exact header
        simp only [sent]

end

theorem modbusReply_safe_readRegisters :
    let received := modbusReceive logDevice ((Conn.established newTcp []).hear
      [.items 0 [1, 0, 0, 0, 6, 0xFF, 0x03, 0, 0, 0, 2]]) fun _ => 0
    let reply req := modbusReply logDevice received.2.2 req 12 (modbusMappingNew 0 0 4 0)
    (reply received.2.1).1 ≠ .error .undefined ∧
      ∀ req', AgreeBelow 12 received.2.1 req' → reply req' = reply received.2.1 := by
  intro received
  have returned : received.1 = .ok 12 := by decide +kernel
  exact modbusReply_safe logDevice logDevice _ received.2.2 _ received.2.1 12
    (Prod.ext returned rfl) (by decide) received.2.2 rfl (modbusMappingNew 0 0 4 0)
    (modbusMappingNewStartAddress_wellFormed 0 0 0 0 0 4 0 0 (by simp [FitsInt]))

end ModbusNet
