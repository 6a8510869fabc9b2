import ModbusNet.Model.Loopback
import ModbusNet.Model.UnitTestServer
import ModbusNet.Proof.Receptions
import ModbusNet.Proof.SimulatorMain
import ModbusNet.Proof.Simulators

namespace ModbusNet

/-! ## Requests that spare the tables -/

def Spares (mb : ModbusMapping) : Except Failure Outcome → Prop
  | .error _ => True
  | .ok ⟨.echo _, _, _⟩ => False
  | .ok ⟨_, _, mapping⟩ => mapping = mb

def Request.Harmless (mb : ModbusMapping) : Request → Prop
  | .writeSingleCoil address data =>
      mb.coils.Covers address.toNat 1 → data.toNat ≠ 0xFF00 ∧ data.toNat ≠ 0
  | .writeSingleRegister address _ => ¬ mb.holdingRegisters.Covers address.toNat 1
  | .maskWriteRegister address _ _ => ¬ mb.holdingRegisters.Covers address.toNat 1
  | .writeMultipleCoils address nb data =>
      1 ≤ nb.toNat ∧ nb.toNat ≤ maxWriteBits ∧ nb.toNat ≤ data.length * 8 →
        mb.coils.Covers address.toNat nb.toNat →
          mb.coils.cellsAt address.toNat nb.toNat = bitCells (ofBytes data) nb.toNat
  | .writeMultipleRegisters address nb data =>
      1 ≤ nb.toNat ∧ nb.toNat ≤ maxWriteRegisters ∧ data.length = nb.toNat * 2 →
        mb.holdingRegisters.Covers address.toNat nb.toNat →
          mb.holdingRegisters.cellsAt address.toNat nb.toNat = wordsAt (ofBytes data) 0 nb.toNat
  | .writeAndReadRegisters address nb addressWrite nbWrite data =>
      (1 ≤ nbWrite.toNat ∧ nbWrite.toNat ≤ maxWrWriteRegisters ∧ 1 ≤ nb.toNat ∧
          nb.toNat ≤ maxWrReadRegisters ∧ data.length = nbWrite.toNat * 2) →
        mb.holdingRegisters.Covers address.toNat nb.toNat →
        mb.holdingRegisters.Covers addressWrite.toNat nbWrite.toNat →
          mb.holdingRegisters.cellsAt addressWrite.toNat nbWrite.toNat =
            wordsAt (ofBytes data) 0 nbWrite.toNat
  | _ => True

section
variable {mb : ModbusMapping}

theorem set_coils_iff (cells : List Byte) : { mb with tabBits := cells } = mb ↔ cells = mb.tabBits :=
  ⟨fun same => congrArg ModbusMapping.tabBits same, by rintro rfl; rfl⟩

theorem set_registers_iff (cells : List Word) :
    { mb with tabRegisters := cells } = mb ↔ cells = mb.tabRegisters :=
  ⟨fun same => congrArg ModbusMapping.tabRegisters same, by rintro rfl; rfl⟩

theorem replaced_iff {α : Type} {t : Table α} (sound : t.Sound) (address : Nat) (values : List α)
    (covers : t.Covers address values.length) :
    t.replaced address values = t.cells ↔ t.cellsAt address values.length = values :=
  store_eq_self_iff _ _ _ (covers.inside sound)

theorem spares_read {α : Type} {p q : Prop} [Decidable p] [Decidable q] {function code code' : Nat}
    (cells : Option α) (data : α → List Byte) :
    Spares mb (if p then .ok ⟨.exception function code, true, mb⟩
      else if q then .ok ⟨.exception function code', false, mb⟩
      else access cells fun a => ⟨.values function (data a), false, mb⟩) := by
  split
  · rfl
  · split
    · rfl
    · cases cells with
      | none => trivial
      | some a => rfl

theorem Request.spares_iff (version : VersionString) (valid : mb.WellFormed) (r : Request) :
    Spares mb (r.serve version mb) ↔ r.Harmless mb := by
  cases r with
  | readBits isInput address nb => exact iff_of_true (spares_read _ _) trivial
  | readRegisters isInput address nb => exact iff_of_true (spares_read _ _) trivial
  | writeSingleCoil address data =>
      simp only [serve, Harmless]
      by_cases covers : mb.coils.Covers address.toNat 1
      · rw [if_neg (not_not.mpr covers)]
        by_cases known : data.toNat = 0xFF00 ∨ data.toNat = 0
        · rw [if_pos known, valid.coils_sound.write_eq [_] covers]
          refine ⟨False.elim, fun harmless => ?_⟩
          have refused := harmless covers
          tauto
        · rw [if_neg known]
          exact ⟨fun _ _ => not_or.mp known, fun _ => rfl⟩
      · rw [if_pos covers]
        exact ⟨fun _ covers' => absurd covers' covers, fun _ => rfl⟩
  | writeSingleRegister address data =>
      simp only [serve, Harmless]
      by_cases covers : mb.holdingRegisters.Covers address.toNat 1
      · rw [if_neg (not_not.mpr covers), valid.holding_sound.write_eq [data] covers]
        exact ⟨False.elim, fun harmless => harmless covers⟩
      · rw [if_pos covers]
        exact ⟨fun _ => covers, fun _ => rfl⟩
  | writeMultipleCoils address nb data =>
      simp only [serve, Harmless]
      by_cases refused : nb.toNat < 1 ∨ maxWriteBits < nb.toNat ∨ data.length * 8 < nb.toNat
      · rw [if_pos refused]
        exact ⟨fun _ accepted => by omega, fun _ => rfl⟩
      · rw [if_neg refused]
        by_cases covers : mb.coils.Covers address.toNat nb.toNat
        · have fits : mb.coils.Covers address.toNat (bitCells (ofBytes data) nb.toNat).length := by
            rwa [bitCells_length]
          have kept := replaced_iff valid.coils_sound address.toNat _ fits
          rw [bitCells_length] at kept
          rw [if_neg (not_not.mpr covers), valid.coils_sound.write_eq _ fits]
          refine (set_coils_iff _).trans (kept.trans ⟨fun same _ _ => same, fun same => ?_⟩)
          exact same (by omega) covers
        · rw [if_pos covers]
          exact ⟨fun _ _ covers' => absurd covers' covers, fun _ => rfl⟩
  | writeMultipleRegisters address nb data =>
      simp only [serve, Harmless]
      by_cases refused : nb.toNat < 1 ∨ maxWriteRegisters < nb.toNat ∨ data.length ≠ nb.toNat * 2
      · rw [if_pos refused]
        exact ⟨fun _ accepted => by omega, fun _ => rfl⟩
      · rw [if_neg refused]
        by_cases covers : mb.holdingRegisters.Covers address.toNat nb.toNat
        · have fits : mb.holdingRegisters.Covers address.toNat
              (wordsAt (ofBytes data) 0 nb.toNat).length := by rwa [wordsAt_length]
          have kept := replaced_iff valid.holding_sound address.toNat _ fits
          rw [wordsAt_length] at kept
          rw [if_neg (not_not.mpr covers), valid.holding_sound.write_eq _ fits]
          refine (set_registers_iff _).trans (kept.trans ⟨fun same _ _ => same, fun same => ?_⟩)
          exact same (by omega) covers
        · rw [if_pos covers]
          exact ⟨fun _ _ covers' => absurd covers' covers, fun _ => rfl⟩
  | readExceptionStatus => exact iff_of_true trivial trivial
  | reportSlaveId => exact iff_of_true rfl trivial
  | maskWriteRegister address andMask orMask =>
      simp only [serve, Harmless]
      by_cases covers : mb.holdingRegisters.Covers address.toNat 1
      · have found := valid.holding_sound.read_eq covers
        have length := Table.read_length found
        have fits : mb.holdingRegisters.Covers address.toNat ((slice mb.holdingRegisters.cells
            (mb.holdingRegisters.index address.toNat) 1).map (maskedWord · andMask orMask)).length := by
          rwa [List.length_map, length]
        rw [if_neg (not_not.mpr covers), found, Option.bind_eq_bind, Option.bind_some,
          valid.holding_sound.write_eq _ fits]
        exact ⟨False.elim, fun harmless => harmless covers⟩
      · rw [if_pos covers]
        exact ⟨fun _ => covers, fun _ => rfl⟩
  | writeAndReadRegisters address nb addressWrite nbWrite data =>
      simp only [serve, Harmless]
      by_cases refused : nbWrite.toNat < 1 ∨ maxWrWriteRegisters < nbWrite.toNat ∨ nb.toNat < 1 ∨
          maxWrReadRegisters < nb.toNat ∨ data.length ≠ nbWrite.toNat * 2
      · rw [if_pos refused]
        exact ⟨fun _ accepted => by omega, fun _ => rfl⟩
      · rw [if_neg refused]
        by_cases covers : mb.holdingRegisters.Covers address.toNat nb.toNat ∧
            mb.holdingRegisters.Covers addressWrite.toNat nbWrite.toNat
        · obtain ⟨read, written⟩ := covers
          have fits : mb.holdingRegisters.Covers addressWrite.toNat
              (wordsAt (ofBytes data) 0 nbWrite.toNat).length := by rwa [wordsAt_length]
          have kept := replaced_iff valid.holding_sound addressWrite.toNat _ fits
          have later := valid.set_registers (valid.holding_sound.store_length _ fits)
          rw [wordsAt_length] at kept
          rw [if_neg (not_not.mpr ⟨read, written⟩), valid.holding_sound.write_eq _ fits,
            Option.bind_eq_bind, Option.bind_some, later.holding_sound.read_eq read]
          refine (set_registers_iff _).trans (kept.trans ⟨fun same _ _ _ => same, fun same => ?_⟩)
          exact same (by omega) read written
        · rw [if_pos covers]
          exact ⟨fun _ _ read written => absurd ⟨read, written⟩ covers, fun _ => rfl⟩
  | other function data => exact iff_of_true rfl trivial

end

/-! ## Replies with length -1 -/

structure Iteration.Quiet (iteration : Iteration (Line Log)) (mb : ModbusMapping) (log : Log) :
    Prop where
  ends : ∃ goesOn, iteration.goesOn = .ok goesOn
  mapping : iteration.mapping = mb
  silent : iteration.conn.line.peer = log

theorem copyRequest_corrupted (query : Buffer) :
    copyRequest query (prepareResponseTid .rtu query (-1)).2 = .error .undefined := rfl

theorem sent_nothing_iff (log : Log) (quiet : Bool) (frame : List Byte) :
    log ++ (if quiet then [] else [frame]) = log ↔ quiet = true := by
  cases quiet <;> simp

theorem sent_quiet_iff (c : Conn (Line Log)) (query : Buffer) (answer : Answer)
    (mapping mb : ModbusMapping) :
    (afterReply query ((sendAnswer logDevice c query answer).1, mapping,
      (sendAnswer logDevice c query answer).2)).Quiet mb c.line.peer ↔
      suppressed c.ctx query = true ∧ mapping = mb := by
  have ok := sendAnswer_log_rc c query answer
  have sent := sendAnswer_log c query answer
  have silent := sent_nothing_iff c.line.peer (suppressed c.ctx query)
    (sendMsgPre c.ctx.backend answer.rsp)
  rw [← sent] at silent
  rw [ok]
  exact ⟨fun quiet => ⟨silent.mp quiet.silent, quiet.mapping⟩,
    fun spared => ⟨⟨true, rfl⟩, spared.2, silent.mpr spared.1⟩⟩

theorem reply_quiet_iff (c : Conn (Line Log)) (query : Buffer) (mb : ModbusMapping)
    (valid : mb.WellFormed) (rtu : c.ctx.backend = .rtu) :
    (afterReply query (modbusReply logDevice c query (-1) mb)).Quiet mb c.line.peer ↔
      Request.decode (pduAt .rtu query) = .readExceptionStatus ∨
        suppressed c.ctx query = true ∧ (Request.decode (pduAt .rtu query)).Harmless mb := by
  have switched := replySwitch_serve c.ctx query (-1) mb
  rw [rtu, copyRequest_corrupted] at switched
  rw [modbusReply, switched, ← Request.spares_iff c.ctx.version valid]
  generalize Request.decode (pduAt .rtu query) = r
  cases served : r.serve c.ctx.version mb with
  | error e =>
      obtain ⟨unanswered, rfl⟩ := Request.serve_fails valid served
      exact iff_of_true ⟨⟨false, rfl⟩, rfl, rfl⟩ (.inl unanswered)
  | ok outcome =>
      have asked : r ≠ .readExceptionStatus := by
        rintro rfl
        cases served
      rw [or_iff_right asked]
      obtain ⟨response, toFlush, mapping⟩ := outcome
      cases response with
      | echo request =>
          refine iff_of_false ?_ fun spared => spared.2
          rintro ⟨⟨goesOn, ends⟩, -, -⟩
          cases ends
      | _ => exact sent_quiet_iff c query _ mapping mb

/-! ## The unit test server -/

def UnitTestIgnores (ctx : Ctx) (query : Buffer) (mb : ModbusMapping) : Prop :=
  let request := Request.decode (pduAt .rtu query)
  let address := be16 query 2
  let special := (query 1).toNat = fcReadHoldingRegisters ∧ be16 query 4 ≠ utRegistersNbSpecial
  request = .readExceptionStatus ∨ (special ∧ address = utRegistersAddressByteSleep5Ms) ∨
    (suppressed ctx query = true ∧ request.Harmless mb ∧
      ¬ (special ∧ (address = utRegistersAddressSpecial ∨
        address = utRegistersAddressInvalidTidOrSlave)))

theorem noisy {mb : ModbusMapping} {query : Buffer} {c : Conn (Line Log)} {frame : List Byte} :
    ¬ (⟨.ok true, query, mb, c.record frame⟩ : Iteration (Line Log)).Quiet mb c.line.peer := by
  rintro ⟨-, -, silent⟩
  simp [Conn.record] at silent

theorem unitTestRespond_quiet_iff (c : Conn (Line Log)) (query : Buffer) (mb : ModbusMapping)
    (valid : mb.WellFormed) (rtu : c.ctx.backend = .rtu) :
    (unitTestRespond logDevice c query (-1) mb).Quiet mb c.line.peer ↔
      UnitTestIgnores c.ctx query mb := by
  have header : c.ctx.backend.headerLength = 1 := by rw [rtu]; rfl
  unfold unitTestRespond UnitTestIgnores
  simp only [header]
  by_cases read : (query 1).toNat = fcReadHoldingRegisters
  · have decoded : Request.decode (pduAt .rtu query) = _ := Request.decode_readHoldingRegisters read
    rw [if_pos read]
    by_cases incorrect : be16 query 4 = utRegistersNbSpecial
    · have quiet : suppressed c.ctx (setInt16ToInt8 query 4 (utRegistersNbSpecial - 1)) =
          suppressed c.ctx query := by
        rw [suppressed, suppressed, header]
        rfl
      have decoded' : Request.decode (pduAt .rtu
          (setInt16ToInt8 query 4 (utRegistersNbSpecial - 1))) = _ :=
        Request.decode_readHoldingRegisters read
      rw [if_pos incorrect, reply_quiet_iff c _ mb valid rtu, quiet, decoded, decoded']
      simp [Request.Harmless, incorrect]
    · rw [if_neg incorrect, decoded]
      by_cases special : be16 query 2 = utRegistersAddressSpecial
      · obtain ⟨frame, sent⟩ : ∃ frame,
            (modbusReplyException logDevice c query exceptionSlaveOrServerBusy).2 = c.record frame := by
          rw [modbusReplyException, if_pos (by decide), sendMsg_log]
          exact ⟨_, rfl⟩
        rw [if_pos special, sent]
        refine iff_of_false noisy ?_
        rintro (other | ⟨-, bytewise⟩ | ⟨-, -, ordinary⟩)
        · cases other
        · exact absurd (special.symm.trans bytewise) (by decide)
        · exact ordinary ⟨⟨read, incorrect⟩, .inl special⟩
      · rw [if_neg special]
        by_cases invalid : be16 query 2 = utRegistersAddressInvalidTidOrSlave
        · have sent : ∀ slave, ∃ frame, (modbusSendRawRequest logDevice c
              [slave, 0x03, 0x02, 0x00, 0x00]).2 = c.record frame := by
            intro slave
            rw [modbusSendRawRequest, modbusSendRawRequestTid, if_neg (by simp [maxPduLength]),
              sendMsg_log]
            exact ⟨_, rfl⟩
          obtain ⟨frame, sent⟩ := sent (if c.ctx.backend = .rtu then invalidServerId else 0xFF)
          rw [if_pos invalid, sent]
          refine iff_of_false noisy ?_
          rintro (other | ⟨-, bytewise⟩ | ⟨-, -, ordinary⟩)
          · cases other
          · exact absurd (invalid.symm.trans bytewise) (by decide)
          · exact ordinary ⟨⟨read, incorrect⟩, .inr invalid⟩
        · rw [if_neg invalid]
          by_cases bytewise : be16 query 2 = utRegistersAddressByteSleep5Ms
          · rw [if_pos bytewise]
            refine iff_of_true ?_ (.inr (.inl ⟨⟨read, incorrect⟩, bytewise⟩))
            split
            · exact ⟨⟨true, rfl⟩, rfl, rfl⟩
            · rw [sendBytesLoop, rtu]
              exact ⟨⟨true, rfl⟩, rfl, rfl⟩
          · rw [if_neg bytewise, reply_quiet_iff c query mb valid rtu, decoded]
            simp [Request.Harmless, special, invalid, bytewise]
  · rw [if_neg read, reply_quiet_iff c query mb valid rtu]
    simp only [read, false_and, not_false_eq_true, and_true, false_or]

/-! ## The loops -/

section
variable {c : Conn (Line Log)} (buffer : Buffer) {frame : List Byte} {rest : List (Signal Byte)}
  (connected : c.ctx.isConnected) (rtu : c.ctx.backend = .rtu)
  (listening : c.ctx.confirmationToIgnore = false)
  (whole : Delimits .rtu .indication (ofBytes frame) frame.length)
  (addressed : ((frame.getD 0 0).toNat : Int) = c.ctx.slave ∨ (frame.getD 0 0).toNat = broadcastAddress)
  (corrupted : crcMatches frame = false)
  (next : c.line.incoming.signals = frame.map .item ++ rest)
include connected rtu listening whole addressed corrupted next

theorem modbusReceive_corrupted : ∃ c', c'.ctx = c.ctx ∧ c'.line.peer = c.line.peer ∧
    modbusReceive logDevice c buffer = (.error (.errno .embbadcrc), overlay buffer frame, c') := by
  obtain ⟨incoming, -, run⟩ := modbusReceiveMsg_frame logReact .indication frame rest c connected
    (by rw [rtu]; exact whole) next
  have rejected : checkIntegrity logDevice (c.withIncoming incoming) frame =
      (.error (.errno .embbadcrc), if c.ctx.protocolRecovery then
        (modbusRtuFlush logDevice (c.withIncoming incoming)).2 else c.withIncoming incoming) := by
    have own : ¬ (((frame.getD 0 0).toNat : Int) ≠ c.ctx.slave ∧
        (frame.getD 0 0).toNat ≠ broadcastAddress) := by tauto
    simp only [checkIntegrity, withIncoming_ctx, rtu, modbusRtuCheckIntegrity, corrupted]
    rw [if_neg own]
    rfl
  rw [rejected] at run
  refine ⟨if c.ctx.protocolRecovery then (modbusRtuFlush logDevice (c.withIncoming incoming)).2
    else c.withIncoming incoming, ?_, ?_, ?_⟩
  · split <;> rfl
  · split <;> rfl
  · simp only [modbusReceive, rtu, modbusRtuReceive, listening, run, Bool.false_eq_true, if_false]

theorem receiveNonzero_corrupted (rounds : Nat) : ∃ c', c'.ctx = c.ctx ∧
    c'.line.peer = c.line.peer ∧ receiveNonzero logDevice (rounds + 1) c buffer =
      (.error (.errno .embbadcrc), overlay buffer frame, c') := by
  obtain ⟨c', ctx, peer, received⟩ := modbusReceive_corrupted buffer connected rtu
    listening whole addressed corrupted next
  exact ⟨c', ctx, peer, by rw [receiveNonzero, received]⟩

/-- On a serial line the simulators end before their loops, whatever is on the line. A request with a
wrong checksum changes nothing in the unit test server and is not answered exactly when its loop
ignores it. -/
theorem corrupted_ignored_iff (rounds : Nat) :
    (∀ (dev dev' : Device (Line Log)) (memory sockets : Nat → Bool) (version : VersionString)
        (uninit : Buffer) (contents : Nat → Buffer) (sim : Simulator) (device : CString)
        (requests requests' : Nat) (answers : List (SimulatorMain.Answers (Line Log)))
        (m : SimulatorMain.Machine),
      SimulatorMain.run dev memory sockets version uninit contents sim .rtu device (rounds + 1) requests
          answers m =
        SimulatorMain.run dev' memory sockets version uninit contents sim .rtu device (rounds + 1)
          requests' answers m) ∧
      ∀ mb : ModbusMapping, mb.WellFormed →
        ((unitTestIterate logDevice (rounds + 1) c buffer mb).Quiet mb c.line.peer ↔
          UnitTestIgnores c.ctx (overlay buffer frame) mb) := by
  constructor
  · intro dev dev' memory sockets version uninit contents sim device requests requests' answers m
    exact SimulatorMain.run_unserved dev dev' (rounds + 1) requests requests' answers m
  · obtain ⟨c', ctx, peer, received⟩ := receiveNonzero_corrupted buffer connected rtu
      listening whole addressed corrupted next rounds
    have rtu' : c'.ctx.backend = .rtu := by rw [ctx, rtu]
    intro mb valid
    rw [unitTestIterate, received, ← ctx, ← peer]
    exact unitTestRespond_quiet_iff c' (overlay buffer frame) mb valid rtu'

end

def corruptedRead : List Byte := [0x00, 0x03, 0x01, 0x60, 0, 1, 0, 0]

theorem corrupted_ignored_iff_read :
    let c := (Conn.established (newRtu serverId) []).hear [.items 0x00 [0x03, 0x01, 0x60, 0, 1, 0, 0]]
    ∀ mb : ModbusMapping, mb.WellFormed →
      (unitTestIterate logDevice 1 c (fun _ => 0) mb).Quiet mb [] := by
  intro c mb valid
  have whole : Delimits .rtu .indication (ofBytes corruptedRead) corruptedRead.length :=
    ⟨rfl, by decide⟩
  have next : c.line.incoming.signals = corruptedRead.map .item ++ [] := rfl
  refine ((corrupted_ignored_iff (fun _ => 0) rfl rfl rfl whole (.inr rfl) (by decide +kernel) next 0).2
    mb valid).2 ?_
  exact .inr (.inr ⟨by decide +kernel, trivial, by decide +kernel⟩)

theorem corrupted_write_done :
    let frame : List Byte := [0x11, 0x10, 0x01, 0x60, 0, 1, 2, 0x12, 0x34, 0, 0]
    let c := (Conn.established (newRtu serverId) []).hear
      [.items 0x11 [0x10, 0x01, 0x60, 0, 1, 2, 0x12, 0x34, 0, 0]]
    c.line.incoming.signals = frame.map .item ∧ crcMatches frame = false ∧
      (modbusReceive logDevice c fun _ => 0).1 = .error (.errno .embbadcrc) ∧
      unitTestMapping.map (fun mb =>
        let after := unitTestIterate logDevice 1 c (fun _ => 0) mb
        (mb.tabRegisters.take 2, after.mapping.tabRegisters.take 2, after.conn.line.peer)) =
      .ok ([0, 0], [0x1234, 0], [[0x11, 0x10, 0x01, 0x60, 0, 1, 0x02, 0xBB]]) := by
  refine ⟨rfl, ?_, ?_, ?_⟩ <;> decide +kernel

end ModbusNet
