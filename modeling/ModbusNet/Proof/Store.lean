import ModbusNet.Proof.Answers

namespace ModbusNet

namespace Request

def WritesCoil : Request → Int → Prop
  | .writeSingleCoil address _, a => a = address.toNat
  | .writeMultipleCoils address nb _, a => address.toNat ≤ a ∧ a < address.toNat + nb.toNat
  | _, _ => False

def WritesRegister : Request → Int → Prop
  | .writeSingleRegister address _, a | .maskWriteRegister address _ _, a => a = address.toNat
  | .writeMultipleRegisters address nb _, a => address.toNat ≤ a ∧ a < address.toNat + nb.toNat
  | .writeAndReadRegisters _ _ addressWrite nbWrite _, a =>
      addressWrite.toNat ≤ a ∧ a < addressWrite.toNat + nbWrite.toNat
  | _, _ => False

end Request

def writeFunctions : List Nat := [fcWriteSingleCoil, fcWriteSingleRegister, fcWriteMultipleCoils,
  fcWriteMultipleRegisters, fcMaskWriteRegister, fcWriteAndReadRegisters]

theorem Request.writes_function {r : Request} (reads : r.function ∉ writeFunctions) (a : Int) :
    ¬ r.WritesCoil a ∧ ¬ r.WritesRegister a := by
  cases r with
  | writeSingleCoil => exact absurd (by simp [function, writeFunctions]) reads
  | writeSingleRegister => exact absurd (by simp [function, writeFunctions]) reads
  | writeMultipleCoils => exact absurd (by simp [function, writeFunctions]) reads
  | writeMultipleRegisters => exact absurd (by simp [function, writeFunctions]) reads
  | maskWriteRegister => exact absurd (by simp [function, writeFunctions]) reads
  | writeAndReadRegisters => exact absurd (by simp [function, writeFunctions]) reads
  | _ => exact ⟨id, id⟩

namespace ModbusMapping

def CoilsBinary (mb : ModbusMapping) : Prop := ∀ v ∈ mb.tabBits, v = 0 ∨ v = 1

def SameInputs (mb mb' : ModbusMapping) : Prop :=
  mb' = { mb with tabBits := mb'.tabBits, tabRegisters := mb'.tabRegisters }

theorem SameInputs.refl (mb : ModbusMapping) : mb.SameInputs mb := rfl

theorem SameInputs.trans {mb mb' mb'' : ModbusMapping} (first : mb.SameInputs mb')
    (second : mb'.SameInputs mb'') : mb.SameInputs mb'' := by
  unfold SameInputs at first second ⊢
  rw [second, first]

end ModbusMapping

structure Request.Confined (r : Request) (mb mb' : ModbusMapping) : Prop where
  inputs : mb.SameInputs mb'
  coils : ∀ i : Nat, ¬ r.WritesCoil (mb.startBits + i) → mb'.tabBits[i]? = mb.tabBits[i]?
  registers : ∀ i : Nat, ¬ r.WritesRegister (mb.startRegisters + i) →
    mb'.tabRegisters[i]? = mb.tabRegisters[i]?

namespace Request.Confined
variable {r : Request} {mb mb' : ModbusMapping}

theorem refl : r.Confined mb mb := ⟨rfl, fun _ _ => rfl, fun _ _ => rfl⟩

theorem writeCoils {address : Nat} {values tabBits : List Byte}
    (written : mb.coils.write address values = some tabBits)
    (covers : mb.coils.Covers address values.length)
    (names : ∀ a : Int, address ≤ a ∧ a < address + values.length → r.WritesCoil a) :
    r.Confined mb { mb with tabBits } where
  inputs := rfl
  coils := fun i outside => Table.write_getElem? written (by have := covers.1; omega)
    fun inside => outside (names _ inside)
  registers := fun _ _ => rfl

theorem writeRegisters {address : Nat} {values tabRegisters : List Word}
    (written : mb.holdingRegisters.write address values = some tabRegisters)
    (covers : mb.holdingRegisters.Covers address values.length)
    (names : ∀ a : Int, address ≤ a ∧ a < address + values.length → r.WritesRegister a) :
    r.Confined mb { mb with tabRegisters } where
  inputs := rfl
  coils := fun _ _ => rfl
  registers := fun i outside => Table.write_getElem? written (by have := covers.1; omega)
    fun inside => outside (names _ inside)

theorem eq_of_reads (confined : r.Confined mb mb') (reads : r.function ∉ writeFunctions) :
    mb' = mb := by
  have coils : mb'.tabBits = mb.tabBits :=
    List.ext_getElem? fun i => confined.coils i (Request.writes_function reads _).1
  have registers : mb'.tabRegisters = mb.tabRegisters :=
    List.ext_getElem? fun i => confined.registers i (Request.writes_function reads _).2
  have same := confined.inputs
  rw [ModbusMapping.SameInputs, coils, registers] at same
  exact same

end Request.Confined

namespace Request

theorem serve_confined (version : VersionString) (mb : ModbusMapping) (r : Request) :
    Holds (fun outcome => r.Confined mb outcome.mapping) (r.serve version mb) := by
  have refused : ∀ {code : Nat} {toFlush : Bool}, Holds (fun outcome => r.Confined mb outcome.mapping)
      (.ok ⟨.exception r.function code, toFlush, mb⟩) := holds_ok .refl
  cases r with
  | readBits isInput address nb =>
      exact holds_ite (fun _ => refused) fun _ => holds_ite (fun _ => refused) fun _ =>
        holds_access fun _ _ => .refl
  | readRegisters isInput address nb =>
      exact holds_ite (fun _ => refused) fun _ => holds_ite (fun _ => refused) fun _ =>
        holds_access fun _ _ => .refl
  | writeSingleCoil address data =>
      refine holds_ite (fun _ => refused) fun covers => holds_ite (fun _ => holds_access ?_)
        fun _ => refused
      intro tabBits written
      refine .writeCoils written (not_not.mp covers) fun a inside => ?_
      simp only [List.length_singleton] at inside
      simp only [WritesCoil]
      omega
  | writeSingleRegister address data =>
      refine holds_ite (fun _ => refused) fun covers => holds_access ?_
      intro tabRegisters written
      refine .writeRegisters written (not_not.mp covers) fun a inside => ?_
      simp only [List.length_singleton] at inside
      simp only [WritesRegister]
      omega
  | writeMultipleCoils address nb data =>
      refine holds_ite (fun _ => refused) fun _ => holds_ite (fun _ => refused) fun covers =>
        holds_access ?_
      intro tabBits written
      have length := bitCells_length (ofBytes data) nb.toNat
      refine .writeCoils written (by rw [length]; exact not_not.mp covers) fun a inside => ?_
      rwa [length] at inside
  | writeMultipleRegisters address nb data =>
      refine holds_ite (fun _ => refused) fun _ => holds_ite (fun _ => refused) fun covers =>
        holds_access ?_
      intro tabRegisters written
      have length := wordsAt_length (ofBytes data) 0 nb.toNat
      refine .writeRegisters written (by rw [length]; exact not_not.mp covers) fun a inside => ?_
      rwa [length] at inside
  | readExceptionStatus => rintro _ ⟨⟩
  | reportSlaveId => exact holds_ok .refl
  | maskWriteRegister address andMask orMask =>
      refine holds_ite (fun _ => refused) fun covers => holds_access ?_
      intro tabRegisters masked
      obtain ⟨cells, found, written⟩ := Option.bind_eq_some_iff.mp masked
      have length : (cells.map (maskedWord · andMask orMask)).length = 1 := by
        rw [List.length_map, Table.read_length found]
      refine .writeRegisters written (by rw [length]; exact not_not.mp covers) fun a inside => ?_
      rw [length] at inside
      simp only [WritesRegister]
      omega
  | writeAndReadRegisters address nb addressWrite nbWrite data =>
      refine holds_ite (fun _ => refused) fun _ => holds_ite (fun _ => refused) fun covers =>
        holds_access ?_
      rintro ⟨tabRegisters, cells⟩ found
      obtain ⟨tabRegisters', written, rest⟩ := Option.bind_eq_some_iff.mp found
      obtain ⟨values, -, same⟩ := Option.bind_eq_some_iff.mp rest
      obtain ⟨rfl, rfl⟩ := Prod.mk.inj (Option.some.inj same)
      have length := wordsAt_length (ofBytes data) 0 nbWrite.toNat
      refine .writeRegisters written (by rw [length]; exact (not_not.mp covers).2) fun a inside => ?_
      rwa [length] at inside
  | other function data => exact refused

theorem serve_refused (version : VersionString) (mb : ModbusMapping) (r : Request) :
    Holds (fun outcome => ∀ function code, outcome.response = .exception function code →
      outcome.mapping = mb) (r.serve version mb) := by
  have refused : ∀ {code : Nat} {toFlush : Bool}, Holds (fun outcome => ∀ function code,
      outcome.response = .exception function code → outcome.mapping = mb)
      (.ok ⟨.exception r.function code, toFlush, mb⟩) := holds_ok fun _ _ _ => rfl
  have normal : ∀ {outcome : Outcome}, (∀ function code, outcome.response ≠ .exception function code) →
      ∀ function code, outcome.response = .exception function code → outcome.mapping = mb :=
    fun different function code same => absurd same (different function code)
  cases r with
  | readExceptionStatus => rintro _ ⟨⟩
  | reportSlaveId => exact holds_ok (normal fun _ _ same => by cases same)
  | other => exact refused
  | writeSingleCoil =>
      exact holds_ite (fun _ => refused) fun _ => holds_ite
        (fun _ => holds_access fun _ _ => normal fun _ _ same => by cases same) fun _ => refused
  | writeSingleRegister =>
      exact holds_ite (fun _ => refused) fun _ =>
        holds_access fun _ _ => normal fun _ _ same => by cases same
  | maskWriteRegister =>
      exact holds_ite (fun _ => refused) fun _ =>
        holds_access fun _ _ => normal fun _ _ same => by cases same
  | _ =>
      exact holds_ite (fun _ => refused) fun _ => holds_ite (fun _ => refused) fun _ =>
        holds_access fun _ _ => normal fun _ _ same => by cases same

theorem serve_coils (version : VersionString) {mb : ModbusMapping} (coils : mb.CoilsBinary)
    (r : Request) : Holds (fun outcome => outcome.mapping.CoilsBinary) (r.serve version mb) := by
  have same : ∀ {response : Response} {toFlush : Bool},
      Holds (fun outcome => outcome.mapping.CoilsBinary) (.ok ⟨response, toFlush, mb⟩) :=
    holds_ok coils
  have stored : ∀ {address : Nat} {values tabBits : List Byte}, (∀ v ∈ values, v = 0 ∨ v = 1) →
      mb.coils.write address values = some tabBits → ∀ v ∈ tabBits, v = 0 ∨ v = 1 := by
    intro address values tabBits bits written v member
    obtain ⟨-, rfl⟩ := Table.write_store written
    exact (mem_store member).elim (coils v) (bits v)
  cases r with
  | writeSingleCoil address data =>
      refine holds_ite (fun _ => same) fun _ => holds_ite (fun _ => holds_access ?_) fun _ => same
      intro tabBits written
      refine stored (fun v member => ?_) written
      rw [List.mem_singleton.mp member]
      exact bit_binary _
  | writeMultipleCoils address nb data =>
      refine holds_ite (fun _ => same) fun _ => holds_ite (fun _ => same) fun _ => holds_access ?_
      intro tabBits written
      refine stored (fun v member => ?_) written
      obtain ⟨k, -, rfl⟩ := List.mem_map.mp member
      exact bit_binary _
  | writeSingleRegister => exact holds_ite (fun _ => same) fun _ => holds_access fun _ _ => coils
  | maskWriteRegister => exact holds_ite (fun _ => same) fun _ => holds_access fun _ _ => coils
  | readExceptionStatus => rintro _ ⟨⟩
  | reportSlaveId => exact same
  | other => exact same
  | _ =>
      exact holds_ite (fun _ => same) fun _ => holds_ite (fun _ => same) fun _ =>
        holds_access fun _ _ => coils

end Request

structure Turn where
  conn : Conn (Line Log)
  req : Buffer
  length : Int
  returned : Returned conn.ctx req length

namespace Turn

def function (t : Turn) : Nat := (t.req t.conn.ctx.backend.headerLength).toNat

def request (t : Turn) : Request := .decode (pduAt t.conn.ctx.backend t.req)

def reply (t : Turn) (mb : ModbusMapping) : Except Failure Int × ModbusMapping × Conn (Line Log) :=
  modbusReply logDevice t.conn t.req t.length mb

def mapping (t : Turn) (mb : ModbusMapping) : ModbusMapping := (t.reply mb).2.1

def Refused (t : Turn) (mb : ModbusMapping) : Prop :=
  ∃ frame ∈ t.conn.sent (t.reply mb).2.2, ExceptionReply t.conn.ctx.backend t.req frame

theorem mapping_served (t : Turn) {mb : ModbusMapping} {P : ModbusMapping → Prop}
    (served : Request.Holds (fun outcome => P outcome.mapping) (t.request.serve t.conn.ctx.version mb))
    (same : P mb) : P (t.mapping mb) := by
  have received := t.returned.received
  cases result : t.request.serve t.conn.ctx.version mb with
  | error e =>
      rw [mapping, reply, modbusReply_failed t.conn t.req received result]
      exact same
  | ok outcome =>
      rw [mapping, reply, (modbusReply_served t.conn t.req received result).2.1]
      exact served outcome result

end Turn

def answerAll (turns : List Turn) (mb : ModbusMapping) : ModbusMapping :=
  turns.foldl (fun mb t => t.mapping mb) mb

theorem exceptionReply_exception {b : Backend} {req : Buffer} {response : Response}
    (answer : (Request.decode (pduAt b req)).Answer response)
    (marked : ExceptionReply b req (answerFrame b req response)) :
    ∃ function code, response = .exception function code := by
  have function := Request.decode_function (pduAt b req)
  have head : ofBytes response.encode 0 = loByte ((req b.headerLength).toNat + 0x80) :=
    (answerFrame_function b req response).symm.trans marked
  have unmarked : ofBytes response.encode 0 ≠ loByte (Request.decode (pduAt b req)).function := by
    rw [head, function]
    intro same
    have bytes := congrArg BitVec.toNat same
    have byte : (pduAt b req 0).toNat = (req b.headerLength).toNat := rfl
    simp only [loByte, BitVec.toNat_ofInt, byte] at bytes
    omega
  cases response with
  | exception function code => exact ⟨function, code, rfl⟩
  | values function data =>
      obtain ⟨rfl, -⟩ := answer
      exact absurd rfl unmarked
  | echo request =>
      obtain ⟨rfl, -⟩ := answer
      exact absurd rfl unmarked
  | written function address nb =>
      obtain ⟨rfl, -⟩ := answer
      exact absurd rfl unmarked
  | exceptionStatus status =>
      rw [Request.Answer.eq_def] at answer
      rw [answer] at unmarked
      exact absurd rfl unmarked

namespace Turn
variable (t : Turn) (mb : ModbusMapping)

theorem mapping_confined : t.request.Confined mb (t.mapping mb) :=
  t.mapping_served (P := fun mb' => t.request.Confined mb mb') (Request.serve_confined _ _ _) .refl

theorem mapping_coils (coils : mb.CoilsBinary) : (t.mapping mb).CoilsBinary :=
  t.mapping_served (Request.serve_coils _ coils _) coils

theorem mapping_reads (reads : t.function ∉ writeFunctions) : t.mapping mb = mb := by
  refine (t.mapping_confined mb).eq_of_reads ?_
  rw [request, Request.decode_function]
  exact reads

theorem mapping_refused (refused : t.Refused mb) : t.mapping mb = mb := by
  obtain ⟨frame, member, marked⟩ := refused
  have received := t.returned.received
  obtain ⟨outcome, served, rfl⟩ := modbusReply_sent_mem t.conn t.req received member
  have answer := Request.serve_answer _ _ _ outcome served
  obtain ⟨function, code, exception⟩ := exceptionReply_exception answer marked
  rw [mapping, reply, (modbusReply_served t.conn t.req received served).2.1]
  exact Request.serve_refused _ _ _ outcome served function code exception

end Turn

/-- Over every run the start and size fields and the input tables stay, and coils stay 0 or 1; a read
or a refused request changes nothing, and a write nothing outside the cells that it names. -/
theorem store_run (turns : List Turn) (mb : ModbusMapping) (coils : mb.CoilsBinary) :
    mb.SameInputs (answerAll turns mb) ∧ (answerAll turns mb).CoilsBinary ∧
      ∀ t : Turn,
        (t.function ∉ writeFunctions ∨ t.Refused (answerAll turns mb) →
          t.mapping (answerAll turns mb) = answerAll turns mb) ∧
        t.request.Confined (answerAll turns mb) (t.mapping (answerAll turns mb)) := by
  have run : ∀ (turns : List Turn) (mb : ModbusMapping), mb.CoilsBinary →
      mb.SameInputs (answerAll turns mb) ∧ (answerAll turns mb).CoilsBinary := by
    intro turns
    induction turns with
    | nil => exact fun mb coils => ⟨.refl mb, coils⟩
    | cons t turns ih =>
        intro mb coils
        obtain ⟨inputs, coils'⟩ := ih (t.mapping mb) (t.mapping_coils mb coils)
        exact ⟨(t.mapping_confined mb).inputs.trans inputs, coils'⟩
  obtain ⟨inputs, coils'⟩ := run turns mb coils
  refine ⟨inputs, coils', fun t => ⟨?_, t.mapping_confined _⟩⟩
  rintro (reads | refused)
  · exact t.mapping_reads _ reads
  · exact t.mapping_refused _ refused

theorem modbusMappingNewStartAddress_coils (startBits nbBits startInputBits nbInputBits startRegisters
    nbRegisters startInputRegisters nbInputRegisters : BitVec 32) :
    (modbusMappingNewStartAddress startBits nbBits startInputBits nbInputBits startRegisters nbRegisters
      startInputRegisters nbInputRegisters).CoilsBinary :=
  fun _ member => .inl (List.eq_of_mem_replicate member)

def setCoil : Turn where
  conn := (heard newTcp [0, 1, 0, 0, 0, 6, 0xFF, 0x05, 0, 21, 0xFF, 0]).2.2
  req := (heard newTcp [0, 1, 0, 0, 0, 6, 0xFF, 0x05, 0, 21, 0xFF, 0]).2.1
  length := 12
  returned := heard_returned (by decide) (by decide +kernel)

def sixteenCoils : ModbusMapping := modbusMappingNewStartAddress 16 16 0 8 0 4 0 4

theorem store_run_setCoil : sixteenCoils.SameInputs (answerAll [setCoil] sixteenCoils) ∧
    (answerAll [setCoil] sixteenCoils).CoilsBinary ∧
    setCoil.request.Confined (answerAll [setCoil] sixteenCoils)
      (setCoil.mapping (answerAll [setCoil] sixteenCoils)) := by
  obtain ⟨inputs, coils, turn⟩ := store_run [setCoil] sixteenCoils
    (modbusMappingNewStartAddress_coils 16 16 0 8 0 4 0 4)
  exact ⟨inputs, coils, (turn setCoil).2⟩

end ModbusNet
