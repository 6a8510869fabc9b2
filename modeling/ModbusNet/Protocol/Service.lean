import ModbusNet.Library.Slices
import ModbusNet.Library.Bits
import ModbusNet.Protocol.Pdu

/-!
# The service

What a server is for: four tables, and what each request reads from them and writes to them. An
access to cells that a table does not have is undefined; it does not occur when the declared sizes
are right (`serve_defined`).
-/

namespace ModbusNet

namespace ModbusMapping

def coils (mb : ModbusMapping) : Table Byte := ⟨mb.startBits, mb.nbBits, mb.tabBits⟩

def discreteInputs (mb : ModbusMapping) : Table Byte :=
  ⟨mb.startInputBits, mb.nbInputBits, mb.tabInputBits⟩

def holdingRegisters (mb : ModbusMapping) : Table Word :=
  ⟨mb.startRegisters, mb.nbRegisters, mb.tabRegisters⟩

def inputRegisters (mb : ModbusMapping) : Table Word :=
  ⟨mb.startInputRegisters, mb.nbInputRegisters, mb.tabInputRegisters⟩

def bits (mb : ModbusMapping) (isInput : Bool) : Table Byte :=
  if isInput then mb.discreteInputs else mb.coils

def registers (mb : ModbusMapping) (isInput : Bool) : Table Word :=
  if isInput then mb.inputRegisters else mb.holdingRegisters

theorem WellFormed.bits_sound {mb : ModbusMapping} (valid : mb.WellFormed) (isInput : Bool) :
    (mb.bits isInput).Sound := by
  cases isInput
  · exact valid.nbBits
  · exact valid.nbInputBits

theorem WellFormed.coils_sound {mb : ModbusMapping} (valid : mb.WellFormed) : mb.coils.Sound :=
  valid.nbBits

theorem WellFormed.registers_sound {mb : ModbusMapping} (valid : mb.WellFormed) (isInput : Bool) :
    (mb.registers isInput).Sound := by
  cases isInput
  · exact valid.nbRegisters
  · exact valid.nbInputRegisters

theorem WellFormed.holding_sound {mb : ModbusMapping} (valid : mb.WellFormed) :
    mb.holdingRegisters.Sound := valid.nbRegisters

theorem WellFormed.set_coils {mb : ModbusMapping} (valid : mb.WellFormed) {cells : List Byte}
    (length : cells.length = mb.tabBits.length) :
    ({ mb with tabBits := cells } : ModbusMapping).WellFormed where
  startBits := valid.startBits
  startInputBits := valid.startInputBits
  startRegisters := valid.startRegisters
  startInputRegisters := valid.startInputRegisters
  nbBits := by rw [valid.nbBits, length]
  nbInputBits := valid.nbInputBits
  nbRegisters := valid.nbRegisters
  nbInputRegisters := valid.nbInputRegisters

theorem WellFormed.set_registers {mb : ModbusMapping} (valid : mb.WellFormed) {cells : List Word}
    (length : cells.length = mb.tabRegisters.length) :
    ({ mb with tabRegisters := cells } : ModbusMapping).WellFormed where
  startBits := valid.startBits
  startInputBits := valid.startInputBits
  startRegisters := valid.startRegisters
  startInputRegisters := valid.startInputRegisters
  nbBits := valid.nbBits
  nbInputBits := valid.nbInputBits
  nbRegisters := by rw [valid.nbRegisters, length]
  nbInputRegisters := valid.nbInputRegisters

end ModbusMapping

structure Outcome where
  response : Response
  toFlush : Bool
  mapping : ModbusMapping

def access {α : Type} (cells : Option α) (done : α → Outcome) : Except Failure Outcome :=
  match cells with
  | some cells => .ok (done cells)
  | none => .error .undefined

def bitCells (data : Buffer) (nb : Nat) : List Byte :=
  (List.range nb).map fun k => if bitAt data k then 1 else 0

@[simp] theorem bitCells_length (data : Buffer) (nb : Nat) : (bitCells data nb).length = nb := by
  simp [bitCells]

theorem bit_binary (p : Prop) [Decidable p] :
    (if p then 1 else 0 : Byte) = 0 ∨ (if p then 1 else 0 : Byte) = 1 := by
  split
  · exact .inr rfl
  · exact .inl rfl

theorem AgreeBelow.bitCells_eq {m : Nat} {b b' : Buffer} (agree : AgreeBelow m b b') {nb : Nat}
    (bound : nb ≤ 8 * m) : bitCells b nb = bitCells b' nb := by
  apply List.map_congr_left
  intro k member
  have := List.mem_range.mp member
  rw [agree.bitAt_eq (by omega)]

def statusData (cells : List Byte) : List Byte := packValues (cells.map BitVec.toNat)

def maskedWord (data andMask orMask : Word) : Word := (data &&& andMask) ||| (orMask &&& ~~~andMask)

namespace Request

def Copied (mb : ModbusMapping) : Request → Prop
  | .writeSingleCoil address data =>
      mb.coils.Covers address.toNat 1 ∧ (data.toNat = 0xFF00 ∨ data.toNat = 0)
  | .writeSingleRegister address _ | .maskWriteRegister address _ _ =>
      mb.holdingRegisters.Covers address.toNat 1
  | _ => False

def serve (version : VersionString) (mb : ModbusMapping) (r : Request) : Except Failure Outcome :=
  let refuse (code : Nat) (toFlush : Bool) : Except Failure Outcome :=
    .ok ⟨.exception r.function code, toFlush, mb⟩
  match r with
  | .readBits isInput address nb =>
      if nb.toNat < 1 ∨ maxReadBits < nb.toNat then refuse exceptionIllegalDataValue true
      else if ¬ (mb.bits isInput).Covers address.toNat nb.toNat then
        refuse exceptionIllegalDataAddress false
      else
        access ((mb.bits isInput).read address.toNat nb.toNat) fun cells =>
          ⟨.values r.function (statusData cells), false, mb⟩
  | .readRegisters isInput address nb =>
      if nb.toNat < 1 ∨ maxReadRegisters < nb.toNat then refuse exceptionIllegalDataValue true
      else if ¬ (mb.registers isInput).Covers address.toNat nb.toNat then
        refuse exceptionIllegalDataAddress false
      else
        access ((mb.registers isInput).read address.toNat nb.toNat) fun cells =>
          ⟨.values r.function (cells.flatMap wordBytes), false, mb⟩
  | .writeSingleCoil address data =>
      if ¬ mb.coils.Covers address.toNat 1 then refuse exceptionIllegalDataAddress false
      else if data.toNat = 0xFF00 ∨ data.toNat = 0 then
        access (mb.coils.write address.toNat [if data.toNat ≠ 0 then 1 else 0]) fun tabBits =>
          ⟨.echo r, false, { mb with tabBits }⟩
      else refuse exceptionIllegalDataValue false
  | .writeSingleRegister address data =>
      if ¬ mb.holdingRegisters.Covers address.toNat 1 then refuse exceptionIllegalDataAddress false
      else
        access (mb.holdingRegisters.write address.toNat [data]) fun tabRegisters =>
          ⟨.echo r, false, { mb with tabRegisters }⟩
  | .writeMultipleCoils address nb data =>
      if nb.toNat < 1 ∨ maxWriteBits < nb.toNat ∨ data.length * 8 < nb.toNat then
        refuse exceptionIllegalDataValue true
      else if ¬ mb.coils.Covers address.toNat nb.toNat then refuse exceptionIllegalDataAddress false
      else
        access (mb.coils.write address.toNat (bitCells (ofBytes data) nb.toNat)) fun tabBits =>
          ⟨.written r.function address nb, false, { mb with tabBits }⟩
  | .writeMultipleRegisters address nb data =>
      if nb.toNat < 1 ∨ maxWriteRegisters < nb.toNat ∨ data.length ≠ nb.toNat * 2 then
        refuse exceptionIllegalDataValue true
      else if ¬ mb.holdingRegisters.Covers address.toNat nb.toNat then
        refuse exceptionIllegalDataAddress false
      else
        access (mb.holdingRegisters.write address.toNat (wordsAt (ofBytes data) 0 nb.toNat))
          fun tabRegisters => ⟨.written r.function address nb, false, { mb with tabRegisters }⟩
  | .readExceptionStatus => .error (.errno .enoprotoopt)
  | .reportSlaveId =>
      .ok ⟨.values r.function ([loByte ModbusNet.reportSlaveId, 0xFF, 0x4C, 0x4D, 0x42] ++ version.val),
        false, mb⟩
  | .maskWriteRegister address andMask orMask =>
      if ¬ mb.holdingRegisters.Covers address.toNat 1 then refuse exceptionIllegalDataAddress false
      else
        access (do
          let cells ← mb.holdingRegisters.read address.toNat 1
          mb.holdingRegisters.write address.toNat (cells.map (maskedWord · andMask orMask)))
          fun tabRegisters => ⟨.echo r, false, { mb with tabRegisters }⟩
  | .writeAndReadRegisters address nb addressWrite nbWrite data =>
      if nbWrite.toNat < 1 ∨ maxWrWriteRegisters < nbWrite.toNat ∨ nb.toNat < 1 ∨
          maxWrReadRegisters < nb.toNat ∨ data.length ≠ nbWrite.toNat * 2 then
        refuse exceptionIllegalDataValue true
      else if ¬ (mb.holdingRegisters.Covers address.toNat nb.toNat ∧
          mb.holdingRegisters.Covers addressWrite.toNat nbWrite.toNat) then
        refuse exceptionIllegalDataAddress false
      else
        access (do
          let tabRegisters ← mb.holdingRegisters.write addressWrite.toNat
            (wordsAt (ofBytes data) 0 nbWrite.toNat)
          let cells ← ({ mb with tabRegisters } : ModbusMapping).holdingRegisters.read address.toNat
            nb.toNat
          return (tabRegisters, cells))
          fun (tabRegisters, cells) =>
            ⟨.values r.function (cells.flatMap wordBytes), false, { mb with tabRegisters }⟩
  | .other _ _ => refuse exceptionIllegalFunction true

def Defined : Except Failure Outcome → Prop
  | .ok outcome => outcome.mapping.WellFormed
  | .error e => e ≠ .undefined

theorem defined_ite {p : Prop} [Decidable p] {x y : Except Failure Outcome} (first : p → Defined x)
    (second : ¬ p → Defined y) : Defined (if p then x else y) := by
  split
  · exact first ‹_›
  · exact second ‹_›

/-- With well-formed tables every request is served, and the tables stay well-formed. -/
theorem serve_defined (version : VersionString) (mb : ModbusMapping) (valid : mb.WellFormed)
    (r : Request) : Defined (r.serve version mb) := by
  cases r with
  | readBits isInput address nb =>
      refine defined_ite (fun _ => valid) fun _ => defined_ite (fun _ => valid) fun covers => ?_
      rw [(valid.bits_sound isInput).read_eq (not_not.mp covers)]
      exact valid
  | readRegisters isInput address nb =>
      refine defined_ite (fun _ => valid) fun _ => defined_ite (fun _ => valid) fun covers => ?_
      rw [(valid.registers_sound isInput).read_eq (not_not.mp covers)]
      exact valid
  | writeSingleCoil address data =>
      refine defined_ite (fun _ => valid) fun covers => defined_ite (fun _ => ?_) fun _ => valid
      rw [valid.coils_sound.write_eq [_] (not_not.mp covers)]
      exact valid.set_coils (valid.coils_sound.store_length [_] (not_not.mp covers))
  | writeSingleRegister address data =>
      refine defined_ite (fun _ => valid) fun covers => ?_
      rw [valid.holding_sound.write_eq [data] (not_not.mp covers)]
      exact valid.set_registers (valid.holding_sound.store_length [data] (not_not.mp covers))
  | writeMultipleCoils address nb data =>
      refine defined_ite (fun _ => valid) fun _ => defined_ite (fun _ => valid) fun refused => ?_
      have covers : mb.coils.Covers address.toNat (bitCells (ofBytes data) nb.toNat).length := by
        rw [bitCells_length]
        exact not_not.mp refused
      rw [valid.coils_sound.write_eq _ covers]
      exact valid.set_coils (valid.coils_sound.store_length _ covers)
  | writeMultipleRegisters address nb data =>
      refine defined_ite (fun _ => valid) fun _ => defined_ite (fun _ => valid) fun refused => ?_
      have covers : mb.holdingRegisters.Covers address.toNat
          (wordsAt (ofBytes data) 0 nb.toNat).length := by
        rw [wordsAt_length]
        exact not_not.mp refused
      rw [valid.holding_sound.write_eq _ covers]
      exact valid.set_registers (valid.holding_sound.store_length _ covers)
  | readExceptionStatus => exact Failure.noConfusion
  | reportSlaveId => exact valid
  | maskWriteRegister address andMask orMask =>
      refine defined_ite (fun _ => valid) fun refused => ?_
      have covers := not_not.mp refused
      have length : (slice mb.holdingRegisters.cells (mb.holdingRegisters.index address.toNat) 1).length
          = 1 := slice_length _ _ _ (covers.inside valid.holding_sound)
      have same : mb.holdingRegisters.Covers address.toNat ((slice mb.holdingRegisters.cells
          (mb.holdingRegisters.index address.toNat) 1).map (maskedWord · andMask orMask)).length := by
        rw [List.length_map, length]
        exact covers
      rw [valid.holding_sound.read_eq covers]
      simp only [Option.bind_eq_bind, Option.bind_some]
      rw [valid.holding_sound.write_eq _ same]
      exact valid.set_registers (valid.holding_sound.store_length _ same)
  | writeAndReadRegisters address nb addressWrite nbWrite data =>
      refine defined_ite (fun _ => valid) fun _ => defined_ite (fun _ => valid) fun refused => ?_
      obtain ⟨read, written⟩ := not_not.mp refused
      have covers : mb.holdingRegisters.Covers addressWrite.toNat
          (wordsAt (ofBytes data) 0 nbWrite.toNat).length := by
        rw [wordsAt_length]
        exact written
      have valid' := valid.set_registers (valid.holding_sound.store_length _ covers)
      rw [valid.holding_sound.write_eq _ covers]
      simp only [Option.bind_eq_bind, Option.bind_some]
      rw [valid'.holding_sound.read_eq read]
      exact valid'
  | other function data => exact valid

def Holds (P : Outcome → Prop) (result : Except Failure Outcome) : Prop :=
  ∀ outcome, result = .ok outcome → P outcome

theorem holds_ok {P : Outcome → Prop} {outcome : Outcome} (h : P outcome) :
    Holds P (.ok outcome) := by
  rintro _ ⟨⟩
  exact h

theorem holds_ite {P : Outcome → Prop} {p : Prop} [Decidable p] {x y : Except Failure Outcome}
    (first : p → Holds P x) (second : ¬ p → Holds P y) : Holds P (if p then x else y) := by
  split
  · exact first ‹_›
  · exact second ‹_›

theorem holds_access {α : Type} {P : Outcome → Prop} {cells : Option α} {done : α → Outcome}
    (h : ∀ a, cells = some a → P (done a)) : Holds P (access cells done) := by
  cases cells with
  | none => rintro _ ⟨⟩
  | some a => exact holds_ok (h a rfl)

theorem serve_fails {version : VersionString} {mb : ModbusMapping} (valid : mb.WellFormed)
    {r : Request} {e : Failure} (failed : r.serve version mb = .error e) :
    r = .readExceptionStatus ∧ e = .errno .enoprotoopt := by
  have defined := r.serve_defined version mb valid
  rw [failed] at defined
  have accessed : ∀ {α : Type} {cells : Option α} {done : α → Outcome},
      access cells done = .error e → False := by
    intro α cells done failed
    cases cells with
    | none => exact defined (Except.error.inj failed).symm
    | some _ => cases failed
  cases r with
  | readExceptionStatus => exact ⟨rfl, (Except.error.inj failed).symm⟩
  | reportSlaveId => cases failed
  | other => cases failed
  | _ =>
      exfalso
      simp only [serve] at failed
      repeat' split at failed
      all_goals first | cases failed | exact accessed failed

theorem serve_answer (version : VersionString) (mb : ModbusMapping) (r : Request) :
    Holds (fun outcome => r.Answer outcome.response) (r.serve version mb) := by
  cases r with
  | readBits isInput address nb =>
      refine holds_ite (fun _ => holds_ok rfl) fun limit => holds_ite (fun _ => holds_ok rfl)
        fun _ => holds_access fun cells found => ⟨rfl, ?_, trivial⟩
      rw [statusData, packValues_length, List.length_map, Table.read_length found, byteCount_eq]
      simp only [maxReadBits, not_or, not_lt] at limit
      simp only [maxPduLength]
      omega
  | readRegisters isInput address nb =>
      refine holds_ite (fun _ => holds_ok rfl) fun limit => holds_ite (fun _ => holds_ok rfl)
        fun _ => holds_access fun cells found => ⟨rfl, ?_, trivial⟩
      rw [wordBytes_flatMap_length, Table.read_length found]
      simp only [maxReadRegisters, not_or, not_lt] at limit
      simp only [maxPduLength]
      omega
  | writeSingleCoil address data =>
      exact holds_ite (fun _ => holds_ok rfl) fun _ => holds_ite
        (fun _ => holds_access fun _ _ => ⟨rfl, trivial⟩) fun _ => holds_ok rfl
  | writeSingleRegister address data =>
      exact holds_ite (fun _ => holds_ok rfl) fun _ => holds_access fun _ _ => ⟨rfl, trivial⟩
  | writeMultipleCoils address nb data =>
      exact holds_ite (fun _ => holds_ok rfl) fun _ => holds_ite (fun _ => holds_ok rfl)
        fun _ => holds_access fun _ _ => ⟨rfl, rfl, rfl⟩
  | writeMultipleRegisters address nb data =>
      exact holds_ite (fun _ => holds_ok rfl) fun _ => holds_ite (fun _ => holds_ok rfl)
        fun _ => holds_access fun _ _ => ⟨rfl, rfl, rfl⟩
  | readExceptionStatus => rintro _ ⟨⟩
  | reportSlaveId =>
      refine holds_ok ⟨rfl, ?_, trivial⟩
      have := version.property
      simp only [List.length_append, List.length_cons, List.length_nil, maxPduLength]
      omega
  | maskWriteRegister address andMask orMask =>
      exact holds_ite (fun _ => holds_ok rfl) fun _ => holds_access fun _ _ => ⟨rfl, trivial⟩
  | writeAndReadRegisters address nb addressWrite nbWrite data =>
      refine holds_ite (fun _ => holds_ok rfl) fun limit => holds_ite (fun _ => holds_ok rfl)
        fun _ => holds_access fun cells found => ⟨rfl, ?_, trivial⟩
      obtain ⟨tabRegisters, -, rest⟩ := Option.bind_eq_some_iff.mp found
      obtain ⟨values, read, same⟩ := Option.bind_eq_some_iff.mp rest
      obtain rfl : (tabRegisters, values) = cells := Option.some.inj same
      change (values.flatMap wordBytes).length ≤ _
      rw [wordBytes_flatMap_length, Table.read_length read]
      simp only [maxWrReadRegisters, not_or, not_lt] at limit
      simp only [maxPduLength]
      omega
  | other function data => exact holds_ok rfl

theorem serve_echo_iff (version : VersionString) (mb : ModbusMapping) (r : Request) :
    Holds (fun outcome => (∃ request, outcome.response = .echo request) ↔ r.Copied mb)
      (r.serve version mb) := by
  have refused : ∀ {code : Nat} {toFlush : Bool}, ¬ r.Copied mb →
      Holds (fun outcome => (∃ request, outcome.response = .echo request) ↔ r.Copied mb)
        (.ok ⟨.exception r.function code, toFlush, mb⟩) := by
    intro code toFlush other
    refine holds_ok (iff_of_false ?_ other)
    rintro ⟨request, ⟨⟩⟩
  cases r with
  | readBits isInput address nb =>
      refine holds_ite (fun _ => refused id) fun _ => holds_ite (fun _ => refused id) fun _ =>
        holds_access fun _ _ => iff_of_false ?_ id
      rintro ⟨request, ⟨⟩⟩
  | readRegisters isInput address nb =>
      refine holds_ite (fun _ => refused id) fun _ => holds_ite (fun _ => refused id) fun _ =>
        holds_access fun _ _ => iff_of_false ?_ id
      rintro ⟨request, ⟨⟩⟩
  | writeSingleCoil address data =>
      exact holds_ite (fun outside => refused fun copied => outside copied.1) fun covers =>
        holds_ite (fun value => holds_access fun _ _ =>
          iff_of_true ⟨_, rfl⟩ ⟨not_not.mp covers, value⟩) fun value => refused fun copied =>
            value copied.2
  | writeSingleRegister address data =>
      exact holds_ite refused fun covers => holds_access fun _ _ =>
        iff_of_true ⟨_, rfl⟩ (not_not.mp covers)
  | writeMultipleCoils address nb data =>
      refine holds_ite (fun _ => refused id) fun _ => holds_ite (fun _ => refused id) fun _ =>
        holds_access fun _ _ => iff_of_false ?_ id
      rintro ⟨request, ⟨⟩⟩
  | writeMultipleRegisters address nb data =>
      refine holds_ite (fun _ => refused id) fun _ => holds_ite (fun _ => refused id) fun _ =>
        holds_access fun _ _ => iff_of_false ?_ id
      rintro ⟨request, ⟨⟩⟩
  | readExceptionStatus => rintro _ ⟨⟩
  | reportSlaveId =>
      refine holds_ok (iff_of_false ?_ id)
      rintro ⟨request, ⟨⟩⟩
  | maskWriteRegister address andMask orMask =>
      exact holds_ite refused fun covers => holds_access fun _ _ =>
        iff_of_true ⟨_, rfl⟩ (not_not.mp covers)
  | writeAndReadRegisters address nb addressWrite nbWrite data =>
      refine holds_ite (fun _ => refused id) fun _ => holds_ite (fun _ => refused id) fun _ =>
        holds_access fun _ _ => iff_of_false ?_ id
      rintro ⟨request, ⟨⟩⟩
  | other function data => exact refused id

end Request

end ModbusNet
