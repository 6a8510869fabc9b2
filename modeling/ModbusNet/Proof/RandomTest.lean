import ModbusNet.Model.RandomTest
import ModbusNet.Proof.EndToEnd

namespace ModbusNet

structure Offers (c : Conn (Line Server)) (mb : ModbusMapping) : Prop where
  linked : Linked c
  mapping : c.line.peer.mapping = mb
  valid : mb.WellFormed
  binary : mb.Binary

def ModbusMapping.setCoils (mb : ModbusMapping) (address : Nat) (values : List Byte) : ModbusMapping :=
  { mb with tabBits := mb.coils.replaced address values }

def ModbusMapping.setRegisters (mb : ModbusMapping) (address : Nat) (values : List Word) :
    ModbusMapping :=
  { mb with tabRegisters := mb.holdingRegisters.replaced address values }

section
variable {toServer toClient : Carrier} (outward : Lossless toServer) (homeward : Lossless toClient)
include outward homeward

theorem ClientOp.run_offers (op : ClientOp) (inRange : op.InRange) {c : Conn (Line Server)}
    {mb mb' : ModbusMapping} (offers : Offers c mb) {rc : Except Failure Int} {dest : Dest}
    (effect : ∀ version, op.effect version mb = ⟨rc, dest, mb'⟩) :
    ∃ c', op.run (lineDevice (serverReact toServer toClient)) c = (rc, dest, c') ∧ Offers c' mb' := by
  obtain ⟨linked, rfl, valid, binary⟩ := offers
  obtain ⟨c', run, -, linked', mapped, -⟩ := op.run_serves outward homeward inRange c linked valid
    fun _ => binary
  rw [effect] at run mapped
  have valid' := op.effect_wellFormed c.line.peer.conn.ctx.version inRange valid fun _ => binary
  have binary' := op.effect_binary c.line.peer.conn.ctx.version binary
  rw [effect] at valid' binary'
  exact ⟨c', run, linked', mapped, valid', binary'⟩

end

theorem compareLoop_equal {α : Type} [DecidableEq α] {rp rq : Nat → α} (left i nbFail : Nat)
    (equal : ∀ k, i ≤ k → k < i + left → rp k = rq k) :
    compareLoop rp rq left i nbFail = nbFail := by
  induction left generalizing i with
  | zero => rfl
  | succ left ih =>
      have first : rp i = rq i := equal i (le_refl i) (by omega)
      rw [compareLoop, if_neg (not_not.mpr first)]
      apply ih
      intro k low high
      exact equal k (by omega) (by omega)

theorem compareLoop_overlay {α : Type} [DecidableEq α] (dest src : Nat → α) (n nbFail : Nat) :
    compareLoop (overlay dest (cellsOf src n)) src n 0 nbFail = nbFail := by
  apply compareLoop_equal
  intro k _ high
  rw [cellsOf, overlay_map_range]
  simp only
  rw [if_pos (by omega)]

theorem cellsAt_replaced {α : Type} (t : Table α) (sound : t.Sound) (address : Nat) (values : List α)
    (covers : t.Covers address values.length) :
    Table.cellsAt ⟨t.start, t.size, t.replaced address values⟩ address values.length = values :=
  slice_store t.cells (t.index address) values (covers.inside sound)

theorem setCoils_cellsAt {mb : ModbusMapping} (valid : mb.WellFormed) (address : Nat) (values : List Byte)
    {n : Nat} (length : values.length = n) (covers : mb.coils.Covers address n) :
    (mb.setCoils address values).coils.cellsAt address n = values := by
  subst length
  exact cellsAt_replaced mb.coils valid.coils_sound address values covers

theorem setRegisters_cellsAt {mb : ModbusMapping} (valid : mb.WellFormed) (address : Nat)
    (values : List Word) {n : Nat} (length : values.length = n)
    (covers : mb.holdingRegisters.Covers address n) :
    (mb.setRegisters address values).holdingRegisters.cellsAt address n = values := by
  subst length
  exact cellsAt_replaced mb.holdingRegisters valid.holding_sound address values covers

structure Passing (t : RandomTest (Line Server)) (mb : ModbusMapping) : Prop where
  offers : Offers t.conn mb
  coils : mb.coils.Covers addressStart.toNat (addressEnd - addressStart).toNat
  registers : mb.holdingRegisters.Covers addressStart.toNat (addressEnd - addressStart).toNat
  bits : ∀ i, t.rqBits i = 0 ∨ t.rqBits i = 1
  passed : t.nbFail = 0

structure InTestRange (addr nb : Int) : Prop where
  low : addressStart ≤ addr
  some : 1 ≤ nb
  high : addr + nb = addressEnd

section
variable {addr nb : Int} (within : InTestRange addr nb)
include within

theorem InTestRange.address : AddressInRange addr := by
  obtain ⟨low, some, high⟩ := within
  simp only [addressStart, addressEnd] at low high
  constructor <;> omega

theorem InTestRange.count {limit : Nat} (large : 99 ≤ limit) : CountInRange nb limit := by
  obtain ⟨low, some, high⟩ := within
  simp only [addressStart, addressEnd] at low high
  constructor <;> omega

theorem InTestRange.toNat_le : (nb.toNat : Int) ≤ nb := by
  have := within.some
  omega

theorem InTestRange.covers {α : Type} {t : Table α}
    (all : t.Covers addressStart.toNat (addressEnd - addressStart).toNat) {n : Nat} (part : n ≤ nb) :
    t.Covers addr.toNat n := by
  obtain ⟨low, some, high⟩ := within
  obtain ⟨above, below⟩ := all
  simp only [addressStart, addressEnd] at low high above below
  constructor <;> omega

end

theorem oneBit (v : Byte) (bit : v = 0 ∨ v = 1) : (if (v.toNat : Int) ≠ 0 then 1 else 0 : Byte) = v := by
  rcases bit with rfl | rfl <;> rfl

theorem cellsOf_bits {src : Buffer} (bits : ∀ i, src i = 0 ∨ src i = 1) (n : Nat) :
    cellsOf (if src · ≠ 0 then 1 else 0 : Nat → Byte) n = cellsOf src n := by
  apply List.map_congr_left
  intro k _
  rcases bits k with zero | one
  · rw [zero]
    rfl
  · rw [one]
    rfl

section
variable {toServer toClient : Carrier} (outward : Lossless toServer) (homeward : Lossless toClient)
  {t : RandomTest (Line Server)} {mb : ModbusMapping} (passing : Passing t mb) {addr : Int}
  (within : InTestRange addr t.nb)
include outward homeward passing within

theorem testBit_passes :
    let t' := testBit (lineDevice (serverReact toServer toClient)) addr t
    (∃ mb', Passing t' mb') ∧ t'.nb = t.nb := by
  set dev := lineDevice (serverReact toServer toClient)
  have covers : mb.coils.Covers addr.toNat 1 := within.covers passing.coils within.some
  set mb' := mb.setCoils addr.toNat [if ((t.rqBits 0).toNat : Int) ≠ 0 then 1 else 0]
  obtain ⟨c₁, written, offers₁⟩ := ClientOp.run_offers outward homeward
    (.writeBit addr (t.rqBits 0).toNat) within.address passing.offers
    (show ∀ _, _ = (⟨.ok 1, .none, mb'⟩ : Effect) from fun _ => if_pos covers)
  obtain ⟨c₂, read, offers₂⟩ := ClientOp.run_offers outward homeward (.readBits addr 1 t.rpBits)
    ⟨within.address, le_refl 1, by decide⟩ offers₁ fun _ => if_pos covers
  have writeBit : modbusWriteBit dev t.conn addr (t.rqBits 0).toNat = (.ok 1, c₁) := by
    simpa [ClientOp.run, Prod.ext_iff] using written
  have stored : mb'.coils.cellsAt addr.toNat (1 : Int).toNat = [t.rqBits 0] := by
    rw [← oneBit (t.rqBits 0) (passing.bits 0)]
    exact setCoils_cellsAt passing.offers.valid _ _ rfl covers
  have readBits : modbusReadBits dev c₁ addr 1 t.rpBits =
      (.ok 1, overlay t.rpBits [t.rqBits 0], c₂) := by
    rw [← stored]
    simpa [ClientOp.run, Prod.ext_iff] using read
  have run : testBit dev addr t =
      { t with conn := c₂, rpBits := overlay t.rpBits [t.rqBits 0] } := by
    simp [testBit, writeBit, readBits, overlay]
  rw [run]
  exact ⟨⟨mb', offers₂, passing.coils, passing.registers, passing.bits, passing.passed⟩, rfl⟩

theorem testBits_passes :
    let t' := testBits (lineDevice (serverReact toServer toClient)) addr t
    (∃ mb', Passing t' mb') ∧ t'.nb = t.nb := by
  set dev := lineDevice (serverReact toServer toClient)
  have covers : mb.coils.Covers addr.toNat t.nb.toNat := within.covers passing.coils within.toNat_le
  obtain ⟨c₁, written, offers₁⟩ := ClientOp.run_offers outward homeward
    (.writeBits addr t.nb t.rqBits) ⟨within.address, within.count (by decide)⟩ passing.offers
    fun _ => if_pos covers
  rw [cellsOf_bits passing.bits] at offers₁
  set mb' := mb.setCoils addr.toNat (cellsOf t.rqBits t.nb.toNat)
  have offers₁ : Offers c₁ mb' := offers₁
  obtain ⟨c₂, read, offers₂⟩ := ClientOp.run_offers outward homeward (.readBits addr t.nb t.rpBits)
    ⟨within.address, within.count (by decide)⟩ offers₁ fun _ => if_pos covers
  have writeBits : modbusWriteBits dev t.conn addr t.nb t.rqBits = (.ok t.nb, c₁) := by
    simpa [ClientOp.run, Prod.ext_iff] using written
  have stored : mb'.coils.cellsAt addr.toNat t.nb.toNat = cellsOf t.rqBits t.nb.toNat :=
    setCoils_cellsAt passing.offers.valid _ _ (cellsOf_length _ _) covers
  have readBits : modbusReadBits dev c₁ addr t.nb t.rpBits =
      (.ok t.nb, overlay t.rpBits (cellsOf t.rqBits t.nb.toNat), c₂) := by
    rw [← stored]
    simpa [ClientOp.run, Prod.ext_iff] using read
  have run : testBits dev addr t =
      { t with conn := c₂, rpBits := overlay t.rpBits (cellsOf t.rqBits t.nb.toNat) } := by
    simp only [testBits, writeBits, readBits, ne_eq, not_true_eq_false, if_false, compareLoop_overlay]
  rw [run]
  exact ⟨⟨mb', offers₂, passing.coils, passing.registers, passing.bits, passing.passed⟩, rfl⟩

theorem testRegister_passes :
    let t' := testRegister (lineDevice (serverReact toServer toClient)) addr t
    (∃ mb', Passing t' mb') ∧ t'.nb = t.nb := by
  set dev := lineDevice (serverReact toServer toClient)
  have covers : mb.holdingRegisters.Covers addr.toNat 1 :=
    within.covers passing.registers within.some
  set mb' := mb.setRegisters addr.toNat [t.rqRegisters 0]
  obtain ⟨c₁, written, offers₁⟩ := ClientOp.run_offers outward homeward
    (.writeRegister addr (t.rqRegisters 0)) within.address passing.offers
    (show ∀ _, _ = (⟨.ok 1, .none, mb'⟩ : Effect) from fun _ => if_pos covers)
  obtain ⟨c₂, read, offers₂⟩ := ClientOp.run_offers outward homeward
    (.readRegisters addr 1 t.rpRegisters) ⟨within.address, le_refl 1, by decide⟩ offers₁
    fun _ => if_pos covers
  have writeRegister : modbusWriteRegister dev t.conn addr (t.rqRegisters 0) = (.ok 1, c₁) := by
    simpa [ClientOp.run, Prod.ext_iff] using written
  have stored : mb'.holdingRegisters.cellsAt addr.toNat (1 : Int).toNat = [t.rqRegisters 0] :=
    setRegisters_cellsAt passing.offers.valid _ _ rfl covers
  have readRegisters : modbusReadRegisters dev c₁ addr 1 t.rpRegisters =
      (.ok 1, overlay t.rpRegisters [t.rqRegisters 0], c₂) := by
    rw [← stored]
    simpa [ClientOp.run, Prod.ext_iff] using read
  have run : testRegister dev addr t =
      { t with conn := c₂, rpRegisters := overlay t.rpRegisters [t.rqRegisters 0] } := by
    simp [testRegister, writeRegister, readRegisters, overlay]
  rw [run]
  exact ⟨⟨mb', offers₂, passing.coils, passing.registers, passing.bits, passing.passed⟩, rfl⟩

omit passing within in
theorem readBack_passes {c : Conn (Line Server)} (rp : Nat → Word) {mb' : ModbusMapping}
    (offers : Offers c mb') (passing : Passing t mb) (within : InTestRange addr t.nb)
    (alike : mb'.coils.Covers = mb.coils.Covers ∧
      mb'.holdingRegisters.Covers = mb.holdingRegisters.Covers)
    (rq : Nat → Word)
    (stored : mb'.holdingRegisters.cellsAt addr.toNat t.nb.toNat = cellsOf rq t.nb.toNat) :
    let t' := readBack (lineDevice (serverReact toServer toClient)) addr rq
      { t with conn := c, rpRegisters := rp }
    (∃ mb', Passing t' mb') ∧ t'.nb = t.nb := by
  set dev := lineDevice (serverReact toServer toClient)
  obtain ⟨coils, registers⟩ := alike
  have covers : mb'.holdingRegisters.Covers addr.toNat t.nb.toNat := by
    rw [registers]
    exact within.covers passing.registers within.toNat_le
  obtain ⟨c₁, read, offers₁⟩ := ClientOp.run_offers outward homeward (.readRegisters addr t.nb rp)
    ⟨within.address, within.count (by decide)⟩ offers fun _ => if_pos covers
  have readRegisters : modbusReadRegisters dev c addr t.nb rp =
      (.ok t.nb, overlay rp (cellsOf rq t.nb.toNat), c₁) := by
    rw [← stored]
    simpa [ClientOp.run, Prod.ext_iff] using read
  have run : readBack dev addr rq
      { t with conn := c, rpRegisters := rp } =
      { t with conn := c₁, rpRegisters := overlay rp (cellsOf rq t.nb.toNat) } := by
    simp only [readBack, readRegisters, ne_eq, not_true_eq_false, if_false, compareLoop_overlay]
  rw [run]
  refine ⟨⟨mb', offers₁, ?_, ?_, passing.bits, passing.passed⟩, rfl⟩
  · rw [coils]
    exact passing.coils
  · rw [registers]
    exact passing.registers

theorem testRegisters_passes :
    let t' := testRegisters (lineDevice (serverReact toServer toClient)) addr t
    (∃ mb', Passing t' mb') ∧ t'.nb = t.nb := by
  set dev := lineDevice (serverReact toServer toClient)
  have covers : mb.holdingRegisters.Covers addr.toNat t.nb.toNat :=
    within.covers passing.registers within.toNat_le
  obtain ⟨c₁, written, offers₁⟩ := ClientOp.run_offers outward homeward
    (.writeRegisters addr t.nb t.rqRegisters) ⟨within.address, within.count (by decide)⟩
    passing.offers fun _ => if_pos covers
  have writeRegisters : modbusWriteRegisters dev t.conn addr t.nb t.rqRegisters = (.ok t.nb, c₁) := by
    simpa [ClientOp.run, Prod.ext_iff] using written
  have stored := setRegisters_cellsAt passing.offers.valid addr.toNat (cellsOf t.rqRegisters t.nb.toNat)
    (cellsOf_length _ _) covers
  have read := readBack_passes outward homeward t.rpRegisters offers₁ passing within ⟨rfl, rfl⟩
    t.rqRegisters stored
  have run : testRegisters dev addr t =
      readBack dev addr t.rqRegisters { t with conn := c₁ } := by
    simp only [testRegisters, writeRegisters, ne_eq, not_true_eq_false, if_false]
  rw [run]
  exact read

theorem testReadWrite_passes :
    let t' := testReadWrite (lineDevice (serverReact toServer toClient)) addr t
    (∃ mb', Passing t' mb') ∧ t'.nb = t.nb := by
  set dev := lineDevice (serverReact toServer toClient)
  have covers : mb.holdingRegisters.Covers addr.toNat t.nb.toNat :=
    within.covers passing.registers within.toNat_le
  obtain ⟨c₁, written, offers₁⟩ := ClientOp.run_offers outward homeward
    (.writeAndReadRegisters addr t.nb t.rwRqRegisters addr t.nb t.rpRegisters)
    ⟨⟨within.address, within.count (by decide)⟩, within.address, within.count (by decide)⟩
    passing.offers fun _ => if_pos ⟨covers, covers⟩
  have stored := setRegisters_cellsAt passing.offers.valid addr.toNat
    (cellsOf t.rwRqRegisters t.nb.toNat) (cellsOf_length _ _) covers
  have writeAndRead : modbusWriteAndReadRegisters dev t.conn addr t.nb t.rwRqRegisters addr t.nb
      t.rpRegisters =
      (.ok t.nb, overlay t.rpRegisters (cellsOf t.rwRqRegisters t.nb.toNat), c₁) := by
    conv_rhs => rw [← stored]
    simpa [ClientOp.run, Prod.ext_iff, ModbusMapping.setRegisters] using written
  have read := readBack_passes outward homeward
    (overlay t.rpRegisters (cellsOf t.rwRqRegisters t.nb.toNat)) offers₁ passing within ⟨rfl, rfl⟩
    t.rwRqRegisters stored
  have run : testReadWrite dev addr t =
      readBack dev addr t.rwRqRegisters
        { t with conn := c₁, rpRegisters :=
            overlay t.rpRegisters (cellsOf t.rwRqRegisters t.nb.toNat) } := by
    simp only [testReadWrite, writeAndRead, ne_eq, not_true_eq_false, if_false, compareLoop_overlay]
  rw [run]
  exact read

end

theorem drawLoop_passes (random : Nat → Word) {mb : ModbusMapping} (left i : Nat)
    (t : RandomTest (Line Server)) (passing : Passing t mb) :
    Passing (drawLoop random left i t) mb := by
  induction left generalizing i t with
  | zero => exact passing
  | succ left ih =>
      rw [drawLoop]
      apply ih
      refine ⟨passing.offers, passing.coils, passing.registers, fun k => ?_, passing.passed⟩
      simp only
      by_cases here : k = i
      · subst here
        rw [Function.update_self]
        rcases Nat.mod_two_eq_zero_or_one (random t.drawn).toNat with even | odd
        · rw [even]
          exact .inl rfl
        · rw [odd]
          exact .inr rfl
      · rw [Function.update_of_ne here]
        exact passing.bits k

section
variable {toServer toClient : Carrier} (outward : Lossless toServer) (homeward : Lossless toClient)
  (random : Nat → Word)
include outward homeward

theorem testAddress_passes {t : RandomTest (Line Server)} {mb : ModbusMapping} (passing : Passing t mb)
    {addr : Int} (low : addressStart ≤ addr) (high : addr < addressEnd) :
    ∃ mb', Passing (testAddress (lineDevice (serverReact toServer toClient)) random addr t) mb' := by
  set t₀ := { drawLoop random t.nb.toNat 0 t with nb := addressEnd - addr } with t₀_def
  have drawn := drawLoop_passes random t.nb.toNat 0 t passing
  have passing₀ : Passing t₀ mb := ⟨drawn.offers, drawn.coils, drawn.registers, drawn.bits, drawn.passed⟩
  have rest : t₀.nb = addressEnd - addr := rfl
  have within : InTestRange addr t₀.nb := ⟨low, by omega, by omega⟩
  obtain ⟨⟨_, passing₁⟩, nb₁⟩ := testBit_passes outward homeward passing₀ within
  rw [← nb₁] at within
  obtain ⟨⟨_, passing₂⟩, nb₂⟩ := testBits_passes outward homeward passing₁ within
  rw [← nb₂] at within
  obtain ⟨⟨_, passing₃⟩, nb₃⟩ := testRegister_passes outward homeward passing₂ within
  rw [← nb₃] at within
  obtain ⟨⟨_, passing₄⟩, nb₄⟩ := testRegisters_passes outward homeward passing₃ within
  rw [← nb₄] at within
  exact (testReadWrite_passes outward homeward passing₄ within).1

theorem addressLoop_passes (left : Nat) (addr : Int) (t : RandomTest (Line Server))
    {mb : ModbusMapping} (passing : Passing t mb) (low : addressStart ≤ addr)
    (high : addr + left = addressEnd) :
    ∃ mb', Passing (addressLoop (lineDevice (serverReact toServer toClient)) random left addr t) mb' := by
  induction left generalizing addr t mb with
  | zero => exact ⟨mb, passing⟩
  | succ left ih =>
      obtain ⟨mb', passing'⟩ := testAddress_passes outward homeward random passing low (by omega)
      exact ih (addr + 1) _ passing' (by omega) (by omega)

theorem roundLoop_passes (rounds : Nat) (t : RandomTest (Line Server)) {mb : ModbusMapping}
    (passing : Passing t mb) :
    (roundLoop (lineDevice (serverReact toServer toClient)) random rounds t).1 =
      List.replicate rounds 0 := by
  induction rounds generalizing t mb with
  | zero => rfl
  | succ rounds ih =>
      obtain ⟨mb', passing'⟩ := addressLoop_passes outward homeward random
        (addressEnd - addressStart).toNat addressStart t passing (le_refl _) rfl
      rw [roundLoop, List.replicate_succ]
      exact congrArg₂ List.cons passing'.passed (ih _ passing')

/-- Every round finds no failure: whatever is drawn, and whatever the tables of the server hold at
first, if they have the addresses of the program. -/
theorem randomTest_passes (loop : Nat) (c : Conn (Line Server)) (linked : Linked c)
    (valid : c.line.peer.mapping.WellFormed) (binary : c.line.peer.mapping.Binary)
    (coils : c.line.peer.mapping.coils.Covers addressStart.toNat (addressEnd - addressStart).toNat)
    (registers : c.line.peer.mapping.holdingRegisters.Covers addressStart.toNat
      (addressEnd - addressStart).toNat) :
    (randomTest (lineDevice (serverReact toServer toClient)) random loop c).1 =
      List.replicate loop 0 :=
  roundLoop_passes outward homeward random loop _
    ⟨⟨linked, rfl, valid, binary⟩, coils, registers, fun _ => .inl rfl, rfl⟩

end

def randomTestLink : Conn (Line Server) :=
  .established newTcp
    { conn := .established newTcp []
      query := fun _ => 0
      mapping := modbusMappingNew 500 500 500 500
      turn := 0 }

theorem randomTest_passes_numbers :
    (randomTest (lineDevice (serverReact carryWhole carryWhole)) (fun i => BitVec.ofNat 16 (7 * i)) 1
      randomTestLink).1 = [0] := by
  apply randomTest_passes carryWhole_lossless carryWhole_lossless (fun i => BitVec.ofNat 16 (7 * i)) 1
    randomTestLink
  · exact ⟨rfl, rfl, ⟨rfl, rfl, rfl, rfl, fun rtu => absurd rtu (by decide)⟩,
      fun rtu => absurd rtu (by decide)⟩
  · exact modbusMappingNewStartAddress_wellFormed 0 500 0 500 0 500 0 500 (by simp [FitsInt])
  · intro v member
    rcases List.mem_append.mp member with coil | input
    · exact .inl (List.eq_of_mem_replicate coil)
    · exact .inl (List.eq_of_mem_replicate input)
  · decide
  · decide

end ModbusNet
