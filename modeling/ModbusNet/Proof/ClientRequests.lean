import ModbusNet.Proof.Connections
import ModbusNet.Protocol.Operations

namespace ModbusNet

/-! ## The loops -/

def bitsFrom (src : Buffer) (pos nb : Nat) : List Nat :=
  (List.range (nb - pos)).map fun k => (decide (src (pos + k) ≠ 0)).toNat

theorem bitsFrom_end (src : Buffer) (nb : Nat) : bitsFrom src nb nb = [] := by
  simp [bitsFrom]

theorem bitsFrom_cons (src : Buffer) (pos nb : Nat) (inside : pos < nb) :
    bitsFrom src pos nb = (decide (src pos ≠ 0)).toNat :: bitsFrom src (pos + 1) nb := by
  have length : nb - pos = (nb - (pos + 1)) + 1 := by omega
  simp only [bitsFrom, length, List.range_succ_eq_map, List.map_cons, List.map_map, Nat.add_zero,
    Function.comp_def, Nat.succ_eq_add_one, Nat.add_assoc, Nat.add_comm 1]

theorem byte_next_bit (acc shift : Nat) (b : Bool) (small : acc < 2 ^ shift) (inside : shift < 8) :
    (if b then BitVec.ofNat 8 acc ||| BitVec.ofNat 8 1 <<< shift
      else BitVec.ofNat 8 acc &&& ~~~(BitVec.ofNat 8 1 <<< shift)) =
      BitVec.ofNat 8 (acc ||| b.toNat <<< shift) := by
  apply BitVec.eq_of_getLsbD_eq
  intro i bound
  have top : acc.testBit shift = false := Nat.testBit_lt_two_pow small
  cases b with
  | true =>
      simp only [if_true, BitVec.getLsbD_or, BitVec.getLsbD_ofNat, BitVec.getLsbD_shiftLeft,
        Nat.testBit_or, Nat.testBit_shiftLeft, Bool.toNat_true, bound, decide_true, Bool.true_and]
      congr 1
      by_cases after : shift ≤ i
      · simp [after, Nat.not_lt.mpr after, show i - shift < 8 by omega]
      · simp [after]
  | false =>
      simp only [Bool.false_eq_true, if_false, BitVec.getLsbD_and, BitVec.getLsbD_not,
        BitVec.getLsbD_ofNat, BitVec.getLsbD_shiftLeft, Nat.testBit_or, Nat.testBit_shiftLeft,
        Bool.toNat_false, bound, decide_true, Bool.true_and]
      by_cases same : i = shift
      · subst same
        simp [top]
      · rcases Nat.lt_or_gt_of_ne same with before | after
        · simp [before]
        · have clear : acc.testBit i = false :=
            Nat.testBit_lt_two_pow (small.trans (Nat.pow_lt_pow_right (by omega) after))
          simp [clear]

theorem packByteLoop_eq (src : Buffer) (nb left shift acc pos : Nat) (room : shift + (left + 1) = 8)
    (small : acc < 2 ^ shift) (inside : pos < nb) :
    ∃ byte check, packByteLoop src nb (left + 1) (BitVec.ofNat 8 1 <<< shift) pos pos
        (BitVec.ofNat 8 acc) = (check, min (pos + (left + 1)) nb, byte) ∧
      (pos + (left + 1) ≤ nb → check = pos + (left + 1)) ∧
      packFrom shift acc (bitsFrom src pos nb) =
        byte :: packFrom 0 0 (bitsFrom src (min (pos + (left + 1)) nb) nb) := by
  induction left generalizing shift acc pos with
  | zero =>
      have last : shift = 7 := by omega
      refine ⟨BitVec.ofNat 8 (acc ||| (decide (src pos ≠ 0)).toNat <<< shift), pos + 1, ?_,
        fun _ => rfl, ?_⟩
      · rw [packByteLoop, if_pos (by omega), packByteLoop, Nat.min_eq_left (by omega),
          ← byte_next_bit acc shift _ small (by omega)]
        simp
      · rw [bitsFrom_cons src pos nb inside, packFrom, if_pos last, Nat.min_eq_left (by omega)]
  | succ left ih =>
      have small' := or_shift_lt acc shift (decide (src pos ≠ 0)) small
      have next : packByteLoop src nb (left + 1 + 1) (BitVec.ofNat 8 1 <<< shift) pos pos
          (BitVec.ofNat 8 acc) = packByteLoop src nb (left + 1) (BitVec.ofNat 8 1 <<< (shift + 1))
            (pos + 1) (pos + 1)
            (BitVec.ofNat 8 (acc ||| (decide (src pos ≠ 0)).toNat <<< shift)) := by
        rw [packByteLoop, if_pos (by omega), ← byte_next_bit acc shift _ small (by omega),
          BitVec.shiftLeft_add]
        simp
      have packed : packFrom shift acc (bitsFrom src pos nb) =
          packFrom (shift + 1) (acc ||| (decide (src pos ≠ 0)).toNat <<< shift)
            (bitsFrom src (pos + 1) nb) := by
        rw [bitsFrom_cons src pos nb inside, packFrom, if_neg (by omega)]
      rw [next, packed]
      by_cases more : pos + 1 < nb
      · obtain ⟨byte, check, run, full, bits⟩ := ih (shift + 1) _ (pos + 1) (by omega) small' more
        refine ⟨byte, check, ?_, fun fits => ?_, ?_⟩
        · rw [run]
          congr 3
          omega
        · rw [full (by omega)]
          omega
        · rw [bits]
          congr 4
          omega
      · have ends : nb = pos + 1 := by omega
        refine ⟨BitVec.ofNat 8 (acc ||| (decide (src pos ≠ 0)).toNat <<< shift), pos + 1 + 1, ?_,
          fun fits => by omega, ?_⟩
        · rw [packByteLoop, if_neg (by omega), Nat.min_eq_right (by omega), ends]
        · rw [Nat.min_eq_right (by omega), ends, bitsFrom_end, packFrom, if_neg (by omega), packFrom,
            if_pos rfl]

theorem packBytesLoop_eq (src : Buffer) (nb left pos : Nat) (req : List Byte)
    (count : left = byteCount (nb - pos)) (inside : pos ≤ nb) :
    packBytesLoop src nb left pos pos req = req ++ packFrom 0 0 (bitsFrom src pos nb) := by
  induction left generalizing pos req with
  | zero =>
      have ends : pos = nb := by
        rw [byteCount_eq] at count
        omega
      rw [ends, bitsFrom_end, packBytesLoop, packFrom, if_pos rfl, List.append_nil]
  | succ left ih =>
      have more : pos < nb := by
        rw [byteCount_eq] at count
        omega
      obtain ⟨byte, check, run, full, bits⟩ :=
        packByteLoop_eq src nb 7 0 0 pos (by omega) (by omega) more
      have first : packByteLoop src nb 8 1 pos pos 0 = (check, min (pos + 8) nb, byte) := run
      rw [packBytesLoop, first, bits]
      simp only
      rcases Nat.lt_or_ge nb (pos + 8) with ends | fits
      · have last : left = 0 := by
          rw [byteCount_eq] at count
          omega
        rw [last, packBytesLoop, Nat.min_eq_right (by omega), bitsFrom_end, packFrom, if_pos rfl]
      · rw [full fits, Nat.min_eq_left fits, ih (pos + 8) _ ?_ fits, List.append_assoc]
        · rfl
        · rw [byteCount_eq] at count ⊢
          omega

theorem bitsFrom_eq (src : Buffer) (nb : Nat) :
    bitsFrom src 0 nb = ((List.range nb).map fun k => decide (src k ≠ 0)).map Bool.toNat := by
  simp [bitsFrom, Function.comp_def]

theorem encodeRegistersLoop_eq (src : Nat → Word) (left i : Nat) (req : List Byte) :
    encodeRegistersLoop src left i req =
      req ++ (cellsOf (fun k => src (i + k)) left).flatMap wordBytes := by
  induction left generalizing i req with
  | zero => simp [encodeRegistersLoop, cellsOf]
  | succ left ih =>
      rw [encodeRegistersLoop, ih, List.append_assoc]
      congr 1
      simp only [cellsOf, List.range_succ_eq_map, List.map_cons, List.map_map, List.flatMap_cons,
        Function.comp_def, Nat.succ_eq_add_one, Nat.add_assoc, Nat.add_comm 1]
      rfl

theorem unpackByteLoop_eq (temp : Byte) (nb left shift pos : Nat) (dest : Buffer)
    (room : shift + left = 8) (inside : pos ≤ nb) :
    unpackByteLoop temp.toNat nb left (1 <<< shift) pos dest =
      (min (pos + left) nb, fun k => if pos ≤ k ∧ k < min (pos + left) nb then
        (if temp.getLsbD (k - pos + shift) then 1 else 0) else dest k) := by
  induction left generalizing shift pos dest with
  | zero =>
      rw [unpackByteLoop, Nat.min_eq_left (by omega)]
      congr 1
      funext k
      rw [if_neg (by omega)]
  | succ left ih =>
      rw [unpackByteLoop]
      by_cases more : pos < nb
      · rw [if_pos (by omega), ← Nat.shiftLeft_add, ih (shift + 1) (pos + 1) _ (by omega) more]
        have same : pos + 1 + left = pos + (left + 1) := by omega
        rw [same]
        congr 1
        funext k
        by_cases first : k = pos
        · subst first
          have before : ¬ (k + 1 ≤ k ∧ k < min (k + (left + 1)) nb) := by omega
          have covered : k ≤ k ∧ k < min (k + (left + 1)) nb := by omega
          simp only [if_neg before, if_pos covered, Function.update_self, Nat.sub_self,
            Nat.zero_add, byte_masked]
        · rw [Function.update_of_ne first]
          by_cases later : pos + 1 ≤ k ∧ k < min (pos + (left + 1)) nb
          · have covered : pos ≤ k ∧ k < min (pos + (left + 1)) nb := by omega
            have index : k - (pos + 1) + (shift + 1) = k - pos + shift := by omega
            simp only [if_pos later, if_pos covered, index]
          · have outside : ¬ (pos ≤ k ∧ k < min (pos + (left + 1)) nb) := by omega
            simp only [if_neg later, if_neg outside]
      · rw [if_neg (by omega), Nat.min_eq_right (by omega)]
        congr 1
        · omega
        · funext k
          rw [if_neg (by omega)]

theorem unpackLoop_eq (rsp : Buffer) (nb left i pos : Nat) (dest : Buffer) (inside : pos ≤ nb) :
    unpackLoop rsp nb left i pos dest = fun k =>
      if pos ≤ k ∧ k < min (pos + 8 * left) nb then
        (if bitAt (fun j => rsp (i + j)) (k - pos) then 1 else 0) else dest k := by
  induction left generalizing i pos dest with
  | zero =>
      rw [unpackLoop]
      funext k
      rw [if_neg (by omega)]
  | succ left ih =>
      have first := unpackByteLoop_eq (rsp i) nb 8 0 pos dest rfl inside
      rw [unpackLoop, show unpackByteLoop (rsp i).toNat nb 8 1 pos dest = _ from first]
      simp only
      rw [ih (i + 1) (min (pos + 8) nb) _ (by omega)]
      funext k
      by_cases later : min (pos + 8) nb ≤ k ∧ k < min (min (pos + 8) nb + 8 * left) nb
      · have full : min (pos + 8) nb = pos + 8 := by omega
        have covered : pos ≤ k ∧ k < min (pos + 8 * (left + 1)) nb := by omega
        have place : (k - pos) / 8 = (k - (pos + 8)) / 8 + 1 ∧
            (k - pos) % 8 = (k - (pos + 8)) % 8 := by omega
        have index : i + ((k - (pos + 8)) / 8 + 1) = i + 1 + (k - (pos + 8)) / 8 := by omega
        rw [full] at later ⊢
        simp only [if_pos later, if_pos covered, bitAt, place, index]
        rfl
      · by_cases now : pos ≤ k ∧ k < min (pos + 8) nb
        · have covered : pos ≤ k ∧ k < min (pos + 8 * (left + 1)) nb := by omega
          have place : (k - pos) / 8 = 0 ∧ (k - pos) % 8 = k - pos := by omega
          simp only [if_neg later, if_pos now, if_pos covered, bitAt, place, Nat.add_zero]
        · have outside : ¬ (pos ≤ k ∧ k < min (pos + 8 * (left + 1)) nb) := by omega
          simp only [if_neg later, if_neg now, if_neg outside]

theorem unpackLoop_overlay (rsp : Buffer) (nb i : Nat) (dest : Buffer) :
    unpackLoop rsp nb (byteCount nb) i 0 dest =
      overlay dest (bitCells (fun j => rsp (i + j)) nb) := by
  rw [unpackLoop_eq _ _ _ _ _ _ (Nat.zero_le _), bitCells, overlay_map_range, byteCount_eq]
  funext k
  congr 1
  rw [eq_iff_iff]
  omega

theorem decodeRegistersLoop_eq (rsp : Buffer) (offset left i : Nat) (dest : Nat → Word) :
    decodeRegistersLoop rsp offset left i dest = fun k =>
      if i ≤ k ∧ k < i + left then wordAt rsp (offset + 2 + 2 * k) else dest k := by
  induction left generalizing i dest with
  | zero =>
      rw [decodeRegistersLoop]
      funext k
      rw [if_neg (by omega)]
  | succ left ih =>
      rw [decodeRegistersLoop, ih]
      funext k
      by_cases first : k = i
      · subst first
        rw [if_neg (by omega), if_pos (by omega), Function.update_self, wordAt]
        congr 2
        omega
      · rw [Function.update_of_ne first]
        by_cases later : i + 1 ≤ k ∧ k < i + 1 + left
        · rw [if_pos later, if_pos (by omega)]
        · rw [if_neg later, if_neg (by omega)]

theorem decodeRegistersLoop_overlay (rsp : Buffer) (offset nb : Nat) (dest : Nat → Word) :
    decodeRegistersLoop rsp offset nb 0 dest = overlay dest (wordsAt rsp (offset + 2) nb) := by
  rw [decodeRegistersLoop_eq, wordsAt, overlay_map_range]
  funext k
  congr 1
  rw [eq_iff_iff]
  omega

/-! ## Requests -/

namespace ClientOp

def refusal : ClientOp → Option Errno
  | .readBits _ nb _ | .readInputBits _ nb _ => if maxReadBits < nb then some .embmdata else none
  | .readRegisters _ nb _ | .readInputRegisters _ nb _ =>
      if maxReadRegisters < nb then some .embmdata else none
  | .writeBits _ nb _ => if maxWriteBits < nb then some .embmdata else none
  | .writeRegisters _ nb _ => if maxWriteRegisters < nb then some .embmdata else none
  | .writeAndReadRegisters _ writeNb _ _ readNb _ =>
      if maxWrWriteRegisters < writeNb ∨ maxWrReadRegisters < readNb then some .embmdata else none
  | .reportSlaveId maxDest _ => if maxDest ≤ 0 then some .einval else none
  | _ => none

theorem not_of_ite_none {p : Prop} [Decidable p] {e : Errno}
    (accepted : (if p then some e else none) = none) : ¬ p := by
  intro refused
  rw [if_pos refused] at accepted
  cases accepted

def writeBitsByteCount (nb : Int) : Int := nb.tdiv 8 + if nb.tmod 8 ≠ 0 then 1 else 0

def pdu : ClientOp → List Byte
  | .readBits addr nb _ => loByte fcReadCoils ::
      (wordBytes (BitVec.ofInt 16 addr) ++ wordBytes (BitVec.ofInt 16 nb))
  | .readInputBits addr nb _ => loByte fcReadDiscreteInputs ::
      (wordBytes (BitVec.ofInt 16 addr) ++ wordBytes (BitVec.ofInt 16 nb))
  | .readRegisters addr nb _ => loByte fcReadHoldingRegisters ::
      (wordBytes (BitVec.ofInt 16 addr) ++ wordBytes (BitVec.ofInt 16 nb))
  | .readInputRegisters addr nb _ => loByte fcReadInputRegisters ::
      (wordBytes (BitVec.ofInt 16 addr) ++ wordBytes (BitVec.ofInt 16 nb))
  | .writeBits addr nb src => loByte fcWriteMultipleCoils ::
      (wordBytes (BitVec.ofInt 16 addr) ++ wordBytes (BitVec.ofInt 16 nb)) ++
        ([loByte (writeBitsByteCount nb)] ++
          packBytesLoop src nb (writeBitsByteCount nb).toNat 0 0 [])
  | .writeRegisters addr nb src => loByte fcWriteMultipleRegisters ::
      (wordBytes (BitVec.ofInt 16 addr) ++ (wordBytes (BitVec.ofInt 16 nb) ++
        ([loByte (nb * 2)] ++ (cellsOf src nb.toNat).flatMap wordBytes)))
  | .writeAndReadRegisters writeAddr writeNb src readAddr readNb _ => loByte fcWriteAndReadRegisters ::
      (wordBytes (BitVec.ofInt 16 readAddr) ++ wordBytes (BitVec.ofInt 16 readNb) ++
        [hiByte writeAddr, loByte writeAddr, hiByte writeNb, loByte writeNb, loByte (writeNb * 2)] ++
        (cellsOf src writeNb.toNat).flatMap wordBytes)
  | op => op.request.encode

def returned (op : ClientOp) (rc : Int) : Int :=
  match op with
  | .readBits _ nb _ | .readInputBits _ nb _ => nb
  | _ => rc

def filled (op : ClientOp) (b : Backend) (rc : Int) (rsp : Buffer) : Dest :=
  match op with
  | .readBits _ nb dest | .readInputBits _ nb dest =>
      .bytes (unpackLoop rsp nb rc.toNat (b.headerLength + 2) 0 dest)
  | .readRegisters _ _ dest | .readInputRegisters _ _ dest
  | .writeAndReadRegisters _ _ _ _ _ dest =>
      .words (decodeRegistersLoop rsp b.headerLength rc.toNat 0 dest)
  | .reportSlaveId maxDest dest =>
      .bytes (copyLoop rsp (b.headerLength + 2) (min rc maxDest).toNat 0 dest)
  | _ => .none

def finish {σ : Type} (op : ClientOp) :
    Except Failure (Int × Option Buffer) × Conn σ → Except Failure Int × Dest × Conn σ
  | (.error e, c) => (.error e, op.dest, c)
  | (.ok (rc, none), c) => (.ok (op.returned rc), op.dest, c)
  | (.ok (rc, some rsp), c) => (.ok (op.returned rc), op.filled c.ctx.backend rc rsp, c)

end ClientOp

def Ctx.nextRequest (ctx : Ctx) : Ctx :=
  match ctx.backend with
  | .rtu => ctx
  | .tcp => { ctx with tId := if ctx.tId.toNat < 65535 then ctx.tId + 1 else 0 }

def requestHeader (ctx : Ctx) : List Byte :=
  match ctx.backend with
  | .rtu => [loByte ctx.slave]
  | .tcp => [hiByte ctx.tId.toNat, loByte ctx.tId.toNat, 0, 0, 0, 0, loByte ctx.slave]

theorem wordBytes_ofInt (x : Int) : wordBytes (BitVec.ofInt 16 x) = [hiByte x, loByte x] := by
  have hi : hiByte (BitVec.ofInt 16 x).toNat = hiByte x := by
    apply BitVec.eq_of_toNat_eq
    simp only [hiByte, BitVec.toNat_ofInt]
    omega
  have lo : loByte (BitVec.ofInt 16 x).toNat = loByte x := by
    apply BitVec.eq_of_toNat_eq
    simp only [loByte, BitVec.toNat_ofInt]
    omega
  rw [wordBytes, hi, lo]

theorem buildRequestBasis_eq (ctx : Ctx) (function : Nat) (addr nb : Int) :
    buildRequestBasis ctx function addr nb =
      (requestHeader ctx.nextRequest ++ loByte function ::
        (wordBytes (BitVec.ofInt 16 addr) ++ wordBytes (BitVec.ofInt 16 nb)), ctx.nextRequest) := by
  rw [wordBytes_ofInt, wordBytes_ofInt]
  cases backend : ctx.backend with
  | rtu =>
      simp [buildRequestBasis, backend, modbusRtuBuildRequestBasis, requestHeader, Ctx.nextRequest]
  | tcp =>
      simp [buildRequestBasis, backend, modbusTcpBuildRequestBasis, requestHeader, Ctx.nextRequest]

section
variable {σ : Type} (dev : Device σ) (c : Conn σ)

theorem readBitsWith_eq (function : Nat) (addr nb : Int) (dest : Buffer) (op : ClientOp)
    (pdu : List Byte) (limit : nb ≤ maxReadBits) (encoded : pdu = loByte function ::
      (wordBytes (BitVec.ofInt 16 addr) ++ wordBytes (BitVec.ofInt 16 nb)))
    (before : op.dest = .bytes dest) (returned : ∀ rc, op.returned rc = nb)
    (filled : ∀ b rc rsp, op.filled b rc rsp =
      .bytes (unpackLoop rsp nb rc.toNat (b.headerLength + 2) 0 dest)) :
    ((readBitsWith dev function c addr nb dest).1,
      Dest.bytes (readBitsWith dev function c addr nb dest).2.1,
      (readBitsWith dev function c addr nb dest).2.2) =
      op.finish (exchange dev { c with ctx := c.ctx.nextRequest }
        (requestHeader c.ctx.nextRequest ++ pdu)) := by
  rw [readBitsWith, if_neg (not_lt.mpr limit), readIoStatus, buildRequestBasis_eq, encoded]
  simp only
  cases exchange dev { c with ctx := c.ctx.nextRequest } (requestHeader c.ctx.nextRequest ++
      loByte function :: (wordBytes (BitVec.ofInt 16 addr) ++ wordBytes (BitVec.ofInt 16 nb))) with
  | mk result c' =>
      cases result with
      | error e => simp only [ClientOp.finish, before]
      | ok values =>
          obtain ⟨rc, rsp⟩ := values
          cases rsp with
          | none => simp only [ClientOp.finish, before, returned]
          | some rsp => simp only [ClientOp.finish, returned, filled]

theorem readRegistersWith_eq (function : Nat) (addr nb : Int) (dest : Nat → Word) (op : ClientOp)
    (pdu : List Byte) (limit : nb ≤ maxReadRegisters) (encoded : pdu = loByte function ::
      (wordBytes (BitVec.ofInt 16 addr) ++ wordBytes (BitVec.ofInt 16 nb)))
    (before : op.dest = .words dest) (returned : ∀ rc, op.returned rc = rc)
    (filled : ∀ b rc rsp, op.filled b rc rsp =
      .words (decodeRegistersLoop rsp b.headerLength rc.toNat 0 dest)) :
    ((readRegistersWith dev function c addr nb dest).1,
      Dest.words (readRegistersWith dev function c addr nb dest).2.1,
      (readRegistersWith dev function c addr nb dest).2.2) =
      op.finish (exchange dev { c with ctx := c.ctx.nextRequest }
        (requestHeader c.ctx.nextRequest ++ pdu)) := by
  rw [readRegistersWith, if_neg (not_lt.mpr limit), readRegisters, if_neg (not_lt.mpr limit),
    buildRequestBasis_eq, encoded]
  simp only
  cases exchange dev { c with ctx := c.ctx.nextRequest } (requestHeader c.ctx.nextRequest ++
      loByte function :: (wordBytes (BitVec.ofInt 16 addr) ++ wordBytes (BitVec.ofInt 16 nb))) with
  | mk result c' =>
      cases result with
      | error e => simp only [ClientOp.finish, before]
      | ok values =>
          obtain ⟨rc, rsp⟩ := values
          cases rsp with
          | none => simp only [ClientOp.finish, before, returned]
          | some rsp => simp only [ClientOp.finish, returned, filled]

theorem exchangeWrite_eq (req : List Byte) (op : ClientOp) (before : op.dest = .none)
    (returned : ∀ rc, op.returned rc = rc) (filled : ∀ b rc rsp, op.filled b rc rsp = .none) :
    ((exchangeWrite dev c req).1, Dest.none, (exchangeWrite dev c req).2) =
      op.finish (exchange dev c req) := by
  rw [exchangeWrite]
  cases exchange dev c req with
  | mk result c' =>
      cases result with
      | error e => simp only [ClientOp.finish, before]
      | ok values =>
          obtain ⟨rc, rsp⟩ := values
          cases rsp with
          | none => simp only [ClientOp.finish, before, returned]
          | some rsp => simp only [ClientOp.finish, returned, filled]

theorem writeSingle_eq (function : Nat) (addr : Int) (value : Word) (op : ClientOp)
    (pdu : List Byte) (encoded : pdu = loByte function ::
      (wordBytes (BitVec.ofInt 16 addr) ++ wordBytes value))
    (before : op.dest = .none) (returned : ∀ rc, op.returned rc = rc)
    (filled : ∀ b rc rsp, op.filled b rc rsp = .none) :
    ((writeSingle dev c function addr value).1, Dest.none, (writeSingle dev c function addr value).2) =
      op.finish (exchange dev { c with ctx := c.ctx.nextRequest }
        (requestHeader c.ctx.nextRequest ++ pdu)) := by
  have same : BitVec.ofInt 16 (value.toNat : Int) = value := by simp
  rw [writeSingle, buildRequestBasis_eq, same, ← encoded]
  exact exchangeWrite_eq dev _ _ op before returned filled

theorem maskWriteRegister_eq (addr : Int) (andMask orMask : Word) :
    (ClientOp.maskWriteRegister addr andMask orMask).run dev c =
      (ClientOp.maskWriteRegister addr andMask orMask).finish
        (exchange dev { c with ctx := c.ctx.nextRequest } (requestHeader c.ctx.nextRequest ++
          (ClientOp.maskWriteRegister addr andMask orMask).request.encode)) := by
  rw [ClientOp.run, modbusMaskWriteRegister]
  simp only [buildRequestBasis_eq]
  refine (exchangeWrite_eq dev _ _ (.maskWriteRegister addr andMask orMask) rfl (fun _ => rfl)
    fun _ _ _ => rfl).trans ?_
  have kept : (requestHeader c.ctx.nextRequest ++ loByte fcMaskWriteRegister ::
      (wordBytes (BitVec.ofInt 16 addr) ++ wordBytes (BitVec.ofInt 16 0))).take
      ((requestHeader c.ctx.nextRequest ++ loByte fcMaskWriteRegister ::
        (wordBytes (BitVec.ofInt 16 addr) ++ wordBytes (BitVec.ofInt 16 0))).length - 2) =
      requestHeader c.ctx.nextRequest ++ loByte fcMaskWriteRegister ::
        wordBytes (BitVec.ofInt 16 addr) := by
    rw [← List.cons_append, ← List.append_assoc]
    exact List.take_left' (by simp)
  rw [kept]
  simp [ClientOp.request, Request.encode, Request.payload, Request.function, wordBytes]

theorem writeAndReadRegisters_eq (writeAddr writeNb : Int) (src : Nat → Word)
    (readAddr readNb : Int) (dest : Nat → Word) (limit : writeNb ≤ maxWrWriteRegisters)
    (readLimit : readNb ≤ maxWrReadRegisters) :
    (ClientOp.writeAndReadRegisters writeAddr writeNb src readAddr readNb dest).run dev c =
      (ClientOp.writeAndReadRegisters writeAddr writeNb src readAddr readNb dest).finish
        (exchange dev { c with ctx := c.ctx.nextRequest } (requestHeader c.ctx.nextRequest ++
          (loByte fcWriteAndReadRegisters :: (wordBytes (BitVec.ofInt 16 readAddr) ++
            wordBytes (BitVec.ofInt 16 readNb) ++
            [hiByte writeAddr, loByte writeAddr, hiByte writeNb, loByte writeNb,
              loByte (writeNb * 2)] ++ (cellsOf src writeNb.toNat).flatMap wordBytes)))) := by
  rw [ClientOp.run, modbusWriteAndReadRegisters, if_neg (not_lt.mpr limit),
    if_neg (not_lt.mpr readLimit)]
  simp only [buildRequestBasis_eq, encodeRegistersLoop_eq, Nat.zero_add, List.append_assoc,
    List.cons_append]
  split
  · rename_i failed
    rw [failed]
    rfl
  · rename_i sent
    rw [sent]
    rfl
  · rename_i answered
    rw [answered]
    rfl

theorem reportSlaveId_eq (maxDest : Int) (dest : Buffer) (positive : 0 < maxDest) :
    (ClientOp.reportSlaveId maxDest dest).run dev c =
      (ClientOp.reportSlaveId maxDest dest).finish
        (exchange dev { c with ctx := c.ctx.nextRequest } (requestHeader c.ctx.nextRequest ++
          (ClientOp.reportSlaveId maxDest dest).request.encode)) := by
  have kept : (requestHeader c.ctx.nextRequest ++ loByte fcReportSlaveId ::
      (wordBytes (BitVec.ofInt 16 0) ++ wordBytes (BitVec.ofInt 16 0))).take
      ((requestHeader c.ctx.nextRequest ++ loByte fcReportSlaveId ::
        (wordBytes (BitVec.ofInt 16 0) ++ wordBytes (BitVec.ofInt 16 0))).length - 4) =
      requestHeader c.ctx.nextRequest ++ (ClientOp.reportSlaveId maxDest dest).request.encode := by
    rw [← List.singleton_append, ← List.append_assoc]
    exact List.take_left' (by simp)
  rw [ClientOp.run, modbusReportSlaveId, if_neg (by omega)]
  simp only [buildRequestBasis_eq, kept]
  split
  · rename_i failed
    rw [failed]
    rfl
  · rename_i sent
    rw [sent]
    rfl
  · rename_i answered
    rw [answered]
    rfl

theorem packBytesLoop_append (src : Buffer) (nb : Int) (left bitCheck pos : Nat) (req : List Byte) :
    packBytesLoop src nb left bitCheck pos req = req ++ packBytesLoop src nb left bitCheck pos [] := by
  induction left generalizing bitCheck pos req with
  | zero => exact (List.append_nil req).symm
  | succ left ih =>
      rw [packBytesLoop, packBytesLoop]
      obtain ⟨bitCheck', pos', byte⟩ := packByteLoop src nb 8 1 bitCheck pos 0
      simp only
      rw [ih bitCheck' pos' (req ++ [byte]), ih bitCheck' pos' ([] ++ [byte]), List.append_assoc]
      rfl

theorem packBytesLoop_length (src : Buffer) (nb : Int) (left bitCheck pos : Nat) (req : List Byte) :
    (packBytesLoop src nb left bitCheck pos req).length = req.length + left := by
  induction left generalizing bitCheck pos req with
  | zero => rfl
  | succ left ih =>
      rw [packBytesLoop]
      obtain ⟨bitCheck', pos', byte⟩ := packByteLoop src nb 8 1 bitCheck pos 0
      simp only
      rw [ih, List.length_append, List.length_singleton]
      omega

def ClientOp.Sends (op : ClientOp) : Prop :=
  (∃ e, op.refusal = some e ∧ op.run dev c = (.error (.errno e), op.dest, c)) ∨
    op.refusal = none ∧ op.run dev c = op.finish (exchange dev { c with ctx := c.ctx.nextRequest }
      (requestHeader c.ctx.nextRequest ++ op.pdu))

section
variable {dev c}

theorem sends_checked {op : ClientOp} {p : Prop} [Decidable p] {e : Errno}
    (refusal : op.refusal = if p then some e else none)
    (refused : p → op.run dev c = (.error (.errno e), op.dest, c))
    (sent : ¬ p → op.run dev c = op.finish (exchange dev { c with ctx := c.ctx.nextRequest }
      (requestHeader c.ctx.nextRequest ++ op.pdu))) : op.Sends dev c := by
  by_cases h : p
  · exact .inl ⟨e, refusal.trans (if_pos h), refused h⟩
  · exact .inr ⟨refusal.trans (if_neg h), sent h⟩

theorem sends_bits (function : Nat) (addr nb : Int) (dest : Buffer) {op : ClientOp}
    (run : op.run dev c = ((readBitsWith dev function c addr nb dest).1,
      Dest.bytes (readBitsWith dev function c addr nb dest).2.1,
      (readBitsWith dev function c addr nb dest).2.2))
    (refusal : op.refusal = if maxReadBits < nb then some .embmdata else none)
    (encoded : op.pdu = loByte function ::
      (wordBytes (BitVec.ofInt 16 addr) ++ wordBytes (BitVec.ofInt 16 nb)))
    (before : op.dest = .bytes dest) (returned : ∀ rc, op.returned rc = nb)
    (filled : ∀ b rc rsp, op.filled b rc rsp =
      .bytes (unpackLoop rsp nb rc.toNat (b.headerLength + 2) 0 dest)) : op.Sends dev c := by
  refine sends_checked refusal (fun limit => ?_) fun limit => ?_
  · rw [run, readBitsWith, if_pos limit, before]
  · rw [run]
    exact readBitsWith_eq dev c function addr nb dest op _ (not_lt.mp limit) encoded before returned
      filled

theorem sends_registers (function : Nat) (addr nb : Int) (dest : Nat → Word) {op : ClientOp}
    (run : op.run dev c = ((readRegistersWith dev function c addr nb dest).1,
      Dest.words (readRegistersWith dev function c addr nb dest).2.1,
      (readRegistersWith dev function c addr nb dest).2.2))
    (refusal : op.refusal = if maxReadRegisters < nb then some .embmdata else none)
    (encoded : op.pdu = loByte function ::
      (wordBytes (BitVec.ofInt 16 addr) ++ wordBytes (BitVec.ofInt 16 nb)))
    (before : op.dest = .words dest) (returned : ∀ rc, op.returned rc = rc)
    (filled : ∀ b rc rsp, op.filled b rc rsp =
      .words (decodeRegistersLoop rsp b.headerLength rc.toNat 0 dest)) : op.Sends dev c := by
  refine sends_checked refusal (fun limit => ?_) fun limit => ?_
  · rw [run, readRegistersWith, if_pos limit, before]
  · rw [run]
    exact readRegistersWith_eq dev c function addr nb dest op _ (not_lt.mp limit) encoded before
      returned filled

end

theorem ClientOp.run_sends (op : ClientOp) : op.Sends dev c := by
  cases op with
  | readBits addr nb dest =>
      exact sends_bits fcReadCoils addr nb dest rfl rfl rfl rfl (fun _ => rfl) fun _ _ _ => rfl
  | readInputBits addr nb dest =>
      exact sends_bits fcReadDiscreteInputs addr nb dest rfl rfl rfl rfl (fun _ => rfl) fun _ _ _ => rfl
  | readRegisters addr nb dest =>
      exact sends_registers fcReadHoldingRegisters addr nb dest rfl rfl rfl rfl (fun _ => rfl)
        fun _ _ _ => rfl
  | readInputRegisters addr nb dest =>
      exact sends_registers fcReadInputRegisters addr nb dest rfl rfl rfl rfl (fun _ => rfl)
        fun _ _ _ => rfl
  | writeBit addr status =>
      exact .inr ⟨rfl, writeSingle_eq dev c fcWriteSingleCoil addr _ (.writeBit addr status) _ rfl rfl
        (fun _ => rfl) fun _ _ _ => rfl⟩
  | writeRegister addr value =>
      exact .inr ⟨rfl, writeSingle_eq dev c fcWriteSingleRegister addr value
        (.writeRegister addr value) _ rfl rfl (fun _ => rfl) fun _ _ _ => rfl⟩
  | writeBits addr nb src =>
      refine sends_checked (p := (maxWriteBits : Int) < nb) rfl (fun limit => ?_) fun limit => ?_
      · rw [run, modbusWriteBits, if_pos limit]
        rfl
      · rw [run, modbusWriteBits, if_neg limit]
        simp only [buildRequestBasis_eq]
        rw [packBytesLoop_append, List.append_assoc, List.append_assoc]
        exact exchangeWrite_eq dev _ _ (.writeBits addr nb src) rfl (fun _ => rfl) fun _ _ _ => rfl
  | writeRegisters addr nb src =>
      refine sends_checked (p := (maxWriteRegisters : Int) < nb) rfl (fun limit => ?_) fun limit => ?_
      · rw [run, modbusWriteRegisters, if_pos limit]
        rfl
      · rw [run, modbusWriteRegisters, if_neg limit]
        simp only [buildRequestBasis_eq, encodeRegistersLoop_eq, List.append_assoc, Nat.zero_add]
        exact exchangeWrite_eq dev _ _ (.writeRegisters addr nb src) rfl (fun _ => rfl)
          fun _ _ _ => rfl
  | maskWriteRegister addr andMask orMask =>
      exact .inr ⟨rfl, maskWriteRegister_eq dev c addr andMask orMask⟩
  | writeAndReadRegisters writeAddr writeNb src readAddr readNb dest =>
      refine sends_checked
        (p := (maxWrWriteRegisters : Int) < writeNb ∨ (maxWrReadRegisters : Int) < readNb)
        rfl (fun limit => ?_) fun limit => ?_
      · rw [run, modbusWriteAndReadRegisters]
        by_cases written : (maxWrWriteRegisters : Int) < writeNb
        · rw [if_pos written]
          rfl
        · rw [if_neg written, if_pos (limit.resolve_left written)]
          rfl
      · obtain ⟨written, read⟩ := not_or.mp limit
        exact writeAndReadRegisters_eq dev c writeAddr writeNb src readAddr readNb dest
          (not_lt.mp written) (not_lt.mp read)
  | reportSlaveId maxDest dest =>
      refine sends_checked (p := maxDest ≤ 0) rfl (fun limit => ?_) fun limit => ?_
      · rw [run, modbusReportSlaveId, if_pos limit]
        rfl
      · exact reportSlaveId_eq dev c maxDest dest (not_le.mp limit)

theorem ClientOp.refusal_none (op : ClientOp) (valid : op.InRange) : op.refusal = none := by
  cases op with
  | readBits => exact if_neg (not_lt.mpr valid.2.2)
  | readInputBits => exact if_neg (not_lt.mpr valid.2.2)
  | readRegisters => exact if_neg (not_lt.mpr valid.2.2)
  | readInputRegisters => exact if_neg (not_lt.mpr valid.2.2)
  | writeBits => exact if_neg (not_lt.mpr valid.2.2)
  | writeRegisters => exact if_neg (not_lt.mpr valid.2.2)
  | writeAndReadRegisters =>
      exact if_neg (not_or.mpr ⟨not_lt.mpr valid.1.2.2, not_lt.mpr valid.2.2.2⟩)
  | reportSlaveId => exact if_neg (not_le.mpr valid)
  | _ => rfl

theorem ClientOp.writeBitsByteCount_eq (n : Nat) : writeBitsByteCount n = (byteCount n : Int) := by
  rw [writeBitsByteCount, Int.tdiv_eq_ediv_of_nonneg (by omega),
    Int.tmod_eq_emod_of_nonneg (by omega), byteCount]
  split <;> split <;> omega

theorem ClientOp.packBytesLoop_packBits (src : Buffer) (n : Nat) (req : List Byte) :
    packBytesLoop src n (writeBitsByteCount n).toNat 0 0 req =
      req ++ packBits (sourceBits src n) := by
  have data : packBits (sourceBits src n) = packFrom 0 0 (bitsFrom src 0 n) := by
    rw [bitsFrom_eq]
    rfl
  rw [writeBitsByteCount_eq, Int.toNat_natCast, data]
  exact packBytesLoop_eq src n (byteCount n) 0 req rfl (Nat.zero_le n)

theorem ClientOp.pdu_encode (op : ClientOp) (valid : op.InRange) : op.pdu = op.request.encode := by
  cases op with
  | writeBits addr nb src =>
      obtain ⟨-, pos, limit⟩ := valid
      obtain ⟨n, rfl⟩ := Int.eq_ofNat_of_zero_le (a := nb) (by omega)
      have length : (packBits (sourceBits src n)).length = byteCount n := by simp [sourceBits]
      rw [pdu, packBytesLoop_packBits, writeBitsByteCount_eq, ← length]
      simp [request, Request.encode, Request.payload, Request.function]
  | writeRegisters addr nb src =>
      obtain ⟨-, pos, limit⟩ := valid
      obtain ⟨n, rfl⟩ := Int.eq_ofNat_of_zero_le (a := nb) (by omega)
      have length : ((cellsOf src n).flatMap wordBytes).length = n * 2 := by
        rw [wordBytes_flatMap_length, cellsOf_length, Nat.mul_comm]
      simp [pdu, request, Request.encode, Request.payload, Request.function, length]
  | writeAndReadRegisters writeAddr writeNb src readAddr readNb dest =>
      obtain ⟨⟨-, pos, limit⟩, -, -, readLimit⟩ := valid
      obtain ⟨n, rfl⟩ := Int.eq_ofNat_of_zero_le (a := writeNb) (by omega)
      have length : ((cellsOf src n).flatMap wordBytes).length = n * 2 := by
        rw [wordBytes_flatMap_length, cellsOf_length, Nat.mul_comm]
      simp only [pdu, request, Request.encode, Request.payload, Request.function, Int.toNat_natCast,
        length, wordBytes_ofInt, List.cons_append, List.nil_append, Nat.cast_mul, Nat.cast_ofNat]
  | _ => rfl

theorem ClientOp.run_eq (op : ClientOp) (valid : op.InRange) :
    op.run dev c = op.finish (exchange dev { c with ctx := c.ctx.nextRequest }
      (requestHeader c.ctx.nextRequest ++ op.request.encode)) := by
  rcases op.run_sends dev c with ⟨e, refused, -⟩ | ⟨-, sent⟩
  · rw [op.refusal_none valid] at refused
    cases refused
  · rw [sent, op.pdu_encode valid]

end

end ModbusNet
