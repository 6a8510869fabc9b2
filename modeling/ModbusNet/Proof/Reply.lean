import ModbusNet.Model.Reply
import ModbusNet.Protocol.Service
import ModbusNet.Proof.PduFraming

/-!
# The reply is the service

Every arm of `modbus_reply` decodes a request, does what the service says and encodes the response
behind a header of the backend (`replySwitch_serve`). This holds for every mapping; where the tables
are smaller than declared both sides are undefined.
-/

namespace ModbusNet

def orUndefined {α : Type} (result : Option α) : Except Failure α :=
  match result with
  | some a => .ok a
  | none => .error .undefined

/-! ## The loops -/

theorem readTab_outside {α : Type} (tab : List α) (i : Nat) (outside : tab.length ≤ i) :
    readTab tab i = .error .undefined := by
  simp [readTab, outside]

theorem writeTab_outside {α : Type} (tab : List α) (i : Nat) (v : α) (outside : tab.length ≤ i) :
    writeTab tab i v = .error .undefined := by
  simp [writeTab, Nat.not_lt.mpr outside]

def closeStatus : Nat × Nat × List Byte → List Byte
  | (shift, oneByte, rsp) => if shift ≠ 0 then rsp ++ [loByte oneByte] else rsp

theorem responseIoStatusLoop_inside (tab : List Byte) (n i shift acc : Nat) (rsp : List Byte)
    (inside : i + n ≤ tab.length) :
    (responseIoStatusLoop tab n i shift acc rsp).map closeStatus =
      .ok (rsp ++ packFrom shift acc ((slice tab i n).map BitVec.toNat)) := by
  induction n generalizing i shift acc rsp with
  | zero =>
      simp only [responseIoStatusLoop, slice_zero, List.map_nil, packFrom, Except.map, closeStatus]
      by_cases empty : shift = 0
      · simp [empty]
      · simp only [empty, ne_eq, not_false_eq_true, if_true, if_false]
        rfl
  | succ n ih =>
      have bound : i < tab.length := by omega
      have step : responseIoStatusLoop tab (n + 1) i shift acc rsp =
          if shift = 7 then
            responseIoStatusLoop tab n (i + 1) 0 0 (rsp ++ [loByte (acc ||| tab[i].toNat <<< shift : Nat)])
          else responseIoStatusLoop tab n (i + 1) (shift + 1) (acc ||| tab[i].toNat <<< shift) rsp := by
        rw [responseIoStatusLoop, readTab_eq tab i bound]
        rfl
      rw [step, slice_succ tab i n bound, List.map_cons, packFrom]
      by_cases full : shift = 7
      · rw [if_pos full, if_pos full, ih (i + 1) 0 0 _ (by omega), List.append_assoc]
        rfl
      · rw [if_neg full, if_neg full, ih (i + 1) (shift + 1) _ rsp (by omega)]

theorem responseIoStatusLoop_outside (tab : List Byte) (n i shift acc : Nat) (rsp : List Byte)
    (outside : tab.length < i + n) (pos : 0 < n) :
    responseIoStatusLoop tab n i shift acc rsp = .error .undefined := by
  induction n generalizing i shift acc rsp with
  | zero => omega
  | succ n ih =>
      rcases Nat.lt_or_ge i tab.length with bound | reached
      · rw [responseIoStatusLoop, readTab_eq tab i bound]
        change ite _ _ _ = _
        split
        · exact ih (i + 1) 0 0 _ (by omega) (by omega)
        · exact ih (i + 1) (shift + 1) _ rsp (by omega) (by omega)
      · rw [responseIoStatusLoop, readTab_outside tab i reached]
        rfl

theorem responseIoStatus_eq (t : Table Byte) (address nb : Nat) (rsp : List Byte) (pos : 0 < nb) :
    responseIoStatus t.cells (t.index address) nb rsp =
      (orUndefined (t.read address nb)).map fun cells => rsp ++ statusData cells := by
  have closed : responseIoStatus t.cells (t.index address) nb rsp =
      (responseIoStatusLoop t.cells nb (t.index address) 0 0 rsp).map closeStatus := by
    rw [responseIoStatus]
    cases responseIoStatusLoop t.cells nb (t.index address) 0 0 rsp <;> rfl
  rw [closed, Table.read]
  by_cases inside : t.index address + nb ≤ t.cells.length
  · rw [if_pos inside, responseIoStatusLoop_inside _ _ _ _ _ _ inside]
    rfl
  · rw [if_neg inside, responseIoStatusLoop_outside _ _ _ _ _ _ (by omega) pos]
    rfl

theorem responseRegisters_inside (tab : List Word) (n i : Nat) (rsp : List Byte)
    (inside : i + n ≤ tab.length) :
    responseRegisters tab n i rsp = .ok (rsp ++ (slice tab i n).flatMap wordBytes) := by
  induction n generalizing i rsp with
  | zero => simp [responseRegisters]
  | succ n ih =>
      have bound : i < tab.length := by omega
      rw [responseRegisters, readTab_eq tab i bound, slice_succ tab i n bound, List.flatMap_cons,
        ← List.append_assoc]
      exact ih (i + 1) _ (by omega)

theorem responseRegisters_outside (tab : List Word) (n i : Nat) (rsp : List Byte)
    (outside : tab.length < i + n) (pos : 0 < n) :
    responseRegisters tab n i rsp = .error .undefined := by
  induction n generalizing i rsp with
  | zero => omega
  | succ n ih =>
      rcases Nat.lt_or_ge i tab.length with bound | reached
      · rw [responseRegisters, readTab_eq tab i bound]
        exact ih (i + 1) _ (by omega) (by omega)
      · rw [responseRegisters, readTab_outside tab i reached]
        rfl

theorem responseRegisters_eq (t : Table Word) (address nb : Nat) (rsp : List Byte) (pos : 0 < nb) :
    responseRegisters t.cells nb (t.index address) rsp =
      (orUndefined (t.read address nb)).map fun cells => rsp ++ cells.flatMap wordBytes := by
  rw [Table.read]
  by_cases inside : t.index address + nb ≤ t.cells.length
  · rw [if_pos inside, responseRegisters_inside _ _ _ _ inside]
    rfl
  · rw [if_neg inside, responseRegisters_outside _ _ _ _ (by omega) pos]
    rfl

theorem storeRegisters_inside (req : Buffer) (n i j : Nat) (tab : List Word)
    (inside : i + n ≤ tab.length) :
    storeRegisters req n i j tab = .ok (store tab i (wordsAt req j n)) := by
  induction n generalizing i j tab with
  | zero => simp [storeRegisters, wordsAt]
  | succ n ih =>
      rw [storeRegisters, writeTab_eq tab i _ (by omega), wordsAt_succ,
        store_cons _ _ _ _ (by rw [wordsAt_length]; omega)]
      exact ih (i + 1) (j + 2) _ (by rw [List.length_set]; omega)

theorem storeRegisters_outside (req : Buffer) (n i j : Nat) (tab : List Word)
    (outside : tab.length < i + n) (pos : 0 < n) :
    storeRegisters req n i j tab = .error .undefined := by
  induction n generalizing i j tab with
  | zero => omega
  | succ n ih =>
      rcases Nat.lt_or_ge i tab.length with bound | reached
      · rw [storeRegisters, writeTab_eq tab i _ bound]
        exact ih (i + 1) (j + 2) _ (by rw [List.length_set]; omega) (by omega)
      · rw [storeRegisters, writeTab_outside tab i _ reached]
        rfl

theorem storeRegisters_eq (t : Table Word) (req : Buffer) (address nb j : Nat) (pos : 0 < nb) :
    storeRegisters req nb (t.index address) j t.cells =
      orUndefined (t.write address (wordsAt req j nb)) := by
  rw [Table.write, wordsAt_length]
  by_cases inside : t.index address + nb ≤ t.cells.length
  · rw [if_pos inside, storeRegisters_inside _ _ _ _ _ inside]
    rfl
  · rw [if_neg inside, storeRegisters_outside _ _ _ _ _ (by omega) pos]
    rfl

def bitCellsFrom (data : Buffer) (k n : Nat) : List Byte :=
  (List.range n).map fun m => if bitAt data (k + m) then 1 else 0

theorem bitCellsFrom_succ (data : Buffer) (k n : Nat) :
    bitCellsFrom data k (n + 1) = (if bitAt data k then 1 else 0) :: bitCellsFrom data (k + 1) n := by
  simp only [bitCellsFrom, List.range_succ_eq_map, List.map_cons, List.map_map, Nat.add_zero,
    Function.comp_def, Nat.succ_eq_add_one, Nat.add_assoc, Nat.add_comm 1]

@[simp] theorem bitCellsFrom_length (data : Buffer) (k n : Nat) :
    (bitCellsFrom data k n).length = n := by
  simp [bitCellsFrom]

theorem setBitsFromBytesLoop_step (idx : Nat) (tabByte : Buffer) (left k : Nat) (dest : List Byte) :
    setBitsFromBytesLoop idx tabByte (left + 1) k (k % 8) dest =
      writeTab dest (idx + k) (if bitAt tabByte k then 1 else 0) >>=
        setBitsFromBytesLoop idx tabByte left (k + 1) ((k + 1) % 8) := by
  rw [setBitsFromBytesLoop]
  simp only [byte_masked, bitAt]
  rw [show (k % 8 + 1) % 8 = (k + 1) % 8 by omega]
  rfl

theorem setBitsFromBytesLoop_inside (idx : Nat) (tabByte : Buffer) (left k : Nat) (dest : List Byte)
    (inside : idx + k + left ≤ dest.length) :
    setBitsFromBytesLoop idx tabByte left k (k % 8) dest =
      .ok (store dest (idx + k) (bitCellsFrom tabByte k left)) := by
  induction left generalizing k dest with
  | zero => simp [setBitsFromBytesLoop, bitCellsFrom]
  | succ left ih =>
      rw [setBitsFromBytesLoop_step, writeTab_eq dest _ _ (by omega), bitCellsFrom_succ,
        store_cons _ _ _ _ (by rw [bitCellsFrom_length]; omega)]
      exact ih (k + 1) _ (by rw [List.length_set]; omega)

theorem setBitsFromBytesLoop_outside (idx : Nat) (tabByte : Buffer) (left k : Nat)
    (dest : List Byte) (outside : dest.length < idx + k + left) (pos : 0 < left) :
    setBitsFromBytesLoop idx tabByte left k (k % 8) dest = .error .undefined := by
  induction left generalizing k dest with
  | zero => omega
  | succ left ih =>
      rw [setBitsFromBytesLoop_step]
      rcases Nat.lt_or_ge (idx + k) dest.length with bound | reached
      · rw [writeTab_eq dest _ _ bound]
        exact ih (k + 1) _ (by rw [List.length_set]; omega) (by omega)
      · rw [writeTab_outside dest _ _ reached]
        rfl

theorem modbusSetBitsFromBytes_eq (t : Table Byte) (tabByte : Buffer) (address nb : Nat)
    (pos : 0 < nb) :
    modbusSetBitsFromBytes t.cells (t.index address) nb tabByte =
      orUndefined (t.write address (bitCells tabByte nb)) := by
  have same : bitCells tabByte nb = bitCellsFrom tabByte 0 nb := by simp [bitCells, bitCellsFrom]
  rw [modbusSetBitsFromBytes, Table.write, bitCells_length]
  by_cases inside : t.index address + nb ≤ t.cells.length
  · rw [if_pos inside, same]
    exact setBitsFromBytesLoop_inside (t.index address) tabByte nb 0 t.cells inside
  · rw [if_neg inside]
    exact setBitsFromBytesLoop_outside (t.index address) tabByte nb 0 t.cells (by omega) pos

theorem writeTab_table {α : Type} (t : Table α) (address : Nat) (v : α) :
    writeTab t.cells (t.index address) v = orUndefined (t.write address [v]) := by
  rw [Table.write]
  by_cases bound : t.index address < t.cells.length
  · rw [writeTab_eq _ _ _ bound, List.length_singleton, if_pos (by omega), store_single _ _ _ bound]
    rfl
  · rw [writeTab_outside _ _ _ (by omega), List.length_singleton, if_neg (by omega)]
    rfl

/-! ## The arms -/

def responseHeader (b : Backend) (req : Buffer) : List Byte :=
  match b with
  | .rtu => [req 0]
  | .tcp => [req 0, req 1, 0, 0, 0, 0, req 6]

theorem responseHeader_length (b : Backend) (req : Buffer) :
    (responseHeader b req).length = b.headerLength := by
  cases b <;> rfl

theorem responseBasis_eq (b : Backend) (req : Buffer) (reqLength function : Int) :
    buildResponseBasis b ⟨(req (b.headerLength - 1)).toNat, function,
      (prepareResponseTid b req reqLength).1⟩ = responseHeader b req ++ [loByte function] := by
  cases b with
  | rtu => simp [buildResponseBasis, modbusRtuBuildResponseBasis, responseHeader]
  | tcp =>
      simp [buildResponseBasis, modbusTcpBuildResponseBasis, responseHeader, prepareResponseTid,
        be16]

/-- The answer for an outcome: echoes are copied with their header, other responses are built. -/
def deliver (header : List Byte) (echo : Except Failure (List Byte)) (outcome : Outcome) :
    Except Failure (Answer × ModbusMapping) :=
  match outcome.response with
  | .echo _ => echo.map fun rsp => (⟨rsp, outcome.toFlush⟩, outcome.mapping)
  | response => .ok (⟨header ++ response.encode, outcome.toFlush⟩, outcome.mapping)

theorem not_covers_iff {α : Type} (t : Table α) (address nb : Nat) :
    (address : Int) - t.start < 0 ∨ t.size < (address : Int) - t.start + nb ↔
      ¬ t.Covers address nb := by
  unfold Table.Covers
  omega

theorem not_covers_one_iff {α : Type} (t : Table α) (address : Nat) :
    (address : Int) - t.start < 0 ∨ t.size ≤ (address : Int) - t.start ↔ ¬ t.Covers address 1 := by
  unfold Table.Covers
  omega

section
variable {b : Backend} {sft : Sft} {req : Buffer} {header : List Byte} {r : Request}
  (basis : ∀ function, buildResponseBasis b { sft with function } = header ++ [loByte function])
  (function : sft.function = r.function)

include basis function

theorem responseException_eq (code : Nat) (toFlush : Bool) :
    responseException b sft code toFlush =
      ⟨header ++ (Response.exception r.function code).encode, toFlush⟩ := by
  rw [responseException, basis, function, List.append_assoc]
  rfl

theorem responseBasis_self :
    buildResponseBasis b sft = header ++ [loByte r.function] := by
  rw [← function]
  exact basis sft.function

end

theorem ite_bind {α β : Type} (p : Prop) [Decidable p] (x y : Except Failure α)
    (f : α → Except Failure β) :
    (if p then x else y) >>= f = if p then x >>= f else y >>= f := by
  split <;> rfl

theorem bind_eq {α β : Type} {x y : Except Failure α} (first : x = y)
    (f : α → Except Failure β) {z : Except Failure β} (rest : y >>= f = z) : x >>= f = z := by
  rw [first, rest]

theorem access_bind {α β : Type} (cells : Option α) (done : α → Outcome)
    (f : Outcome → Except Failure β) :
    access cells done >>= f = orUndefined cells >>= (f ∘ done) := by
  cases cells <;> rfl

section
variable (b : Backend) (sft : Sft) (req : Buffer) (header : List Byte) (mb : ModbusMapping)
  (version : VersionString) (echo : Except Failure (List Byte))
  (basis : ∀ function, buildResponseBasis b { sft with function } = header ++ [loByte function])

include basis

theorem replyReadBits_eq (isInput : Bool) (function : sft.function = readBitsFunction isInput) :
    replyReadBits b sft req mb isInput =
      (Request.readBits isInput (wordAt (pduAt b req) 1) (wordAt (pduAt b req) 3)).serve version mb >>=
        deliver header echo := by
  set r := Request.readBits isInput (wordAt (pduAt b req) 1) (wordAt (pduAt b req) 3) with request
  have refused := responseException_eq (r := r) basis function
  have start := responseBasis_self (r := r) basis function
  have tables : (if isInput then mb.startInputBits else mb.startBits) = (mb.bits isInput).start ∧
      (if isInput then mb.nbInputBits else mb.nbBits) = (mb.bits isInput).size ∧
      (if isInput then mb.tabInputBits else mb.tabBits) = (mb.bits isInput).cells := by
    cases isInput <;> exact ⟨rfl, rfl, rfl⟩
  simp only [replyReadBits, request, Request.serve, wordAt_toNat, tables, ite_bind, access_bind]
  refine ite_congr rfl (fun _ => ?_) fun valid => ?_
  · rw [refused]
    rfl
  · refine ite_congr (propext (not_covers_iff _ _ _)) (fun _ => ?_) fun _ => ?_
    · rw [refused]
      rfl
    · have pos : 0 < be16 (pduAt b req) 3 := by
        simp only [not_or, not_lt] at valid
        exact valid.1
      have status := responseIoStatus_eq (mb.bits isInput) (be16 (pduAt b req) 1)
        (be16 (pduAt b req) 3)
        (buildResponseBasis b sft ++ [loByte (byteCount (be16 (pduAt b req) 3))]) pos
      refine bind_eq status _ ?_
      cases found : (mb.bits isInput).read (be16 (pduAt b req) 1) (be16 (pduAt b req) 3) with
      | none => rfl
      | some cells =>
          have length : (statusData cells).length = byteCount (be16 (pduAt b req) 3) := by
            rw [statusData, packValues_length, List.length_map, Table.read_length found]
          change Except.ok _ = Except.ok _
          simp only [start, ← length, Response.encode, List.append_assoc]
          rfl

theorem replyReadRegisters_eq (isInput : Bool)
    (function : sft.function = readRegistersFunction isInput) :
    replyReadRegisters b sft req mb isInput =
      (Request.readRegisters isInput (wordAt (pduAt b req) 1) (wordAt (pduAt b req) 3)).serve
        version mb >>= deliver header echo := by
  set r := Request.readRegisters isInput (wordAt (pduAt b req) 1) (wordAt (pduAt b req) 3)
    with request
  have refused := responseException_eq (r := r) basis function
  have start := responseBasis_self (r := r) basis function
  have tables : (if isInput then mb.startInputRegisters else mb.startRegisters) =
        (mb.registers isInput).start ∧
      (if isInput then mb.nbInputRegisters else mb.nbRegisters) = (mb.registers isInput).size ∧
      (if isInput then mb.tabInputRegisters else mb.tabRegisters) =
        (mb.registers isInput).cells := by
    cases isInput <;> exact ⟨rfl, rfl, rfl⟩
  simp only [replyReadRegisters, request, Request.serve, wordAt_toNat, tables, ite_bind, access_bind]
  refine ite_congr rfl (fun _ => ?_) fun valid => ?_
  · rw [refused]
    rfl
  · refine ite_congr (propext (not_covers_iff _ _ _)) (fun _ => ?_) fun _ => ?_
    · rw [refused]
      rfl
    · have pos : 0 < be16 (pduAt b req) 3 := by
        simp only [not_or, not_lt] at valid
        exact valid.1
      have data := responseRegisters_eq (mb.registers isInput) (be16 (pduAt b req) 1)
        (be16 (pduAt b req) 3)
        (buildResponseBasis b sft ++ [loByte (2 * be16 (pduAt b req) 3 : Nat)]) pos
      refine bind_eq data _ ?_
      cases found : (mb.registers isInput).read (be16 (pduAt b req) 1) (be16 (pduAt b req) 3) with
      | none => rfl
      | some cells =>
          have length : (cells.flatMap wordBytes).length = 2 * be16 (pduAt b req) 3 := by
            rw [wordBytes_flatMap_length, Table.read_length found]
          change Except.ok _ = Except.ok _
          simp only [start, ← length, Response.encode, List.append_assoc]
          rfl

theorem replyWriteSingleCoil_eq (reqLength : Int) (function : sft.function = fcWriteSingleCoil) :
    replyWriteSingleCoil b sft req reqLength mb =
      (Request.writeSingleCoil (wordAt (pduAt b req) 1) (wordAt (pduAt b req) 3)).serve version mb >>=
        deliver header (copyRequest req reqLength) := by
  set r := Request.writeSingleCoil (wordAt (pduAt b req) 1) (wordAt (pduAt b req) 3) with request
  have refused := responseException_eq (r := r) basis function
  simp only [replyWriteSingleCoil, request, Request.serve, wordAt_toNat, ite_bind, access_bind]
  refine ite_congr (propext (not_covers_one_iff mb.coils _)) (fun _ => ?_) fun _ => ?_
  · rw [refused]
    rfl
  · refine ite_congr rfl (fun _ => ?_) fun _ => ?_
    · have stored := writeTab_table mb.coils (be16 (pduAt b req) 1)
        (if be16 (pduAt b req) 3 ≠ 0 then 1 else 0)
      refine bind_eq stored _ ?_
      cases orUndefined (mb.coils.write (be16 (pduAt b req) 1)
        [if be16 (pduAt b req) 3 ≠ 0 then 1 else 0]) with
      | error e => rfl
      | ok tabBits => cases copyRequest req reqLength <;> rfl
    · rw [refused]
      rfl

theorem replyWriteSingleRegister_eq (reqLength : Int)
    (function : sft.function = fcWriteSingleRegister) :
    replyWriteSingleRegister b sft req reqLength mb =
      (Request.writeSingleRegister (wordAt (pduAt b req) 1) (wordAt (pduAt b req) 3)).serve version
        mb >>= deliver header (copyRequest req reqLength) := by
  set r := Request.writeSingleRegister (wordAt (pduAt b req) 1) (wordAt (pduAt b req) 3) with request
  have refused := responseException_eq (r := r) basis function
  simp only [replyWriteSingleRegister, request, Request.serve, wordAt_toNat, ite_bind, access_bind]
  refine ite_congr (propext (not_covers_one_iff mb.holdingRegisters _)) (fun _ => ?_) fun _ => ?_
  · rw [refused]
    rfl
  · have stored := writeTab_table mb.holdingRegisters (be16 (pduAt b req) 1)
      (wordAt (pduAt b req) 3)
    refine bind_eq stored _ ?_
    cases orUndefined (mb.holdingRegisters.write (be16 (pduAt b req) 1) [wordAt (pduAt b req) 3]) with
    | error e => rfl
    | ok tabRegisters => cases copyRequest req reqLength <;> rfl

theorem responseWriteMultiple_eq (header_length : header.length = b.headerLength) (r : Request)
    (function : sft.function = r.function) :
    responseWriteMultiple b sft req = ⟨header ++ (Response.written r.function
      (wordAt (pduAt b req) 1) (wordAt (pduAt b req) 3)).encode, false⟩ := by
  rw [responseWriteMultiple, responseBasis_self basis function, List.length_append, header_length,
    Response.encode, wordBytes_wordAt, wordBytes_wordAt, List.append_assoc]
  rfl

theorem replyWriteMultipleCoils_eq (header_length : header.length = b.headerLength)
    (function : sft.function = fcWriteMultipleCoils) :
    replyWriteMultipleCoils b sft req mb =
      (Request.writeMultipleCoils (wordAt (pduAt b req) 1) (wordAt (pduAt b req) 3)
        (bytesAt (pduAt b req) 6 (pduAt b req 5).toNat)).serve version mb >>= deliver header echo := by
  set data := bytesAt (pduAt b req) 6 (pduAt b req 5).toNat with block
  set r := Request.writeMultipleCoils (wordAt (pduAt b req) 1) (wordAt (pduAt b req) 3) data
    with request
  have refused := responseException_eq (r := r) basis function
  have written := responseWriteMultiple_eq b sft req header basis header_length r function
  simp only [replyWriteMultipleCoils, request, Request.serve, wordAt_toNat, ite_bind, access_bind]
  refine ite_congr ?_ (fun _ => ?_) fun valid => ?_
  · rw [block, bytesAt_length]
    rfl
  · rw [refused]
    rfl
  · refine ite_congr (propext (not_covers_iff mb.coils _ _)) (fun _ => ?_) fun _ => ?_
    · rw [refused]
      rfl
    · simp only [block, bytesAt_length, not_or, not_lt] at valid
      obtain ⟨pos, -, enough⟩ := valid
      have stored := modbusSetBitsFromBytes_eq mb.coils (fun k => req (b.headerLength + 6 + k))
        (be16 (pduAt b req) 1) (be16 (pduAt b req) 3) pos
      have cells : bitCells (fun k => req (b.headerLength + 6 + k)) (be16 (pduAt b req) 3) =
          bitCells (ofBytes data) (be16 (pduAt b req) 3) := by
        have agree := ofBytes_bytesAt (pduAt b req) 6 (pduAt b req 5).toNat
        simp only [pduAt, ← Nat.add_assoc] at agree
        exact (agree.bitCells_eq (by rw [Nat.mul_comm]; exact enough)).symm
      rw [cells] at stored
      refine bind_eq stored _ ?_
      rw [written]
      cases mb.coils.write (be16 (pduAt b req) 1) (bitCells (ofBytes data) (be16 (pduAt b req) 3)) <;>
        rfl

theorem replyWriteMultipleRegisters_eq (header_length : header.length = b.headerLength)
    (function : sft.function = fcWriteMultipleRegisters) :
    replyWriteMultipleRegisters b sft req mb =
      (Request.writeMultipleRegisters (wordAt (pduAt b req) 1) (wordAt (pduAt b req) 3)
        (bytesAt (pduAt b req) 6 (pduAt b req 5).toNat)).serve version mb >>= deliver header echo := by
  set data := bytesAt (pduAt b req) 6 (pduAt b req 5).toNat with block
  set r := Request.writeMultipleRegisters (wordAt (pduAt b req) 1) (wordAt (pduAt b req) 3) data
    with request
  have refused := responseException_eq (r := r) basis function
  have written := responseWriteMultiple_eq b sft req header basis header_length r function
  simp only [replyWriteMultipleRegisters, request, Request.serve, wordAt_toNat, ite_bind,
    access_bind]
  refine ite_congr ?_ (fun _ => ?_) fun valid => ?_
  · rw [block, bytesAt_length]
    rfl
  · rw [refused]
    rfl
  · refine ite_congr (propext (not_covers_iff mb.holdingRegisters _ _)) (fun _ => ?_) fun _ => ?_
    · rw [refused]
      rfl
    · simp only [block, bytesAt_length, not_or, not_lt, not_not] at valid
      obtain ⟨pos, -, length⟩ := valid
      have count : (pduAt b req 5).toNat = be16 (pduAt b req) 3 * 2 := length
      have stored := storeRegisters_eq mb.holdingRegisters req (be16 (pduAt b req) 1)
        (be16 (pduAt b req) 3) (b.headerLength + 6) pos
      have words : wordsAt req (b.headerLength + 6) (be16 (pduAt b req) 3) =
          wordsAt (ofBytes data) 0 (be16 (pduAt b req) 3) := by
        have agree := ofBytes_bytesAt (pduAt b req) 6 (pduAt b req 5).toNat
        simp only [pduAt, ← Nat.add_assoc] at agree
        rw [wordsAt_shift]
        exact (agree.wordsAt_eq (by rw [Nat.zero_add, Nat.mul_comm]; exact count.ge)).symm
      rw [words] at stored
      refine bind_eq stored _ ?_
      rw [written]
      cases mb.holdingRegisters.write (be16 (pduAt b req) 1)
        (wordsAt (ofBytes data) 0 (be16 (pduAt b req) 3)) <;> rfl

theorem replyReportSlaveId_eq (function : sft.function = fcReportSlaveId) :
    replyReportSlaveId b sft mb version =
      Request.reportSlaveId.serve version mb >>= deliver header echo := by
  have start := responseBasis_self (r := .reportSlaveId) basis function
  rw [replyReportSlaveId, start, List.append_assoc, List.append_assoc]
  rfl

theorem replyMaskWriteRegister_eq (reqLength : Int)
    (function : sft.function = fcMaskWriteRegister) :
    replyMaskWriteRegister b sft req reqLength mb =
      (Request.maskWriteRegister (wordAt (pduAt b req) 1) (wordAt (pduAt b req) 3)
        (wordAt (pduAt b req) 5)).serve version mb >>=
        deliver header (copyRequest req reqLength) := by
  set r := Request.maskWriteRegister (wordAt (pduAt b req) 1) (wordAt (pduAt b req) 3)
    (wordAt (pduAt b req) 5) with request
  have refused := responseException_eq (r := r) basis function
  simp only [replyMaskWriteRegister, request, Request.serve, wordAt_toNat, ite_bind, access_bind]
  refine ite_congr (propext (not_covers_one_iff mb.holdingRegisters _)) (fun _ => ?_) fun _ => ?_
  · rw [refused]
    rfl
  · set address := be16 (pduAt b req) 1
    set t := mb.holdingRegisters
    by_cases bound : t.index address < t.cells.length
    · have data : readTab t.cells (t.index address) = .ok t.cells[t.index address] :=
        readTab_eq _ _ bound
      have found : t.read address 1 = some [t.cells[t.index address]] := by
        rw [Table.read, if_pos (by omega), slice_succ _ _ _ bound, slice_zero]
      have stored := writeTab_table t address (maskedWord t.cells[t.index address]
        (wordAt (pduAt b req) 3) (wordAt (pduAt b req) 5))
      rw [found]
      refine bind_eq data _ (bind_eq stored _ ?_)
      change _ = orUndefined (t.write address [maskedWord t.cells[t.index address]
        (wordAt (pduAt b req) 3) (wordAt (pduAt b req) 5)]) >>= _
      cases orUndefined (t.write address [maskedWord t.cells[t.index address]
          (wordAt (pduAt b req) 3) (wordAt (pduAt b req) 5)]) with
      | error e => rfl
      | ok tabRegisters => cases copyRequest req reqLength <;> rfl
    · have data : readTab t.cells (t.index address) = .error .undefined :=
        readTab_outside _ _ (by omega)
      have missing : t.read address 1 = none := if_neg (by omega)
      rw [missing]
      exact bind_eq data _ rfl

theorem replyWriteAndReadRegisters_eq (function : sft.function = fcWriteAndReadRegisters) :
    replyWriteAndReadRegisters b sft req mb =
      (Request.writeAndReadRegisters (wordAt (pduAt b req) 1) (wordAt (pduAt b req) 3)
        (wordAt (pduAt b req) 5) (wordAt (pduAt b req) 7)
        (bytesAt (pduAt b req) 10 (pduAt b req 9).toNat)).serve version mb >>=
        deliver header echo := by
  set data := bytesAt (pduAt b req) 10 (pduAt b req 9).toNat with block
  set r := Request.writeAndReadRegisters (wordAt (pduAt b req) 1) (wordAt (pduAt b req) 3)
    (wordAt (pduAt b req) 5) (wordAt (pduAt b req) 7) data with request
  have refused := responseException_eq (r := r) basis function
  have start := responseBasis_self (r := r) basis function
  simp only [replyWriteAndReadRegisters, request, Request.serve, wordAt_toNat, ite_bind, access_bind]
  refine ite_congr ?_ (fun _ => ?_) fun valid => ?_
  · rw [block, bytesAt_length]
    rfl
  · rw [refused]
    rfl
  · refine ite_congr ?_ (fun _ => ?_) fun _ => ?_
    · rw [not_and_or, ← not_covers_iff, ← not_covers_iff, or_assoc]
      rfl
    · rw [refused]
      rfl
    · simp only [block, bytesAt_length, not_or, not_lt, not_not] at valid
      obtain ⟨posWrite, -, pos, -, length⟩ := valid
      have count : (pduAt b req 9).toNat = be16 (pduAt b req) 7 * 2 := length
      have stored := storeRegisters_eq mb.holdingRegisters req (be16 (pduAt b req) 5)
        (be16 (pduAt b req) 7) (b.headerLength + 10) posWrite
      have words : wordsAt req (b.headerLength + 10) (be16 (pduAt b req) 7) =
          wordsAt (ofBytes data) 0 (be16 (pduAt b req) 7) := by
        have agree := ofBytes_bytesAt (pduAt b req) 10 (pduAt b req 9).toNat
        simp only [pduAt, ← Nat.add_assoc] at agree
        rw [wordsAt_shift]
        exact (agree.wordsAt_eq (by rw [Nat.zero_add, Nat.mul_comm]; exact count.ge)).symm
      rw [words] at stored
      refine bind_eq stored _ ?_
      cases mb.holdingRegisters.write (be16 (pduAt b req) 5)
          (wordsAt (ofBytes data) 0 (be16 (pduAt b req) 7)) with
      | none => rfl
      | some tabRegisters =>
          set mb' : ModbusMapping := { mb with tabRegisters }
          have read := responseRegisters_eq mb'.holdingRegisters (be16 (pduAt b req) 1)
            (be16 (pduAt b req) 3)
            (buildResponseBasis b sft ++ [loByte (2 * be16 (pduAt b req) 3 : Nat)]) pos
          change responseRegisters _ _ _ _ >>= _ = _
          refine bind_eq read _ ?_
          change _ = orUndefined (mb'.holdingRegisters.read (be16 (pduAt b req) 1)
            (be16 (pduAt b req) 3) >>= fun cells => some (tabRegisters, cells)) >>= _
          cases found : mb'.holdingRegisters.read (be16 (pduAt b req) 1) (be16 (pduAt b req) 3) with
          | none => rfl
          | some cells =>
              have length : (cells.flatMap wordBytes).length = 2 * be16 (pduAt b req) 3 := by
                rw [wordBytes_flatMap_length, Table.read_length found]
              change Except.ok _ = Except.ok _
              simp only [start, ← length, Response.encode, List.append_assoc]
              rfl

end

theorem replySwitch_serve (ctx : Ctx) (req : Buffer) (reqLength : Int) (mb : ModbusMapping) :
    replySwitch ctx req reqLength mb =
      (Request.decode (pduAt ctx.backend req)).serve ctx.version mb >>=
        deliver (responseHeader ctx.backend req)
          (copyRequest req (prepareResponseTid ctx.backend req reqLength).2) := by
  set b := ctx.backend with backend
  set header := responseHeader b req
  have header_length : header.length = b.headerLength := responseHeader_length b req
  set sft : Sft := ⟨(req (b.headerLength - 1)).toNat, (req b.headerLength).toNat,
    (prepareResponseTid b req reqLength).1⟩ with request
  have basis : ∀ function, buildResponseBasis b { sft with function } = header ++ [loByte function] :=
    fun function => responseBasis_eq b req reqLength function
  have head : pduAt b req 0 = req b.headerLength := rfl
  have code : sft.function = (req b.headerLength).toNat := rfl
  have codeOf : ∀ function : Nat, (req b.headerLength).toNat = function → sft.function = function := by
    intro function f
    rw [code, f]
  set echo := copyRequest req (prepareResponseTid b req reqLength).2
  unfold replySwitch Request.decode
  simp only [← backend, head, ← request]
  -- Decoding and the switch test the same codes, so that one split decides both.
  cases functionCase (req b.headerLength).toNat with
  | unknown f =>
      have refused := responseException_eq
        (r := .other (req b.headerLength) (bytesAt (pduAt b req) 1
          (if (req b.headerLength).toNat = 0 then 4 else 0))) basis code
      simp only [knownFunctions, List.mem_cons, List.not_mem_nil, or_false, not_or] at f
      simp only [f, if_false, refused]
      rfl
  | readCoils f =>
      have arm := replyReadBits_eq b sft req header mb ctx.version echo basis false (codeOf _ f)
      simpa [f] using arm
  | readDiscreteInputs f =>
      have arm := replyReadBits_eq b sft req header mb ctx.version echo basis true (codeOf _ f)
      simpa [f] using arm
  | readHoldingRegisters f =>
      have arm := replyReadRegisters_eq b sft req header mb ctx.version echo basis false (codeOf _ f)
      simpa [f] using arm
  | readInputRegisters f =>
      have arm := replyReadRegisters_eq b sft req header mb ctx.version echo basis true (codeOf _ f)
      simpa [f] using arm
  | writeSingleCoil f =>
      have arm := replyWriteSingleCoil_eq b sft req header mb ctx.version basis
        (prepareResponseTid b req reqLength).2 (codeOf _ f)
      simpa [f] using arm
  | writeSingleRegister f =>
      have arm := replyWriteSingleRegister_eq b sft req header mb ctx.version basis
        (prepareResponseTid b req reqLength).2 (codeOf _ f)
      simpa [f] using arm
  | readExceptionStatus f =>
      simp only [f, Request.serve]
      rfl
  | writeMultipleCoils f =>
      have arm := replyWriteMultipleCoils_eq b sft req header mb ctx.version echo basis
        header_length (codeOf _ f)
      simpa [f] using arm
  | writeMultipleRegisters f =>
      have arm := replyWriteMultipleRegisters_eq b sft req header mb ctx.version echo basis
        header_length (codeOf _ f)
      simpa [f] using arm
  | reportSlaveId f =>
      have arm := replyReportSlaveId_eq b sft header mb ctx.version echo basis (codeOf _ f)
      simpa [f] using arm
  | maskWriteRegister f =>
      have arm := replyMaskWriteRegister_eq b sft req header mb ctx.version basis
        (prepareResponseTid b req reqLength).2 (codeOf _ f)
      simpa [f] using arm
  | writeAndReadRegisters f =>
      have arm := replyWriteAndReadRegisters_eq b sft req header mb ctx.version echo basis (codeOf _ f)
      simpa [f] using arm

end ModbusNet
