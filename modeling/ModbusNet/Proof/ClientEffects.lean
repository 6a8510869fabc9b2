import ModbusNet.Proof.ClientRequests
import ModbusNet.Proof.Confirmation

namespace ModbusNet

theorem bitCells_packBits (bits : List Bool) :
    bitCells (ofBytes (packBits bits)) bits.length = bits.map fun b => if b then 1 else 0 := by
  apply List.ext_getElem
  · simp
  · intro k _ bound
    have inside : k < bits.length := by simpa using bound
    simp [bitCells, packBits_bit bits k inside]

theorem bitCells_statusData (cells : List Byte) (binary : ∀ v ∈ cells, v = 0 ∨ v = 1) :
    bitCells (ofBytes (statusData cells)) cells.length = cells := by
  have packed : statusData cells = packBits (cells.map fun v => decide (v ≠ 0)) := by
    rw [statusData, packBits, List.map_map]
    congr 1
    apply List.map_congr_left
    intro v member
    rcases binary v member with rfl | rfl <;> rfl
  have bits := bitCells_packBits (cells.map fun v => decide (v ≠ 0))
  rw [List.length_map, ← packed, List.map_map] at bits
  rw [bits]
  conv_rhs => rw [← List.map_id cells]
  apply List.map_congr_left
  intro v member
  rcases binary v member with rfl | rfl <;> rfl

theorem bitCells_sourceBits (src : Buffer) (nb : Nat) :
    bitCells (ofBytes (packBits (ClientOp.sourceBits src nb))) nb =
      cellsOf (if src · ≠ 0 then 1 else 0) nb := by
  have bits := bitCells_packBits (ClientOp.sourceBits src nb)
  rw [ClientOp.sourceBits, List.length_map, List.length_range, List.map_map] at bits
  rw [ClientOp.sourceBits, bits, cellsOf]
  apply List.map_congr_left
  intro k _
  simp

theorem wordsAt_flatMap (ws : List Word) :
    wordsAt (ofBytes (ws.flatMap wordBytes)) 0 ws.length = ws := by
  apply List.ext_getElem
  · simp
  · intro k _ bound
    simpa [wordsAt, wordAt, ofBytes] using wordOf_getD_flatMap ws k bound

theorem Contains.data {b : Backend} {rsp : Buffer} {function : Nat} {data : List Byte}
    (contains : Contains b rsp (Response.values function data).encode) :
    AgreeBelow data.length (ofBytes data) fun j => rsp (b.headerLength + 2 + j) := by
  intro j bound
  have byte := contains.byte (2 + j) (by simp only [Response.encode, List.length_cons]; omega)
  rw [← Nat.add_assoc, Response.encode, Nat.add_comm 2] at byte
  exact byte.symm

theorem Contains.words {b : Backend} {rsp : Buffer} {function : Nat} {cells : List Word}
    (contains : Contains b rsp (Response.values function (cells.flatMap wordBytes)).encode) :
    wordsAt rsp (b.headerLength + 2) cells.length = cells := by
  have inside : 0 + 2 * cells.length ≤ (cells.flatMap wordBytes).length := by
    rw [wordBytes_flatMap_length]
    omega
  rw [wordsAt_shift, ← contains.data.wordsAt_eq inside, wordsAt_flatMap]

theorem bytesAt_ofBytes_take (bytes : List Byte) (n : Nat) :
    bytesAt (ofBytes bytes) 0 (min bytes.length n) = bytes.take n := by
  apply List.ext_getElem
  · simp [Nat.min_comm]
  · intro k bound _
    have inside : k < bytes.length := by
      rw [bytesAt_length] at bound
      omega
    simp [bytesAt, ofBytes, inside]

theorem copyLoop_eq (rsp : Buffer) (offset left i : Nat) (dest : Buffer) :
    copyLoop rsp offset left i dest = fun k =>
      if i ≤ k ∧ k < i + left then rsp (offset + k) else dest k := by
  induction left generalizing i dest with
  | zero =>
      rw [copyLoop]
      funext k
      rw [if_neg (by omega)]
  | succ left ih =>
      rw [copyLoop, ih]
      funext k
      by_cases first : k = i
      · subst first
        rw [if_neg (by omega), if_pos (by omega), Function.update_self]
      · rw [Function.update_of_ne first]
        by_cases later : i + 1 ≤ k ∧ k < i + 1 + left
        · rw [if_pos later, if_pos (by omega)]
        · rw [if_neg later, if_neg (by omega)]

theorem copyLoop_overlay (rsp : Buffer) (offset n : Nat) (dest : Buffer) :
    copyLoop rsp offset n 0 dest = overlay dest (bytesAt rsp offset n) := by
  rw [copyLoop_eq, bytesAt, overlay_map_range]
  funext k
  congr 1
  rw [eq_iff_iff]
  omega

def ClientOp.Concludes (op : ClientOp) (effect : Effect) (b : Backend) (rsp : Buffer) :
    Except (Errno × Bool) Int → Prop
  | .error (e, recover) => effect.rc = .error (.errno e) ∧ effect.dest = op.dest ∧ recover = false
  | .ok n => effect.rc = .ok (op.returned n) ∧ effect.dest = op.filled b n rsp

def ClientOp.Served (op : ClientOp) (version : VersionString) (mb : ModbusMapping) : Prop :=
  ∃ response, op.request.serve version mb =
      .ok ⟨response, false, (op.effect version mb).mapping⟩ ∧
    op.request.Expected response ∧
    ∀ b rsp, Contains b rsp response.encode →
      op.Concludes (op.effect version mb) b rsp (response.judged op.request)

section
variable {op : ClientOp} {version : VersionString} {mb : ModbusMapping}

theorem served_refused
    (serve : op.request.serve version mb =
      .ok ⟨.exception op.request.function exceptionIllegalDataAddress, false, mb⟩)
    (effect : op.effect version mb = ⟨.error (.errno embxiladd), op.dest, mb⟩) :
    op.Served version mb := by
  refine ⟨.exception op.request.function exceptionIllegalDataAddress, ?_, ⟨rfl, by decide⟩,
    fun b rsp _ => ?_⟩
  · rw [serve, effect]
  · rw [effect]
    exact ⟨rfl, rfl, rfl⟩

theorem served_bits (isInput : Bool) (addr nb : Int) (dest : Buffer) (valid : mb.WellFormed)
    (binary : mb.Binary) (address : AddressInRange addr) (count : CountInRange nb maxReadBits)
    (request : op.request = .readBits isInput (BitVec.ofInt 16 addr) (BitVec.ofInt 16 nb))
    (returned : ∀ rc, op.returned rc = nb)
    (filled : ∀ b rc rsp, op.filled b rc rsp =
      .bytes (unpackLoop rsp nb rc.toNat (b.headerLength + 2) 0 dest))
    (effect : op.effect version mb = if (mb.bits isInput).Covers addr.toNat nb.toNat then
        ⟨.ok nb, .bytes (overlay dest ((mb.bits isInput).cellsAt addr.toNat nb.toNat)), mb⟩
      else ⟨.error (.errno embxiladd), op.dest, mb⟩) : op.Served version mb := by
  obtain ⟨n, rfl⟩ := Int.eq_ofNat_of_zero_le (a := nb) (by have := count.1; omega)
  have small := count.toNat_ofInt (by decide)
  have positive : ¬ (n < 1 ∨ maxReadBits < n) := by
    obtain ⟨low, high⟩ := count
    omega
  rw [Int.toNat_natCast] at small effect
  by_cases covers : (mb.bits isInput).Covers addr.toNat n
  · rw [if_pos covers] at effect
    have found := (valid.bits_sound isInput).read_eq covers
    set cells := (mb.bits isInput).cellsAt addr.toNat n with cells_def
    have length : cells.length = n :=
      slice_length _ _ _ (covers.inside (valid.bits_sound isInput))
    have bits : ∀ v ∈ cells, v = 0 ∨ v = 1 := by
      intro v member
      apply binary v
      have present := List.mem_of_mem_drop (List.mem_of_mem_take member)
      cases isInput
      · exact List.mem_append_left _ present
      · exact List.mem_append_right _ present
    have data_length : (statusData cells).length = byteCount n := by
      rw [statusData, packValues_length, List.length_map, length]
    refine ⟨.values op.request.function (statusData cells), ?_, ?_, fun b rsp contains => ?_⟩
    · rw [effect, request]
      simp only [Request.serve, small, address.toNat_ofInt]
      rw [if_neg positive, if_neg (not_not.mpr covers), found]
      rfl
    · rw [request]
      refine ⟨rfl, ?_, ?_⟩
      · rw [data_length, byteCount_eq]
        simp only [maxReadBits] at positive
        omega
      · change _ = byteCount (BitVec.ofInt 16 n).toNat
        rw [data_length, small]
    · have judged : Response.judged op.request (.values op.request.function (statusData cells)) =
          .ok (byteCount n : Nat) := by
        rw [request, ← data_length]
        rfl
      have decoded : bitCells (fun j => rsp (b.headerLength + 2 + j)) n = cells := by
        rw [← contains.data.bitCells_eq (by rw [data_length, byteCount_eq]; omega), ← length]
        exact bitCells_statusData cells bits
      rw [judged, effect]
      refine ⟨by rw [returned], ?_⟩
      rw [filled, Int.toNat_natCast, unpackLoop_overlay, decoded]
  · apply served_refused
    · rw [request]
      simp only [Request.serve, small, address.toNat_ofInt]
      rw [if_neg positive, if_pos covers]
    · rw [effect, if_neg covers]

theorem concludes_registers {function : Nat} {cells : List Word} {dest : Nat → Word}
    {mapping : ModbusMapping} {b : Backend} {rsp : Buffer}
    (judged : ∀ data : List Byte, Response.judged op.request (.values function data) =
      .ok (data.length / 2 : Nat))
    (returned : ∀ rc, op.returned rc = rc)
    (filled : ∀ b rc rsp, op.filled b rc rsp =
      .words (decodeRegistersLoop rsp b.headerLength rc.toNat 0 dest))
    (effect : op.effect version mb = ⟨.ok cells.length, .words (overlay dest cells), mapping⟩)
    (contains : Contains b rsp (Response.values function (cells.flatMap wordBytes)).encode) :
    op.Concludes (op.effect version mb) b rsp
      (Response.judged op.request (.values function (cells.flatMap wordBytes))) := by
  rw [judged, effect, wordBytes_flatMap_length, Nat.mul_div_cancel_left _ (by decide)]
  refine ⟨by rw [returned], ?_⟩
  rw [filled, Int.toNat_natCast, decodeRegistersLoop_overlay, contains.words]

theorem Request.serve_readRegisters {isInput : Bool} {address nb : Word} (valid : mb.WellFormed)
    (inside : ¬ (nb.toNat < 1 ∨ maxReadRegisters < nb.toNat))
    (covers : (mb.registers isInput).Covers address.toNat nb.toNat) :
    (Request.readRegisters isInput address nb).serve version mb =
      .ok ⟨.values (Request.readRegisters isInput address nb).function
        (((mb.registers isInput).cellsAt address.toNat nb.toNat).flatMap wordBytes), false, mb⟩ := by
  simp only [Request.serve]
  rw [if_neg inside, if_neg (not_not.mpr covers), (valid.registers_sound isInput).read_eq covers]
  rfl

theorem served_registers (isInput : Bool) (addr nb : Int) (dest : Nat → Word)
    (valid : mb.WellFormed) (address : AddressInRange addr)
    (count : CountInRange nb maxReadRegisters)
    (request : op.request = .readRegisters isInput (BitVec.ofInt 16 addr) (BitVec.ofInt 16 nb))
    (returned : ∀ rc, op.returned rc = rc)
    (filled : ∀ b rc rsp, op.filled b rc rsp =
      .words (decodeRegistersLoop rsp b.headerLength rc.toNat 0 dest))
    (effect : op.effect version mb = if (mb.registers isInput).Covers addr.toNat nb.toNat then
        ⟨.ok nb, .words (overlay dest ((mb.registers isInput).cellsAt addr.toNat nb.toNat)), mb⟩
      else ⟨.error (.errno embxiladd), op.dest, mb⟩) : op.Served version mb := by
  obtain ⟨n, rfl⟩ := Int.eq_ofNat_of_zero_le (a := nb) (by have := count.1; omega)
  have small := count.toNat_ofInt (by decide)
  have positive : ¬ (n < 1 ∨ maxReadRegisters < n) := by
    obtain ⟨low, high⟩ := count
    omega
  rw [Int.toNat_natCast] at small effect
  by_cases covers : (mb.registers isInput).Covers addr.toNat n
  · rw [if_pos covers] at effect
    set cells := (mb.registers isInput).cellsAt addr.toNat n with cells_def
    have length : cells.length = n :=
      slice_length _ _ _ (covers.inside (valid.registers_sound isInput))
    refine ⟨.values op.request.function (cells.flatMap wordBytes), ?_, ?_, fun b rsp contains => ?_⟩
    · rw [← small, ← address.toNat_ofInt] at covers
      rw [effect, request, cells_def, Request.serve_readRegisters valid (by rwa [small]) covers, small,
        address.toNat_ofInt]
    · rw [request]
      refine ⟨rfl, ?_, ?_⟩
      · rw [wordBytes_flatMap_length, length]
        simp only [maxReadRegisters] at positive
        omega
      · change _ = 2 * (BitVec.ofInt 16 n).toNat
        rw [wordBytes_flatMap_length, length, small]
    · refine concludes_registers (fun _ => ?_) returned filled (by rw [effect, length]) contains
      rw [request]
      rfl
  · apply served_refused
    · rw [request]
      simp only [Request.serve, small, address.toNat_ofInt]
      rw [if_neg positive, if_pos covers]
    · rw [effect, if_neg covers]

theorem served_written (response : Response) {mapping : ModbusMapping} {n : Int}
    (serve : op.request.serve version mb = .ok ⟨response, false, mapping⟩)
    (expected : op.request.Expected response) (judged : response.judged op.request = .ok n)
    (effect : op.effect version mb = ⟨.ok n, .none, mapping⟩) (returned : op.returned n = n)
    (filled : ∀ b rc rsp, op.filled b rc rsp = .none) : op.Served version mb := by
  refine ⟨response, ?_, expected, fun b rsp _ => ?_⟩
  · rw [serve, effect]
  · rw [judged, effect]
    exact ⟨by rw [returned], (filled b n rsp).symm⟩

theorem ClientOp.served_writeAndReadRegisters {writeAddr writeNb readAddr readNb : Int}
    {src dest : Nat → Word}
    (inRange : (ClientOp.writeAndReadRegisters writeAddr writeNb src readAddr readNb dest).InRange)
    (valid : mb.WellFormed) :
    (ClientOp.writeAndReadRegisters writeAddr writeNb src readAddr readNb dest).Served version mb := by
  obtain ⟨⟨writeAddressed, writeCount⟩, readAddressed, readCount⟩ := inRange
  obtain ⟨n, rfl⟩ := Int.eq_ofNat_of_zero_le (a := readNb) (by have := readCount.1; omega)
  obtain ⟨m, rfl⟩ := Int.eq_ofNat_of_zero_le (a := writeNb) (by have := writeCount.1; omega)
  have address := readAddressed.toNat_ofInt
  have writeAddress := writeAddressed.toNat_ofInt
  have small : (BitVec.ofInt 16 n).toNat = n := readCount.toNat_ofInt (by decide)
  have writeSmall : (BitVec.ofInt 16 m).toNat = m := writeCount.toNat_ofInt (by decide)
  have fits : ¬ (m < 1 ∨ maxWrWriteRegisters < m ∨ n < 1 ∨ maxWrReadRegisters < n ∨
      2 * m ≠ m * 2) := by
    obtain ⟨low, high⟩ := readCount
    obtain ⟨low', high'⟩ := writeCount
    omega
  have words := wordsAt_flatMap (cellsOf src m)
  rw [cellsOf_length] at words
  by_cases covers : mb.holdingRegisters.Covers readAddr.toNat n ∧
      mb.holdingRegisters.Covers writeAddr.toNat m
  · obtain ⟨read, written⟩ := covers
    have write : mb.holdingRegisters.Covers writeAddr.toNat (cellsOf src m).length := by
      rw [cellsOf_length]
      exact written
    have stored := valid.holding_sound.write_eq _ write
    have later := valid.set_registers (valid.holding_sound.store_length _ write)
    set mapping : ModbusMapping := { mb with
      tabRegisters := mb.holdingRegisters.replaced writeAddr.toNat (cellsOf src m) }
    have inside : mapping.holdingRegisters.Covers readAddr.toNat n := read
    have found := (show mapping.WellFormed from later).holding_sound.read_eq inside
    set cells := mapping.holdingRegisters.cellsAt readAddr.toNat n
    have length : cells.length = n := Table.read_length found
    have effect : effect version mb (.writeAndReadRegisters writeAddr m src readAddr n dest) =
        ⟨.ok n, .words (overlay dest cells), mapping⟩ := if_pos ⟨read, written⟩
    refine ⟨.values fcWriteAndReadRegisters (cells.flatMap wordBytes), ?_, ⟨rfl, ?_, ?_⟩,
      fun b rsp contains => ?_⟩
    · rw [effect]
      simp only [request, Request.serve, address, writeAddress, small, writeSmall,
        Int.toNat_natCast, wordBytes_flatMap_length, cellsOf_length, words]
      rw [if_neg fits, if_neg (not_not.mpr ⟨read, written⟩), stored, Option.bind_eq_bind,
        Option.bind_some]
      change access (mapping.holdingRegisters.read readAddr.toNat n >>= _) _ = _
      rw [found]
      rfl
    · rw [wordBytes_flatMap_length, length]
      simp only [maxWrReadRegisters] at fits
      omega
    · change _ = 2 * (BitVec.ofInt 16 n).toNat
      rw [wordBytes_flatMap_length, length, small]
    · exact concludes_registers (fun _ => rfl) (fun _ => rfl) (fun _ _ _ => rfl)
        (by rw [effect, length]) contains
  · apply served_refused
    · simp only [request, Request.serve, address, writeAddress, small, writeSmall,
        Int.toNat_natCast, wordBytes_flatMap_length, cellsOf_length]
      rw [if_neg fits, if_pos covers]
    · exact if_neg covers

theorem ClientOp.served_reportSlaveId (version : VersionString) (maxDest : Int) (dest : Buffer) :
    (ClientOp.reportSlaveId maxDest dest).Served version mb := by
  have short : (slaveIdData version).length < 256 := by
    have := version.property
    simp only [slaveIdData, List.length_append, List.length_cons, List.length_nil]
    omega
  refine ⟨.values fcReportSlaveId (slaveIdData version), rfl, ⟨rfl, short, trivial⟩,
    fun b rsp contains => ⟨rfl, ?_⟩⟩
  have asked : (min ((slaveIdData version).length : Int) maxDest).toNat =
      min (slaveIdData version).length maxDest.toNat := by
    omega
  have copied : bytesAt rsp (b.headerLength + 2) (min (slaveIdData version).length maxDest.toNat) =
      (slaveIdData version).take maxDest.toNat := by
    rw [← bytesAt_ofBytes_take]
    apply List.map_congr_left
    intro j member
    have := List.mem_range.mp member
    rw [Nat.zero_add]
    exact (contains.data j (by omega)).symm
  change Dest.bytes _ = Dest.bytes (copyLoop rsp (b.headerLength + 2)
    (min ((slaveIdData version).length : Int) maxDest).toNat 0 dest)
  rw [asked, copyLoop_overlay, copied]

theorem ClientOp.served (version : VersionString) (op : ClientOp) (inRange : op.InRange)
    (valid : mb.WellFormed) (binary : op.ReadsBits → mb.Binary) : op.Served version mb := by
  cases op with
  | readBits addr nb dest =>
      exact served_bits false addr nb dest valid (binary trivial) inRange.1 inRange.2 rfl (fun _ => rfl)
        (fun _ _ _ => rfl) rfl
  | readInputBits addr nb dest =>
      exact served_bits true addr nb dest valid (binary trivial) inRange.1 inRange.2 rfl (fun _ => rfl)
        (fun _ _ _ => rfl) rfl
  | readRegisters addr nb dest =>
      exact served_registers false addr nb dest valid inRange.1 inRange.2 rfl (fun _ => rfl)
        (fun _ _ _ => rfl) rfl
  | readInputRegisters addr nb dest =>
      exact served_registers true addr nb dest valid inRange.1 inRange.2 rfl (fun _ => rfl)
        (fun _ _ _ => rfl) rfl
  | writeBit addr status =>
      have address : (BitVec.ofInt 16 addr).toNat = addr.toNat := inRange.toNat_ofInt
      by_cases covers : mb.coils.Covers addr.toNat 1
      · have known : (if status ≠ 0 then 0xFF00 else 0 : Word).toNat = 0xFF00 ∨
            (if status ≠ 0 then 0xFF00 else 0 : Word).toNat = 0 := by
          split <;> decide
        have stored : (if (if status ≠ 0 then 0xFF00 else 0 : Word).toNat ≠ 0 then 1 else 0 : Byte) =
            if status ≠ 0 then 1 else 0 := by
          split <;> rfl
        refine served_written (.echo _) ?_ ⟨rfl, trivial⟩ rfl (if_pos covers) rfl
          fun _ _ _ => rfl
        simp only [request, Request.serve, address]
        rw [if_neg (not_not.mpr covers), if_pos known, stored, valid.coils_sound.write_eq [_] covers]
        rfl
      · apply served_refused
        · simp only [request, Request.serve, address]
          rw [if_pos covers]
        · exact if_neg covers
  | writeRegister addr value =>
      have address : (BitVec.ofInt 16 addr).toNat = addr.toNat := inRange.toNat_ofInt
      by_cases covers : mb.holdingRegisters.Covers addr.toNat 1
      · refine served_written (.echo _) ?_ ⟨rfl, trivial⟩ rfl (if_pos covers) rfl
          fun _ _ _ => rfl
        simp only [request, Request.serve, address]
        rw [if_neg (not_not.mpr covers), valid.holding_sound.write_eq [value] covers]
        rfl
      · apply served_refused
        · simp only [request, Request.serve, address]
          rw [if_pos covers]
        · exact if_neg covers
  | writeBits addr nb src =>
      obtain ⟨addressed, count⟩ := inRange
      obtain ⟨n, rfl⟩ := Int.eq_ofNat_of_zero_le (a := nb) (by have := count.1; omega)
      have address := addressed.toNat_ofInt
      have small : (BitVec.ofInt 16 n).toNat = n := count.toNat_ofInt (by decide)
      have fits : ¬ (n < 1 ∨ maxWriteBits < n ∨ byteCount n * 8 < n) := by
        obtain ⟨low, high⟩ := count
        rw [byteCount_eq]
        omega
      have length : (packBits (sourceBits src n)).length = byteCount n := by simp [sourceBits]
      by_cases covers : mb.coils.Covers addr.toNat n
      · refine served_written (.written fcWriteMultipleCoils (BitVec.ofInt 16 addr)
          (BitVec.ofInt 16 n)) ?_ ⟨rfl, rfl, rfl⟩ ?_ (if_pos covers) rfl fun _ _ _ => rfl
        · simp only [request, Request.serve, address, small, Int.toNat_natCast, length]
          rw [if_neg fits, if_neg (not_not.mpr covers), bitCells_sourceBits,
            valid.coils_sound.write_eq _ (by rw [cellsOf_length]; exact covers)]
          rfl
        · exact congrArg _ (congrArg _ small)
      · apply served_refused
        · simp only [request, Request.serve, address, small, Int.toNat_natCast, length]
          rw [if_neg fits, if_pos covers]
        · exact if_neg covers
  | writeRegisters addr nb src =>
      obtain ⟨addressed, count⟩ := inRange
      obtain ⟨n, rfl⟩ := Int.eq_ofNat_of_zero_le (a := nb) (by have := count.1; omega)
      have address := addressed.toNat_ofInt
      have small : (BitVec.ofInt 16 n).toNat = n := count.toNat_ofInt (by decide)
      have fits : ¬ (n < 1 ∨ maxWriteRegisters < n ∨ 2 * n ≠ n * 2) := by
        obtain ⟨low, high⟩ := count
        omega
      have words := wordsAt_flatMap (cellsOf src n)
      rw [cellsOf_length] at words
      by_cases covers : mb.holdingRegisters.Covers addr.toNat n
      · refine served_written (.written fcWriteMultipleRegisters (BitVec.ofInt 16 addr)
          (BitVec.ofInt 16 n)) ?_ ⟨rfl, rfl, rfl⟩ ?_ (if_pos covers) rfl fun _ _ _ => rfl
        · simp only [request, Request.serve, address, small, Int.toNat_natCast,
            wordBytes_flatMap_length, cellsOf_length, words]
          rw [if_neg fits, if_neg (not_not.mpr covers),
            valid.holding_sound.write_eq _ (by rw [cellsOf_length]; exact covers)]
          rfl
        · exact congrArg _ (congrArg _ small)
      · apply served_refused
        · simp only [request, Request.serve, address, small, Int.toNat_natCast,
            wordBytes_flatMap_length, cellsOf_length]
          rw [if_neg fits, if_pos covers]
        · exact if_neg covers
  | maskWriteRegister addr andMask orMask =>
      have address : (BitVec.ofInt 16 addr).toNat = addr.toNat := inRange.toNat_ofInt
      by_cases covers : mb.holdingRegisters.Covers addr.toNat 1
      · have found := valid.holding_sound.read_eq covers
        have length : (mb.holdingRegisters.cellsAt addr.toNat 1).length = 1 :=
          slice_length _ _ _ (covers.inside valid.holding_sound)
        refine served_written (.echo _) ?_ ⟨rfl, trivial⟩ rfl (if_pos covers) rfl
          fun _ _ _ => rfl
        simp only [request, Request.serve, address]
        rw [if_neg (not_not.mpr covers), found, Option.bind_eq_bind, Option.bind_some,
          valid.holding_sound.write_eq _ (by rw [List.length_map]; exact length.symm ▸ covers)]
        rfl
      · apply served_refused
        · simp only [request, Request.serve, address]
          rw [if_pos covers]
        · exact if_neg covers
  | writeAndReadRegisters writeAddr writeNb src readAddr readNb dest =>
      exact served_writeAndReadRegisters inRange valid
  | reportSlaveId maxDest dest => exact served_reportSlaveId version maxDest dest

theorem ClientOp.request_known (op : ClientOp) : op.request.function ∈ knownFunctions := by
  cases op <;> simp [request, Request.function, readBitsFunction, readRegistersFunction, knownFunctions]

theorem ClientOp.effect_wellFormed (version : VersionString) (op : ClientOp) (inRange : op.InRange)
    (valid : mb.WellFormed) (binary : op.ReadsBits → mb.Binary) :
    (op.effect version mb).mapping.WellFormed := by
  obtain ⟨response, served, -⟩ := op.served version inRange valid binary
  have defined := Request.serve_defined version mb valid op.request
  rw [served] at defined
  exact defined

theorem binary_replaced (address : Nat) (values : List Byte) (binary : mb.Binary)
    (bits : ∀ v ∈ values, v = 0 ∨ v = 1) :
    ({ mb with tabBits := mb.coils.replaced address values } : ModbusMapping).Binary := by
  intro v member
  rcases List.mem_append.mp member with coil | input
  · rcases mem_store coil with old | new
    · exact binary v (List.mem_append_left _ old)
    · exact bits v new
  · exact binary v (List.mem_append_right _ input)

theorem ClientOp.effect_binary (version : VersionString) (op : ClientOp) (binary : mb.Binary) :
    (op.effect version mb).mapping.Binary := by
  cases op with
  | writeBit addr status =>
      simp only [effect]
      split
      · refine binary_replaced _ _ binary fun v member => ?_
        rw [List.mem_singleton.mp member]
        exact bit_binary _
      · exact binary
  | writeBits addr nb src =>
      simp only [effect]
      split
      · refine binary_replaced _ _ binary fun v member => ?_
        obtain ⟨k, -, rfl⟩ := List.mem_map.mp member
        exact bit_binary _
      · exact binary
  | reportSlaveId => exact binary
  | _ =>
      simp only [effect]
      split <;> exact binary

end

end ModbusNet
