import ModbusNet.Proof.Answers

namespace ModbusNet

namespace ClientOp

def fields : ClientOp → List (Nat × Int)
  | .readBits addr nb _ | .readInputBits addr nb _ | .readRegisters addr nb _
  | .readInputRegisters addr nb _ | .writeBits addr nb _ | .writeRegisters addr nb _ =>
      [(1, addr), (3, nb)]
  | .writeBit addr _ | .writeRegister addr _ | .maskWriteRegister addr _ _ => [(1, addr)]
  | .writeAndReadRegisters writeAddr writeNb _ readAddr readNb _ =>
      [(1, readAddr), (3, readNb), (5, writeAddr), (7, writeNb)]
  | .reportSlaveId _ _ => []

def counted : ClientOp → Option (Nat × Int)
  | .writeBits _ nb _ | .writeRegisters _ nb _ => some (5, nb)
  | .writeAndReadRegisters _ writeNb _ _ _ _ => some (9, writeNb)
  | _ => none

structure Faithful (op : ClientOp) (b : Backend) (frame : List Byte) : Prop where
  fields : ∀ i x, (i, x) ∈ op.fields → (be16 (ofBytes frame) (b.headerLength + i) : Int) = x
  count : ∀ i nb, op.counted = some (i, nb) →
    b.headerLength + i + 1 + (ofBytes frame (b.headerLength + i)).toNat + b.checksumLength = frame.length

/-- The fields of a frame are the integers modulo 65536, and for a count that is not negative the byte
count is the number of bytes behind it. -/
structure Encoded (op : ClientOp) (b : Backend) (frame : List Byte) : Prop where
  fields : ∀ i x, (i, x) ∈ op.fields →
    (be16 (ofBytes frame) (b.headerLength + i) : Int) = x % 65536
  count : ∀ i nb, op.counted = some (i, nb) → 0 ≤ nb →
    b.headerLength + i + 1 + (ofBytes frame (b.headerLength + i)).toNat + b.checksumLength = frame.length

theorem Encoded.faithful {op : ClientOp} {b : Backend} {frame : List Byte}
    (encoded : op.Encoded b frame) (words : ∀ i x, (i, x) ∈ op.fields → 0 ≤ x ∧ x ≤ 65535)
    (counts : ∀ i nb, op.counted = some (i, nb) → 0 ≤ nb) : op.Faithful b frame where
  fields := by
    intro i x member
    have := words i x member
    rw [encoded.fields i x member]
    omega
  count := fun i nb place => encoded.count i nb place (counts i nb place)

theorem field_at (front back : List Byte) (x : Int) :
    (be16 (ofBytes (front ++ (wordBytes (BitVec.ofInt 16 x) ++ back))) front.length : Int) =
        x % 65536 ∧ front.length + 1 < (front ++ (wordBytes (BitVec.ofInt 16 x) ++ back)).length := by
  constructor
  · have hi := ofBytes_append_right front (wordBytes (BitVec.ofInt 16 x) ++ back) 0
    have lo := ofBytes_append_right front (wordBytes (BitVec.ofInt 16 x) ++ back) 1
    rw [Nat.add_zero] at hi
    rw [be16, hi, lo, wordBytes_ofInt, ← beWord_bytes x]
    rfl
  · simp only [List.length_append, wordBytes_length]
    omega

theorem pdu_fields (op : ClientOp) (i : Nat) (x : Int) (member : (i, x) ∈ op.fields) :
    (be16 (ofBytes op.pdu) i : Int) = x % 65536 ∧ i + 1 < op.pdu.length := by
  have two : ∀ {function : Byte} {addr nb : Int} {back : List Byte},
      (i, x) ∈ [(1, addr), (3, nb)] → op.pdu = function :: (wordBytes (BitVec.ofInt 16 addr) ++
        (wordBytes (BitVec.ofInt 16 nb) ++ back)) →
      (be16 (ofBytes op.pdu) i : Int) = x % 65536 ∧ i + 1 < op.pdu.length := by
    intro function addr nb back either sent
    rw [sent]
    rcases List.mem_cons.mp either with first | second
    · obtain ⟨rfl, rfl⟩ := Prod.mk.inj first
      exact field_at [function] _ _
    · obtain ⟨rfl, rfl⟩ := Prod.mk.inj (List.mem_singleton.mp second)
      exact field_at (function :: wordBytes (BitVec.ofInt 16 addr)) back _
  have one : ∀ {function : Byte} {addr : Int} {back : List Byte}, (i, x) ∈ [(1, addr)] →
      op.pdu = function :: (wordBytes (BitVec.ofInt 16 addr) ++ back) →
      (be16 (ofBytes op.pdu) i : Int) = x % 65536 ∧ i + 1 < op.pdu.length := by
    intro function addr back only sent
    rw [sent]
    obtain ⟨rfl, rfl⟩ := Prod.mk.inj (List.mem_singleton.mp only)
    exact field_at [function] back _
  cases op with
  | readBits => exact two member rfl
  | readInputBits => exact two member rfl
  | readRegisters => exact two member rfl
  | readInputRegisters => exact two member rfl
  | writeBit => exact one member rfl
  | writeRegister => exact one member rfl
  | writeBits => exact two member rfl
  | writeRegisters => exact two member rfl
  | maskWriteRegister => exact one member rfl
  | writeAndReadRegisters writeAddr writeNb src readAddr readNb dest =>
      rw [fields] at member
      rcases List.mem_cons.mp member with first | more
      · exact two (List.mem_cons.mpr (.inl first)) rfl
      · rcases List.mem_cons.mp more with second | more
        · exact two (List.mem_cons_of_mem _ (List.mem_singleton.mpr second)) rfl
        · have written : [hiByte writeAddr, loByte writeAddr, hiByte writeNb, loByte writeNb,
              loByte (writeNb * 2)] = wordBytes (BitVec.ofInt 16 writeAddr) ++
                (wordBytes (BitVec.ofInt 16 writeNb) ++ [loByte (writeNb * 2)]) := by
            rw [wordBytes_ofInt, wordBytes_ofInt]
            rfl
          rw [pdu, written]
          simp only [List.mem_cons, List.not_mem_nil, or_false, Prod.mk.injEq] at more
          rcases more with ⟨rfl, rfl⟩ | ⟨rfl, rfl⟩
          · exact field_at (loByte fcWriteAndReadRegisters :: (wordBytes (BitVec.ofInt 16 readAddr) ++
              wordBytes (BitVec.ofInt 16 readNb))) _ _
          · exact field_at (loByte fcWriteAndReadRegisters :: (wordBytes (BitVec.ofInt 16 readAddr) ++
              wordBytes (BitVec.ofInt 16 readNb) ++ wordBytes (BitVec.ofInt 16 writeAddr))) _ _
  | reportSlaveId => cases member

theorem count_at (front data : List Byte) (count : Int) (pos : 0 ≤ count) (small : count < 256)
    (length : data.length = count.toNat) :
    front.length + 1 + (ofBytes (front ++ ([loByte count] ++ data)) front.length).toNat =
      (front ++ ([loByte count] ++ data)).length := by
  have byte := ofBytes_append_right front ([loByte count] ++ data) 0
  have value : (loByte count).toNat = count.toNat := by
    simp only [loByte, BitVec.toNat_ofInt]
    omega
  rw [Nat.add_zero] at byte
  rw [byte, List.length_append, List.length_append, length]
  change front.length + 1 + (loByte count).toNat = front.length + (1 + count.toNat)
  rw [value]
  omega

theorem registers_length (src : Nat → Word) (nb : Int) (pos : 0 ≤ nb) :
    ((cellsOf src nb.toNat).flatMap wordBytes).length = (nb * 2).toNat := by
  rw [wordBytes_flatMap_length, cellsOf_length]
  omega

theorem pdu_count (op : ClientOp) (accepted : op.refusal = none) (i : Nat) (nb : Int)
    (place : op.counted = some (i, nb)) (pos : 0 ≤ nb) :
    i + 1 + (ofBytes op.pdu i).toNat = op.pdu.length := by
  cases op with
  | writeBits addr nb' src =>
      obtain ⟨rfl, rfl⟩ := Prod.mk.inj (Option.some.inj place)
      have limit : nb' ≤ maxWriteBits := not_lt.mp (not_of_ite_none accepted)
      have bytes : 0 ≤ writeBitsByteCount nb' ∧ writeBitsByteCount nb' < 256 := by
        rw [writeBitsByteCount, Int.tdiv_eq_ediv_of_nonneg pos, Int.tmod_eq_emod_of_nonneg pos]
        simp only [maxWriteBits] at limit
        split <;> omega
      exact count_at (loByte fcWriteMultipleCoils ::
        (wordBytes (BitVec.ofInt 16 addr) ++ wordBytes (BitVec.ofInt 16 nb'))) _ _ bytes.1 bytes.2
        ((packBytesLoop_length _ _ _ _ _ _).trans (Nat.zero_add _))
  | writeRegisters addr nb' src =>
      obtain ⟨rfl, rfl⟩ := Prod.mk.inj (Option.some.inj place)
      have limit : nb' ≤ maxWriteRegisters := not_lt.mp (not_of_ite_none accepted)
      simp only [maxWriteRegisters] at limit
      exact count_at (loByte fcWriteMultipleRegisters ::
        (wordBytes (BitVec.ofInt 16 addr) ++ wordBytes (BitVec.ofInt 16 nb'))) _ _ (by omega) (by omega)
        (registers_length src nb' pos)
  | writeAndReadRegisters writeAddr writeNb src readAddr readNb dest =>
      obtain ⟨rfl, rfl⟩ := Prod.mk.inj (Option.some.inj place)
      have limit : writeNb ≤ maxWrWriteRegisters := not_lt.mp fun exceeds =>
        not_of_ite_none accepted (.inl exceeds)
      simp only [maxWrWriteRegisters] at limit
      exact count_at (loByte fcWriteAndReadRegisters :: (wordBytes (BitVec.ofInt 16 readAddr) ++
        wordBytes (BitVec.ofInt 16 readNb) ++
          [hiByte writeAddr, loByte writeAddr, hiByte writeNb, loByte writeNb])) _ _ (by omega)
        (by omega) (registers_length src writeNb pos)
  | _ => cases place

theorem sent_carries (op : ClientOp) (ctx : Ctx) :
    Carries ctx.backend (sendMsgPre ctx.backend (requestHeader ctx.nextRequest ++ op.pdu)) op.pdu :=
  sendMsgPre_carries ctx.backend _ _ (by rw [requestHeader_length, nextRequest_backend])

theorem run_encoded (op : ClientOp) (c : Conn (Line Log)) :
    ((∃ e, (op.run logDevice c).1 = .error (.errno e)) ∧ c.sent (op.run logDevice c).2.2 = []) ∨
      ∃ frame, c.sent (op.run logDevice c).2.2 = [frame] ∧ op.Encoded c.ctx.backend frame := by
  rcases op.run_sends logDevice c with ⟨e, -, refused⟩ | ⟨accepted, -⟩
  · rw [refused]
    exact .inl ⟨⟨e, rfl⟩, Conn.sent_append (List.append_nil _).symm⟩
  · have carries := op.sent_carries c.ctx
    set frame := sendMsgPre c.ctx.backend (requestHeader c.ctx.nextRequest ++ op.pdu)
    have contains : Contains c.ctx.backend (ofBytes frame) op.pdu := carries.contains fun _ _ => rfl
    refine .inr ⟨frame, op.run_sent c accepted, ⟨fun i x member => ?_, fun i nb place pos => ?_⟩⟩
    · obtain ⟨field, inside⟩ := op.pdu_fields i x member
      rw [contains.word i inside, field]
    · have counts := op.pdu_count accepted i nb place pos
      rw [contains.byte i (by omega), carries.length]
      omega

theorem wrapped_arguments :
    let c : Conn (Line Log) := .established newTcp []
    let read : ClientOp := .readRegisters 65536 1 fun _ => 0
    let write : ClientOp := .writeBits 0 (-8) fun _ => 0
    (c.sent (read.run logDevice c).2.2 = [[0, 1, 0, 0, 0, 6, 0xFF, 0x03, 0, 0, 0, 1]] ∧
        ¬ read.Faithful .tcp [0, 1, 0, 0, 0, 6, 0xFF, 0x03, 0, 0, 0, 1]) ∧
      c.sent (write.run logDevice c).2.2 = [[0, 1, 0, 0, 0, 7, 0xFF, 0x0F, 0, 0, 0xFF, 0xF8, 0xFF]] ∧
        ¬ write.Faithful .tcp [0, 1, 0, 0, 0, 7, 0xFF, 0x0F, 0, 0, 0xFF, 0xF8, 0xFF] := by
  refine ⟨⟨by decide +kernel, fun faithful => ?_⟩, by decide +kernel, fun faithful => ?_⟩
  · exact absurd (faithful.fields 1 65536 List.mem_cons_self) (by decide)
  · exact absurd (faithful.count 5 (-8) rfl) (by decide)

end ClientOp
end ModbusNet
