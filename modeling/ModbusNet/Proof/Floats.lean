import ModbusNet.Library.Parts
import ModbusNet.Model.Floats
import ModbusNet.Proof.ClientEncoding
import ModbusNet.Proof.EndToEnd

namespace ModbusNet

theorem masked_byte {w : Nat} (x : BitVec w) (k : Nat) (wide : 8 ≤ w) :
    (x >>> k &&& 0xFF).setWidth 8 = x.extractLsb' k 8 := by
  apply BitVec.eq_of_getLsbD_eq
  intro j bound
  have all : BitVec.getLsbD (0xFF : BitVec w) j = true := by
    change (BitVec.ofNat w (2 ^ 8 - 1)).getLsbD j = true
    have inside : j < w := by omega
    rw [BitVec.getLsbD_ofNat, Nat.testBit_two_pow_sub_one, decide_eq_true inside,
      decide_eq_true bound, Bool.true_and]
  rw [BitVec.getLsbD_setWidth, BitVec.getLsbD_and, BitVec.getLsbD_ushiftRight, all,
    BitVec.getLsbD_extractLsb', Bool.and_true]

def patternByte (f : BitVec 32) (k : Nat) : Byte := f.extractLsb' (8 * k) 8

theorem floatBytes_eq (f : BitVec 32) :
    floatBytes f = ⟨patternByte f 3, patternByte f 2, patternByte f 1, patternByte f 0⟩ := by
  simp only [floatBytes, masked_byte f _ (show 8 ≤ 32 by decide), patternByte]

theorem joinBytes_patternByte (f : BitVec 32) :
    joinBytes (patternByte f 3) (patternByte f 2) (patternByte f 1) (patternByte f 0) = f := by
  have parts : PartsOf f (patternByte f) 4 := fun _ _ => rfl
  have joined := joinParts_setWidth (by decide) (by decide) parts
  simpa [joinBytes, joinParts, BitVec.or_assoc] using joined

theorem registerBytes_words (dest : Nat → Word) (p q r s : Byte) :
    registerBytes (overlay dest [wordOf p q, wordOf r s]) = ⟨p, q, r, s⟩ := by
  have high : ∀ x y, (wordOf x y).extractLsb' 8 8 = x := by
    intro x y
    apply BitVec.eq_of_toNat_eq
    have := wordOf_toNat x y
    simp only [BitVec.extractLsb'_toNat, this, beWord, Nat.shiftRight_eq_div_pow]
    omega
  have low : ∀ x y, (wordOf x y).extractLsb' 0 8 = y := by
    intro x y
    apply BitVec.eq_of_toNat_eq
    have := wordOf_toNat x y
    simp only [BitVec.extractLsb'_toNat, this, beWord, Nat.shiftRight_eq_div_pow]
    omega
  simp only [registerBytes, masked_byte _ _ (show 8 ≤ 16 by decide)]
  simp [overlay, high, low]

/-- The two upper bytes are equal, and so are the two lower ones. -/
def EqualPairs (f : BitVec 32) : Prop :=
  patternByte f 3 = patternByte f 2 ∧ patternByte f 1 = patternByte f 0

namespace FloatOrder

def bytes : FloatOrder → BitVec 32 → List Byte
  | .abcd, f => [patternByte f 3, patternByte f 2, patternByte f 1, patternByte f 0]
  | .dcba, f => [patternByte f 0, patternByte f 1, patternByte f 2, patternByte f 3]
  | .badc, f => [patternByte f 2, patternByte f 3, patternByte f 0, patternByte f 1]
  | .cdab, f => [patternByte f 1, patternByte f 0, patternByte f 3, patternByte f 2]

/-- The setter of a format stores the bytes in the order of its name, and its getter expects this
order in the words. -/
theorem bytes_spec (order : FloatOrder) (f : BitVec 32) : ∃ p q r s, order.bytes f = [p, q, r, s] ∧
    (p = q ∧ r = s ↔ EqualPairs f) ∧
    (∀ host tab, cellsOf (order.set host f tab) 2 = [host.word p q, host.word r s]) ∧
    ∀ tab, order.get (overlay tab [wordOf p q, wordOf r s]) = f := by
  cases order with
  | abcd =>
      refine ⟨_, _, _, _, rfl, Iff.rfl, fun host tab => ?_, fun tab => ?_⟩
      · rw [set, modbusSetFloatAbcd, floatBytes_eq]
        rfl
      · simp only [get, modbusGetFloatAbcd, registerBytes_words, joinBytes_patternByte]
  | dcba =>
      refine ⟨_, _, _, _, rfl, ?_, fun host tab => ?_, fun tab => ?_⟩
      · rw [EqualPairs, eq_comm, @eq_comm _ (patternByte f 2)]
        exact and_comm
      · rw [set, modbusSetFloatDcba, floatBytes_eq]
        rfl
      · simp only [get, modbusGetFloatDcba, registerBytes_words, joinBytes_patternByte]
  | badc =>
      refine ⟨_, _, _, _, rfl, ?_, fun host tab => ?_, fun tab => ?_⟩
      · rw [EqualPairs, eq_comm, @eq_comm _ (patternByte f 0)]
      · rw [set, modbusSetFloatBadc, floatBytes_eq]
        rfl
      · simp only [get, modbusGetFloatBadc, registerBytes_words, joinBytes_patternByte]
  | cdab =>
      refine ⟨_, _, _, _, rfl, and_comm, fun host tab => ?_, fun tab => ?_⟩
      · rw [set, modbusSetFloatCdab, floatBytes_eq]
        rfl
      · simp only [get, modbusGetFloatCdab, registerBytes_words, joinBytes_patternByte]

theorem sent_iff (order : FloatOrder) (host : HostOrder) (f : BitVec 32) (tab : Nat → Word) :
    (cellsOf (order.set host f tab) 2).flatMap wordBytes = order.bytes f ↔
      host = .big ∨ EqualPairs f := by
  obtain ⟨p, q, r, s, bytes, pairs, stored, -⟩ := order.bytes_spec f
  rw [stored, bytes, ← pairs]
  cases host with
  | big => exact iff_of_true (by simp [HostOrder.word, wordBytes_wordOf]) (.inl rfl)
  -- Words are sent high byte first, and here the first byte stored is the low one.
  | little =>
      simp only [HostOrder.word, List.flatMap_cons, List.flatMap_nil, wordBytes_wordOf,
        List.cons_append, List.nil_append, List.cons.injEq, and_true, reduceCtorEq, false_or]
      constructor
      · rintro ⟨same, -, same', -⟩
        exact ⟨same.symm, same'.symm⟩
      · rintro ⟨rfl, rfl⟩
        exact ⟨rfl, rfl, rfl, rfl⟩

theorem get_set (order : FloatOrder) (host : HostOrder) (f : BitVec 32) (tab tab' : Nat → Word)
    (fits : host = .big ∨ EqualPairs f) :
    order.get (overlay tab' (cellsOf (order.set host f tab) 2)) = f := by
  obtain ⟨p, q, r, s, -, pairs, stored, decoded⟩ := order.bytes_spec f
  have words : [host.word p q, host.word r s] = [wordOf p q, wordOf r s] := by
    cases host with
    | big => rfl
    | little =>
        obtain ⟨rfl, rfl⟩ := pairs.mpr (fits.resolve_left (by decide))
        rfl
  rw [stored, words, decoded]

end FloatOrder

theorem Carries.data {b : Backend} {frame : List Byte} (front data : List Byte)
    (carries : Carries b frame (front ++ data)) :
    bytesAt (ofBytes frame) (b.headerLength + front.length) data.length = data := by
  obtain ⟨header, checksum, header_length, -, rfl⟩ := carries
  rw [List.append_assoc, ← List.append_assoc header, ← header_length, ← List.length_append]
  exact bytesAt_ofBytes_append (header ++ front) data checksum

section
variable (version : VersionString) {mb : ModbusMapping} {addr : Int} {n : Nat}

theorem effect_writeRegisters (valid : mb.WellFormed)
    (covers : mb.holdingRegisters.Covers addr.toNat n) (src : Nat → Word) :
    ∃ written : ModbusMapping,
      (ClientOp.writeRegisters addr n src).effect version mb = ⟨.ok n, .none, written⟩ ∧
        written.holdingRegisters.Covers addr.toNat n ∧
        written.holdingRegisters.cellsAt addr.toNat n = cellsOf src n := by
  have length : (cellsOf src n).length = n := cellsOf_length src n
  have stored := slice_store mb.tabRegisters (mb.holdingRegisters.index addr.toNat) (cellsOf src n)
    (by rw [length]; exact covers.inside valid.holding_sound)
  rw [length] at stored
  exact ⟨_, if_pos covers, covers, stored⟩

theorem serve_readRegisters (valid : mb.WellFormed) (address : AddressInRange addr)
    (count : CountInRange n maxReadRegisters) (covers : mb.holdingRegisters.Covers addr.toNat n)
    (dest : Nat → Word) :
    (ClientOp.readRegisters addr n dest).request.serve version mb =
      .ok ⟨.values fcReadHoldingRegisters
        ((mb.holdingRegisters.cellsAt addr.toNat n).flatMap wordBytes), false, mb⟩ := by
  have words : (BitVec.ofInt 16 n).toNat = n := count.toNat_ofInt (by decide)
  have inside : ¬ (n < 1 ∨ maxReadRegisters < n) := by
    obtain ⟨low, high⟩ := count
    omega
  have held : (mb.registers false).Covers (BitVec.ofInt 16 addr).toNat (BitVec.ofInt 16 n).toNat := by
    rw [words, address.toNat_ofInt]
    exact covers
  have serve : (ClientOp.readRegisters addr n dest).request.serve version mb = _ :=
    Request.serve_readRegisters valid (by rwa [words]) held
  rw [words, address.toNat_ofInt] at serve
  exact serve

end

section
variable {toServer toClient : Carrier} (outward : Lossless toServer) (homeward : Lossless toClient)
include outward homeward

theorem registers_carried (c : Conn (Line Server)) (linked : Linked c)
    (valid : c.line.peer.mapping.WellFormed) (addr : Int) (n : Nat) (address : AddressInRange addr)
    (count : CountInRange n maxWriteRegisters)
    (covers : c.line.peer.mapping.holdingRegisters.Covers addr.toNat n) (src dest : Nat → Word) :
    ∃ c' reply, runOps (lineDevice (serverReact toServer toClient))
        [.writeRegisters addr n src, .readRegisters addr n dest] c =
          ([(.ok n, .none), (.ok n, .words (overlay dest (cellsOf src n)))], c') ∧
      c'.line.peer.conn.line.peer = [reply] ∧
      bytesAt (ofBytes reply) (c.ctx.backend.headerLength + 2) (2 * n) =
        (cellsOf src n).flatMap wordBytes := by
  have fits : CountInRange n maxReadRegisters := ⟨count.1, count.2.trans (by decide)⟩
  obtain ⟨c₁, run₁, ctx₁, linked₁, mapped₁, -⟩ :=
    (ClientOp.writeRegisters addr n src).run_serves outward homeward ⟨address, count⟩ c linked
      valid False.elim
  have valid₁ := (ClientOp.writeRegisters addr n src).effect_wellFormed
    c.line.peer.conn.ctx.version ⟨address, count⟩ valid False.elim
  obtain ⟨written, effect, covers₁, cells⟩ :=
    effect_writeRegisters c.line.peer.conn.ctx.version valid covers src
  rw [effect] at mapped₁ valid₁
  obtain rfl : c₁.line.peer.mapping = written := mapped₁
  obtain ⟨c₂, run₂, -, -, -, -, response, reply, replied, served, carries⟩ :=
    (ClientOp.readRegisters addr n dest).run_serves outward homeward ⟨address, fits⟩ c₁ linked₁
      valid₁ False.elim
  have got : (ClientOp.readRegisters addr n dest).effect c₁.line.peer.conn.ctx.version
      c₁.line.peer.mapping =
        ⟨.ok n, .words (overlay dest (cellsOf src n)), c₁.line.peer.mapping⟩ := by
    rw [← cells]
    exact if_pos covers₁
  rw [serve_readRegisters _ valid₁ address fits covers₁, cells] at served
  obtain rfl : Response.values fcReadHoldingRegisters ((cellsOf src n).flatMap wordBytes) =
      response := congrArg Outcome.response (Except.ok.inj served)
  refine ⟨c₂, reply, ?_, replied, ?_⟩
  · simp only [runOps, run₁, run₂, effect, got]
  · have placed := Carries.data [_, _] ((cellsOf src n).flatMap wordBytes) carries
    rwa [wordBytes_flatMap_length, cellsOf_length, ctx₁, nextRequest_backend] at placed

end

def Conn.tapped {σ : Type} (c : Conn σ) : Conn (Line Log) := ⟨c.ctx, ⟨⟨[], []⟩, []⟩⟩

theorem registers_sent (c : Conn (Line Log)) (addr : Int) (n : Nat) (few : n ≤ maxWriteRegisters)
    (src : Nat → Word) :
    ∃ request, c.sent ((ClientOp.writeRegisters addr n src).run logDevice c).2.2 = [request] ∧
      bytesAt (ofBytes request) (c.ctx.backend.headerLength + 6) (2 * n) =
        (cellsOf src n).flatMap wordBytes := by
  have accepted : (ClientOp.writeRegisters addr n src).refusal = none :=
    if_neg (not_lt.mpr (Int.ofNat_le.mpr few))
  have carries := (ClientOp.writeRegisters addr n src).sent_carries c.ctx
  refine ⟨_, ClientOp.run_sent _ c accepted, ?_⟩
  have placed := Carries.data [_, _, _, _, _, _] ((cellsOf src n).flatMap wordBytes) carries
  rwa [wordBytes_flatMap_length, cellsOf_length] at placed

/-- Written to two registers of a server and read back, a float is decoded as it was, and its bytes
are in the order of the format in the request that writes them and in the response that brings them
back. -/
structure FloatCarried (toServer toClient : Carrier) (c : Conn (Line Server)) (addr : Int)
    (order : FloatOrder) (host : HostOrder) (f : BitVec 32) : Prop where
  readBack : ∀ tab dest, ∃ read c' reply,
    runOps (lineDevice (serverReact toServer toClient))
      [.writeRegisters addr 2 (order.set host f tab), .readRegisters addr 2 dest] c =
        ([(.ok 2, .none), (.ok 2, .words read)], c') ∧ order.get read = f ∧
    c'.line.peer.conn.line.peer = [reply] ∧
    bytesAt (ofBytes reply) (c.ctx.backend.headerLength + 2) 4 = order.bytes f
  request : ∀ tab, ∃ request,
    c.tapped.sent ((ClientOp.writeRegisters addr 2 (order.set host f tab)).run
      logDevice c.tapped).2.2 = [request] ∧
    bytesAt (ofBytes request) (c.ctx.backend.headerLength + 6) 4 = order.bytes f

theorem FloatCarried.fits {toServer toClient : Carrier} {c : Conn (Line Server)} {addr : Int}
    {order : FloatOrder} {host : HostOrder} {f : BitVec 32}
    (carried : FloatCarried toServer toClient c addr order host f) :
    host = .big ∨ EqualPairs f := by
  obtain ⟨request, sent, ordered⟩ := carried.request fun _ => 0
  obtain ⟨request', sent', stored⟩ :=
    registers_sent c.tapped addr 2 (by decide) (order.set host f fun _ => 0)
  obtain rfl : request = request' := List.head_eq_of_cons_eq (sent.symm.trans sent')
  exact (order.sent_iff host f _).mp (stored.symm.trans ordered)

/-- A host that stores the high byte first carries every float, and the other hosts carry those whose
bytes come in equal pairs. -/
theorem floatCarried_iff {toServer toClient : Carrier} (outward : Lossless toServer)
    (homeward : Lossless toClient) (c : Conn (Line Server)) (linked : Linked c)
    (valid : c.line.peer.mapping.WellFormed) (addr : Int) (address : AddressInRange addr)
    (covers : c.line.peer.mapping.holdingRegisters.Covers addr.toNat 2) (order : FloatOrder)
    (host : HostOrder) (f : BitVec 32) :
    FloatCarried toServer toClient c addr order host f ↔ host = .big ∨ EqualPairs f := by
  refine ⟨FloatCarried.fits, fun fits => ⟨fun tab dest => ?_, fun tab => ?_⟩⟩
  · obtain ⟨c', reply, run, replied, stored⟩ := registers_carried outward homeward c linked valid
      addr 2 address (by decide) covers (order.set host f tab) dest
    exact ⟨_, c', reply, run, order.get_set host f tab dest fits, replied,
      stored.trans ((order.sent_iff host f tab).mpr fits)⟩
  · obtain ⟨request, sent, stored⟩ :=
      registers_sent c.tapped addr 2 (by decide) (order.set host f tab)
    exact ⟨request, sent, stored.trans ((order.sent_iff host f tab).mpr fits)⟩

theorem floatCarried_iff_big :
    FloatCarried carryWhole carryWhole newLink 0 .abcd .big 0x47F12000 :=
  (floatCarried_iff carryWhole_lossless carryWhole_lossless newLink newLink_linked
    (modbusMappingNewStartAddress_wellFormed 0 0 0 0 0 4 0 0 (by simp [FitsInt])) 0 (by decide)
    (by decide) .abcd .big 0x47F12000).mpr (.inl rfl)

theorem float_swapped :
    ¬ FloatCarried carryWhole carryWhole newLink 0 .abcd .little 0x47F12000 ∧
      modbusGetFloatAbcd (modbusSetFloatAbcd .little 0x47F12000 fun _ => 0) = 0xF1470020#32 := by
  refine ⟨fun carried => ?_, by decide⟩
  rcases carried.fits with big | pairs
  · cases big
  · exact absurd pairs.1 (by decide)

end ModbusNet
