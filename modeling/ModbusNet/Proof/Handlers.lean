import ModbusNet.Proof.Simulators
import ModbusNet.Proof.Splitting
import ModbusNet.Proof.Answers

namespace ModbusNet

/-! ## Accesses -/

def Simulator.StaysInside (sim : Simulator) (b : Backend) (query : Buffer) (regs : List Word) : Prop :=
  ∃ handled, sim.handle b.headerLength query (registerMapping regs) = .ok handled

theorem Simulator.staysInside_iff (sim : Simulator) (known : sim ∈ simulators) (regs : List Word)
    (size : regs.length = sim.numRegisters) (b : Backend) (query : Buffer) :
    sim.StaysInside b query regs ↔
      (query b.headerLength).toNat ≠ fcWriteSingleCoil ∧
        ((query b.headerLength).toNat = fcWriteSingleRegister →
          be16 query (b.headerLength + 1) < sim.numRegisters) ∧
        ((query b.headerLength).toNat = fcWriteMultipleRegisters →
          be16 query (b.headerLength + 3) = 0 ∨
            be16 query (b.headerLength + 1) + be16 query (b.headerLength + 3) ≤
              sim.numRegisters) := by
  have header : b.headerLength ≤ 7 := by cases b <;> decide
  rw [← size]
  change _ ↔ TouchesInside b.headerLength query regs
  constructor
  · rintro ⟨handled, run⟩
    by_contra outside
    rw [handle_outside sim b.headerLength header outside] at run
    cases run
  · intro inside
    obtain ⟨updateFile, run⟩ :=
      handle_inside sim b.headerLength header (size.trans_le (simulator_small known)) inside
    exact ⟨_, run⟩

def writeRegister1 : List Byte := [0, 1, 0, 0, 0, 6, 0xFF, 0x06, 0, 1, 0, 7]
def writeRegister30 : List Byte := [0, 1, 0, 0, 0, 6, 0xFF, 0x06, 0, 30, 0, 7]

theorem Simulator.staysInside_iff_writeRegister :
    evCharger.StaysInside .tcp (heard newTcp writeRegister1).2.1 [10, 10] :=
  (evCharger.staysInside_iff (by simp [simulators]) [10, 10] rfl .tcp _).mpr
    ⟨by decide +kernel, by decide +kernel, fun many => absurd many (by decide +kernel)⟩

theorem register30_outside :
    Returned (heard newTcp writeRegister30).2.2.ctx (heard newTcp writeRegister30).2.1 12 ∧
      ¬ pvInverter.StaysInside .tcp (heard newTcp writeRegister30).2.1
        pvInverter.initialMapping.tabRegisters := by
  refine ⟨heard_returned (by decide) (by decide +kernel), ?_⟩
  rintro ⟨handled, run⟩
  have outside : ¬ TouchesInside 7 (heard newTcp writeRegister30).2.1
      pvInverter.initialMapping.tabRegisters := by
    rintro ⟨-, single, -⟩
    exact absurd (single (by decide +kernel)) (by decide +kernel)
  have stopped : pvInverter.handle 7 (heard newTcp writeRegister30).2.1
      (registerMapping pvInverter.initialMapping.tabRegisters) = .error .undefined :=
    handle_outside pvInverter 7 (by decide) outside
  cases stopped.symm.trans run

/-! ## The persisted value -/

def Simulator.Configured (sim : Simulator) (ctx : Ctx) : Prop :=
  ctx.backend = .rtu → ctx.slave = sim.serverId

def Simulator.persisted (sim : Simulator) (b : Backend) (query : Buffer) (regs : List Word) :
    Option ℚ :=
  match sim.handle b.headerLength query (registerMapping regs) with
  | .ok handled => handled.updateFile.map Prod.snd
  | .error _ => none

/-- The persisted value is the word that the reply leaves in the register, and it is the same
whatever the receive buffer holds behind the request. -/
structure Simulator.Persists {σ : Type} (sim : Simulator) (dev : Device σ) (c : Conn σ)
    (query : Buffer) (n : Int) (regs : List Word) : Prop where
  stored : ∃ word : Word,
    (sim.respond dev c query n (registerMapping regs)).mapping.tabRegisters[
        be16 query (c.ctx.backend.headerLength + 1)]? = some word ∧
      sim.persisted c.ctx.backend query regs = some (word.toNat : ℚ)
  independent : ∀ query', AgreeBelow n.toNat query query' →
    sim.persisted c.ctx.backend query' regs = sim.persisted c.ctx.backend query regs

theorem single_length {b : Backend} {query : Buffer}
    (write : (query b.headerLength).toNat = fcWriteSingleRegister) :
    pduLength .indication (pduAt b query) = 5 := by
  have decoded : Request.decode (pduAt b query) = _ := Request.decode_writeSingleRegister write
  rw [← Request.encode_length, decoded]
  rfl

section
variable {sim : Simulator} {b : Backend} {query : Buffer} {regs : List Word}
  (write : (query b.headerLength).toNat = fcWriteSingleRegister)
  (accepted : be16 query (b.headerLength + 1) < regs.length)
include write accepted

theorem persisted_single :
    sim.persisted b query regs = some ((be16 query (b.headerLength + 4) : ℚ) / 256) := by
  rw [Simulator.persisted,
    handle_single sim b.headerLength (by cases b <;> decide) write accepted]
  rfl

theorem respond_single {σ : Type} (dev : Device σ) (c : Conn σ) (n : Int)
    (backend : c.ctx.backend = b) (received : Received b query n) :
    (sim.respond dev c query n (registerMapping regs)).mapping.tabRegisters[
      be16 query (b.headerLength + 1)]? = some (wordAt query (b.headerLength + 3)) := by
  subst backend
  have length : (handledRegisters c.ctx.backend.headerLength query regs).length = regs.length := by
    rw [handledRegisters, if_pos write, store_length _ _ _ accepted]
  have decoded : Request.decode (pduAt c.ctx.backend query) = _ :=
    Request.decode_writeSingleRegister write
  have address : (wordAt (pduAt c.ctx.backend query) 1).toNat =
      be16 query (c.ctx.backend.headerLength + 1) := wordAt_toNat _ _
  rw [Simulator.respond, handle_single sim _ (by cases c.ctx.backend <;> decide) write accepted]
  simp only
  rw [afterReply_mapping, modbusReply_mapping dev c query n _ received, decoded,
    Request.mappingAfter, serve_single _ _ (by rw [address, length]; exact accepted), address,
    store_single _ _ _ (by rw [length]; exact accepted)]
  exact List.getElem?_set_self (by rw [length]; exact accepted)

theorem persisted_word_iff :
    sim.persisted b query regs = some (be16 query (b.headerLength + 3) : ℚ) ↔
      be16 query (b.headerLength + 3) < 256 ∧ query (b.headerLength + 5) = 0 := by
  have low := (query (b.headerLength + 4)).isLt
  have behind := (query (b.headerLength + 5)).isLt
  have scaled : (be16 query (b.headerLength + 4) : ℚ) / 256 = be16 query (b.headerLength + 3) ↔
      be16 query (b.headerLength + 4) = be16 query (b.headerLength + 3) * 256 := by
    rw [div_eq_iff (by norm_num)]
    exact_mod_cast Iff.rfl
  have zero : query (b.headerLength + 5) = 0 ↔ (query (b.headerLength + 5)).toNat = 0 :=
    BitVec.toNat_inj.symm
  rw [persisted_single write accepted, Option.some_inj, scaled, zero]
  simp only [be16, beWord, Nat.add_assoc, Nat.reduceAdd]
  omega

theorem persisted_independent_iff {n : Int} (received : Received b query n) :
    (∀ query', AgreeBelow n.toNat query query' →
      sim.persisted b query' regs = sim.persisted b query regs) ↔ b = .rtu := by
  have length := received.length.1
  rw [single_length write] at length
  have persisted : sim.persisted b query regs = _ := persisted_single write accepted
  cases b with
  | rtu =>
      refine iff_of_true (fun query' agree => ?_) rfl
      have whole : n.toNat = 8 := by
        rw [length]
        rfl
      rw [whole] at agree
      have same : be16 query' 5 = be16 query 5 := (agree.be16_eq (by decide)).symm
      rw [persisted, persisted_single (by rw [← agree _ (by decide), write])
        (by rwa [← agree.be16_eq (by decide)])]
      exact congrArg (fun word : Nat => some ((word : ℚ) / 256)) same
  | tcp =>
      refine iff_of_false (fun independent => ?_) (by decide)
      have whole : n.toNat = 12 := by
        rw [length]
        rfl
      -- Another byte behind the request.
      have agree : AgreeBelow 12 query (Function.update query 12 (query 12 + 1)) :=
        fun i bound => (Function.update_of_ne (Nat.ne_of_lt bound) _ _).symm
      have same := independent _ (by rwa [whole])
      rw [persisted, persisted_single (by rw [← agree _ (by decide), write])
        (by rwa [← agree.be16_eq (by decide)])] at same
      have words : be16 (Function.update query 12 (query 12 + 1)) 11 = be16 query 11 := by
        have scaled := Option.some.inj same
        rw [div_left_inj' (by norm_num)] at scaled
        exact_mod_cast scaled
      have bytes : (query 12 + 1).toNat = (query 12).toNat := by
        simp only [be16, beWord, Function.update_self, Nat.reduceAdd] at words
        rw [Function.update_of_ne (by decide)] at words
        omega
      change ((query 12).toNat + 1) % 256 = _ at bytes
      omega

end

theorem Returned.rtuAccepts {ctx : Ctx} {req : Buffer} {n : Int} (returned : Returned ctx req n)
    (backend : ctx.backend = .rtu) : RtuAccepts ctx (bytesAt req 0 n.toNat) := by
  obtain ⟨accepted, τ, link, c, c', buffer, result, rfl⟩ := returned
  have same := (modbusReceive_received link result accepted).1
  rw [same] at backend ⊢
  simp only [modbusReceive, backend, modbusRtuReceive] at result
  split at result
  · split at result <;> simp only [Prod.mk.injEq, Except.ok.injEq, reduceCtorEq, false_and] at result
    exact absurd result.1.symm accepted
  · split at result
    · simp only [Prod.mk.injEq, Except.ok.injEq] at result
      exact absurd result.1.symm accepted
    · rename_i rc msg c₁ _ received
      simp only [Prod.mk.injEq] at result
      obtain ⟨rfl, rfl, rfl⟩ := result
      have length := ((modbusReceiveMsg_ok link received).2.2).resolve_right accepted
      rw [length, Int.toNat_natCast, bytesAt_overlay]
      rcases integrity_rtu backend (modbusReceiveMsg_integrity received) with ⟨-, -, zero⟩ | accepts
      · exact absurd zero accepted
      · exact accepts

theorem tableCrcHi_entries :
    ∀ entry ∈ tableCrcHi, entry ∈ ([0, 1, 0x40, 0x41, 0x80, 0x81, 0xC0, 0xC1] : List Byte) := by
  decide +kernel

theorem crcHi_entries :
    ∀ slave ∈ ([0, 1, 3] : List Byte), ∀ address < 30,
      (([slave, 0x06, 0, BitVec.ofNat 8 address, 0].foldl crcStep ⟨0xFF, 0xFF⟩).crcHi) ∉
        ([0, 1, 0x40, 0x41, 0x80, 0x81, 0xC0, 0xC1] : List Byte) := by
  decide +kernel

theorem checksum_nonzero {query : Buffer} (own : query 0 ∈ ([0, 1, 3] : List Byte))
    (function : query 1 = 0x06) (high : query 2 = 0) (bound : (query 3).toNat < 30)
    (small : query 4 = 0) (right : crcMatches (bytesAt query 0 8) = true) : query 6 ≠ 0 := by
  intro zero
  have request : bytesAt query 0 5 =
      [query 0, 0x06, 0, BitVec.ofNat 8 (query 3).toNat, 0] := by
    have whole : bytesAt query 0 5 = [query 0, query 1, query 2, query 3, query 4] := rfl
    rw [whole, function, high, small, BitVec.ofNat_toNat, BitVec.setWidth_eq]
  set s := [query 0, 0x06, 0, BitVec.ofNat 8 (query 3).toNat, 0].foldl crcStep ⟨0xFF, 0xFF⟩ with s_def
  have sum : crc16 (bytesAt query 0 6) =
      wordOf (crcStep s (query 5)).crcHi (crcStep s (query 5)).crcLo := by
    rw [bytesAt_add query 0 5 1, request, crc16, List.foldl_append, ← s_def]
    rfl
  have equal : crc16 (bytesAt query 0 6) = wordOf (query 7) (query 6) := by
    rw [crcMatches, beq_iff_eq] at right
    exact right
  have words := congrArg BitVec.toNat (sum.symm.trans equal)
  rw [wordOf_toNat, wordOf_toNat, zero] at words
  -- Behind a value below 256 a zero would make the high byte of the state an entry of the table.
  have low : (crcStep s (query 5)).crcLo = 0 := by
    have left := (crcStep s (query 5)).crcLo.isLt
    apply BitVec.eq_of_toNat_eq
    simp only [beWord] at words
    change 256 * _ + _ = 256 * _ + 0 at words
    change _ = 0
    omega
  have entry : s.crcHi = tableCrcHi.getD (s.crcLo ^^^ query 5).toNat 0 := BitVec.xor_eq_zero_iff.mp low
  have unlike := crcHi_entries (query 0) own (query 3).toNat bound
  rw [← s_def, entry] at unlike
  apply unlike
  by_cases inside : (s.crcLo ^^^ query 5).toNat < tableCrcHi.length
  · rw [List.getD_eq_getElem _ _ inside]
    exact tableCrcHi_entries _ (List.getElem_mem inside)
  · rw [List.getD_eq_default _ _ (not_lt.mp inside)]
    exact List.mem_cons_self

/-- For no request does a simulator persist the word that the reply stores, whatever else is in the
receive buffer: over TCP a byte behind the request counts, and over RTU the first byte of the
checksum. -/
theorem Simulator.not_persists {σ : Type} (sim : Simulator) (known : sim ∈ simulators)
    (dev : Device σ) (c : Conn σ) (configured : sim.Configured c.ctx) (regs : List Word)
    (size : regs.length = sim.numRegisters) (query : Buffer) (n : Int)
    (returned : Returned c.ctx query n)
    (write : (query c.ctx.backend.headerLength).toNat = fcWriteSingleRegister)
    (accepted : be16 query (c.ctx.backend.headerLength + 1) < sim.numRegisters) :
    ¬ sim.Persists dev c query n regs := by
  rintro ⟨⟨word, stored, value⟩, independent⟩
  have small := simulator_small known
  have received := returned.received
  rw [← size] at accepted
  rw [respond_single write accepted dev c n rfl received] at stored
  obtain rfl := Option.some.inj stored
  rw [wordAt_toNat, persisted_word_iff write accepted] at value
  have backend := (persisted_independent_iff write accepted received).mp independent
  obtain ⟨addressed, right⟩ := returned.rtuAccepts backend
  have length := received.length.1
  rw [single_length write, backend] at length
  have whole : n.toNat = 8 := by
    rw [length]
    rfl
  rw [backend] at write accepted value
  rw [whole] at addressed right
  have first : (bytesAt query 0 8).getD 0 0 = query 0 := bytesAt_getD query 0 8 0 (by decide)
  rw [first, configured backend] at addressed
  obtain ⟨high, behind⟩ := value
  have address := size ▸ accepted
  simp only [be16, beWord, Backend.headerLength_rtu, Nat.reduceAdd] at high address
  have own : query 0 ∈ ([0, 1, 3] : List Byte) := by
    simp only [simulators, List.mem_cons, List.not_mem_nil, or_false] at known
    simp only [List.mem_cons, List.not_mem_nil, or_false, ← BitVec.toNat_inj]
    simp only [broadcastAddress] at addressed
    change _ = 0 ∨ _ = 1 ∨ _ = 3
    rcases known with rfl | rfl | rfl <;> simp only [pvInverter, evCharger, heatPump] at addressed <;>
      omega
  have zero : ∀ i, (query i).toNat = 0 → query i = 0 := fun i byte => BitVec.eq_of_toNat_eq byte
  exact checksum_nonzero own (BitVec.eq_of_toNat_eq write) (zero 2 (by omega)) (by omega)
    (zero 4 (by omega)) right behind

def writeRegister1Of300 : List Byte := [0, 1, 0, 0, 0, 6, 0xFF, 0x06, 0, 1, 0x01, 0x2C]

theorem Simulator.not_persists_writeRegister :
    let server := heard newTcp writeRegister1
    ¬ evCharger.Persists logDevice server.2.2 server.2.1 12 [10, 10] :=
  evCharger.not_persists (by simp [simulators]) logDevice (heard newTcp writeRegister1).2.2
    (fun rtu => absurd rtu (by decide +kernel)) [10, 10] rfl _ 12
    (heard_returned (by decide) (by decide +kernel)) (by decide +kernel) (by decide +kernel)

theorem write_of_300_persisted :
    let server := heard newTcp writeRegister1Of300
    let stale := Function.update server.2.1 12 128
    Returned server.2.2.ctx server.2.1 12 ∧
      (evCharger.respond logDevice server.2.2 server.2.1 12
        (registerMapping [10, 10])).mapping.tabRegisters = [10, 300] ∧
      evCharger.persisted .tcp server.2.1 [10, 10] = some 44 ∧
      AgreeBelow 12 server.2.1 stale ∧ evCharger.persisted .tcp stale [10, 10] = some 44.5 ∧
      ¬ evCharger.Persists logDevice server.2.2 server.2.1 12 [10, 10] := by
  intro server stale
  have word : be16 server.2.1 11 = 44 * 256 := by decide +kernel
  have staleWord : be16 stale 11 = 44 * 256 + 128 := by decide +kernel
  have persisted : evCharger.persisted .tcp server.2.1 [10, 10] = some 44 := by
    rw [persisted_single (by decide +kernel) (by decide +kernel)]
    norm_num [word]
  have other : evCharger.persisted .tcp stale [10, 10] = some 44.5 := by
    rw [persisted_single (by decide +kernel) (by decide +kernel)]
    norm_num [staleWord]
  have agree : AgreeBelow 12 server.2.1 stale :=
    fun i bound => (Function.update_of_ne (Nat.ne_of_lt bound) _ _).symm
  refine ⟨heard_returned (by decide) (by decide +kernel), by decide +kernel, persisted, agree, other,
    fun persists => ?_⟩
  have same : evCharger.persisted .tcp stale [10, 10] = evCharger.persisted .tcp server.2.1 [10, 10] :=
    persists.independent stale agree
  rw [persisted, other] at same
  norm_num at same

end ModbusNet
