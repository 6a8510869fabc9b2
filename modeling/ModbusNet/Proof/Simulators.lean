import ModbusNet.Model.Loopback
import ModbusNet.Model.Simulator
import ModbusNet.Proof.ServerSafety
import ModbusNet.Protocol.Operations

/-!
# The handlers of the simulators

A simulator stores the values of a request before `modbus_reply` has looked at it. When the reply
overwrites them nothing is different; the multiple write with a wrong byte count is where it does not
(`iterate_mapping_iff`).
-/

namespace ModbusNet

section
variable {regs : List Word} {address nb : Nat}

theorem registerMapping_wellFormed (regs : List Word) : (registerMapping regs).WellFormed := by
  constructor <;> simp [registerMapping]

theorem registerMapping_index (regs : List Word) (address : Nat) :
    (registerMapping regs).holdingRegisters.index address = address := by
  simp [Table.index, ModbusMapping.holdingRegisters, registerMapping]

theorem registerMapping_covers :
    (registerMapping regs).holdingRegisters.Covers address nb ↔ address + nb ≤ regs.length := by
  simp only [Table.Covers, ModbusMapping.holdingRegisters, registerMapping]
  omega

theorem registerMapping_set (regs : List Word) {tabRegisters : List Word}
    (length : tabRegisters.length = regs.length) :
    { registerMapping regs with tabRegisters } = registerMapping tabRegisters := by
  simp only [registerMapping, length]

theorem registerMapping_write (values : List Word) (inside : address + values.length ≤ regs.length) :
    (registerMapping regs).holdingRegisters.write address values = some (store regs address values) := by
  rw [(registerMapping_wellFormed regs).holding_sound.write_eq values
    (registerMapping_covers.mpr inside), registerMapping_index]
  rfl

end

section
variable (headerLength : Nat) (query : Buffer) (regs : List Word)

def TouchesInside : Prop :=
  let function := (query headerLength).toNat
  let address := be16 query (headerLength + 1)
  let nb := be16 query (headerLength + 3)
  function ≠ fcWriteSingleCoil ∧ (function = fcWriteSingleRegister → address < regs.length) ∧
    (function = fcWriteMultipleRegisters → nb = 0 ∨ address + nb ≤ regs.length)

def handledRegisters : List Word :=
  let function := (query headerLength).toNat
  let address := be16 query (headerLength + 1)
  if function = fcWriteSingleRegister then
    store regs address [BitVec.ofNat 16 (be16 query (headerLength + 4) / 256)]
  else if function = fcWriteMultipleRegisters then
    store regs address (wordsAt query (headerLength + 7) (be16 query (headerLength + 3)))
  else regs

end

theorem getInt16FromInt8_eq (query : Buffer) (i : Nat) (inside : i + 1 < tcpMaxAduLength) :
    getInt16FromInt8 query i = .ok (be16 query i) := if_pos inside

theorem storeQueryRegisters_inside (query : Buffer) (left address j : Nat) (tab : List Word)
    (inside : address + left ≤ tab.length) (buffered : j + 2 * left ≤ tcpMaxAduLength) :
    storeQueryRegisters query left address j tab = .ok (store tab address (wordsAt query j left)) := by
  induction left generalizing address j tab with
  | zero => simp [storeQueryRegisters, wordsAt]
  | succ left ih =>
      rw [storeQueryRegisters, getInt16FromInt8_eq query j (by omega)]
      change writeTab tab address (wordAt query j) >>= _ = _
      rw [writeTab_eq tab address _ (by omega), wordsAt_succ,
        store_cons _ _ _ _ (by rw [wordsAt_length]; omega)]
      exact ih (address + 1) (j + 2) _ (by rw [List.length_set]; omega) (by omega)

theorem storeQueryRegisters_outside (query : Buffer) (left address j : Nat) (tab : List Word)
    (outside : tab.length < address + left) (pos : 0 < left) :
    storeQueryRegisters query left address j tab = .error .undefined := by
  induction left generalizing address j tab with
  | zero => omega
  | succ left ih =>
      rw [storeQueryRegisters, getInt16FromInt8]
      split
      · change writeTab tab address (wordAt query j) >>= _ = _
        rcases Nat.lt_or_ge address tab.length with bound | reached
        · rw [writeTab_eq tab address _ bound]
          exact ih (address + 1) (j + 2) _ (by rw [List.length_set]; omega) (by omega)
        · rw [writeTab, if_neg (by omega)]
          rfl
      · rfl

section
variable (sim : Simulator) (headerLength : Nat) {query : Buffer} {regs : List Word}
  (header : headerLength ≤ 7)
include header

theorem handle_single (write : (query headerLength).toNat = fcWriteSingleRegister)
    (bound : be16 query (headerLength + 1) < regs.length) :
    sim.handle headerLength query (registerMapping regs) =
      .ok ⟨registerMapping (handledRegisters headerLength query regs),
        some (be16 query (headerLength + 1) + sim.fileOffset,
          (be16 query (headerLength + 4) : ℚ) / 256)⟩ := by
  have address : getInt16FromInt8 query (headerLength + 1) = _ :=
    getInt16FromInt8_eq query _ (by simp only [tcpMaxAduLength]; omega)
  have value : getInt16FromInt8 query (headerLength + 4) = _ :=
    getInt16FromInt8_eq query _ (by simp only [tcpMaxAduLength]; omega)
  unfold Simulator.handle handledRegisters
  simp only [address]
  rw [if_pos write, if_pos write, value, store_single _ _ _ bound,
    ← registerMapping_set regs (List.length_set ..)]
  change writeTab regs _ _ >>= _ = _
  rw [writeTab_eq regs _ _ bound]
  rfl

theorem handle_inside (small : regs.length ≤ 30) (inside : TouchesInside headerLength query regs) :
    ∃ updateFile, sim.handle headerLength query (registerMapping regs) =
      .ok ⟨registerMapping (handledRegisters headerLength query regs), updateFile⟩ := by
  obtain ⟨notCoil, single, multiple⟩ := inside
  by_cases write : (query headerLength).toNat = fcWriteSingleRegister
  · exact ⟨_, handle_single sim headerLength header write (single write)⟩
  · have address : getInt16FromInt8 query (headerLength + 1) = _ :=
      getInt16FromInt8_eq query _ (by simp only [tcpMaxAduLength]; omega)
    unfold Simulator.handle handledRegisters
    simp only [address]
    rw [if_neg write, if_neg notCoil, if_neg write]
    by_cases many : (query headerLength).toNat = fcWriteMultipleRegisters
    · have count : getInt16FromInt8 query (headerLength + 3) = _ :=
        getInt16FromInt8_eq query _ (by simp only [tcpMaxAduLength]; omega)
      rw [if_pos many, if_pos many, count]
      refine ⟨none, ?_⟩
      change storeQueryRegisters query _ _ _ regs >>= _ = _
      rcases multiple many with zero | fits
      · rw [zero, wordsAt_zero, store_nil]
        rfl
      · rw [storeQueryRegisters_inside _ _ _ _ _ fits (by simp only [tcpMaxAduLength]; omega),
          ← registerMapping_set regs
            (store_length regs _ _ (by rw [wordsAt_length]; exact fits))]
        rfl
    · rw [if_neg many, if_neg many]
      exact ⟨none, rfl⟩

theorem handle_outside (outside : ¬ TouchesInside headerLength query regs) :
    sim.handle headerLength query (registerMapping regs) = .error .undefined := by
  have address : getInt16FromInt8 query (headerLength + 1) = _ :=
    getInt16FromInt8_eq query _ (by simp only [tcpMaxAduLength]; omega)
  have value : getInt16FromInt8 query (headerLength + 4) = _ :=
    getInt16FromInt8_eq query _ (by simp only [tcpMaxAduLength]; omega)
  have count : getInt16FromInt8 query (headerLength + 3) = _ :=
    getInt16FromInt8_eq query _ (by simp only [tcpMaxAduLength]; omega)
  unfold Simulator.handle
  simp only [address]
  by_cases write : (query headerLength).toNat = fcWriteSingleRegister
  · have beyond : ¬ be16 query (headerLength + 1) < regs.length := by
      intro bound
      refine outside ⟨?_, fun _ => bound, ?_⟩
      · rw [write]
        decide
      · rw [write]
        exact fun other => absurd other (by decide)
    rw [if_pos write, value]
    change writeTab regs _ _ >>= _ = _
    rw [writeTab, if_neg beyond]
    rfl
  · rw [if_neg write]
    by_cases coil : (query headerLength).toNat = fcWriteSingleCoil
    · rw [if_pos coil]
      rfl
    · rw [if_neg coil]
      by_cases many : (query headerLength).toNat = fcWriteMultipleRegisters
      · have beyond : ¬ (be16 query (headerLength + 3) = 0 ∨
            be16 query (headerLength + 1) + be16 query (headerLength + 3) ≤ regs.length) :=
          fun fits => outside ⟨coil, fun single => absurd single write, fun _ => fits⟩
        rw [if_pos many, count]
        change storeQueryRegisters query _ _ _ regs >>= _ = _
        rw [storeQueryRegisters_outside _ _ _ _ _ (by omega) (by omega)]
        rfl
      · exact absurd ⟨coil, fun single => absurd single write, fun multiple => absurd multiple many⟩
          outside

end

theorem receiveNonzero_received {σ : Type} (dev : Device σ) (rounds : Nat) (c c' : Conn σ)
    (buffer query : Buffer) (n : Int)
    (received : receiveNonzero dev rounds c buffer = (.ok n, query, c')) :
    n ≠ 0 ∧ Received c'.ctx.backend query n := by
  induction rounds generalizing c buffer with
  | zero => simp [receiveNonzero] at received
  | succ rounds ih =>
      rw [receiveNonzero] at received
      split at received
      · rename_i rc query₁ c₁ result
        split at received
        · exact ih c₁ query₁ received
        · rename_i nonzero
          simp only [Prod.mk.injEq, Except.ok.injEq] at received
          obtain ⟨rfl, rfl, rfl⟩ := received
          obtain ⟨ctx, whole⟩ := modbusReceive_received dev result nonzero
          exact ⟨nonzero, by rw [ctx]; exact whole⟩
      · simp at received

def Request.mappingAfter (version : VersionString) (mb : ModbusMapping) (r : Request) :
    ModbusMapping :=
  match r.serve version mb with
  | .ok outcome => outcome.mapping
  | .error _ => mb

theorem modbusReply_mapping {σ : Type} (dev : Device σ) (c : Conn σ) (query : Buffer) (n : Int)
    (mb : ModbusMapping) (received : Received c.ctx.backend query n) :
    (modbusReply dev c query n mb).2.1 =
      (Request.decode (pduAt c.ctx.backend query)).mappingAfter c.ctx.version mb := by
  rw [modbusReply, replySwitch_received c.ctx query n mb received, Request.mappingAfter]
  cases (Request.decode (pduAt c.ctx.backend query)).serve c.ctx.version mb <;> rfl

theorem afterReply_mapping {σ : Type} (query : Buffer)
    (replied : Except Failure Int × ModbusMapping × Conn σ) :
    (afterReply query replied).mapping = replied.2.1 := by
  obtain ⟨result, mapping, conn⟩ := replied
  cases result with
  | ok rc => rfl
  | error e => cases e <;> rfl

section
variable {version : VersionString} {regs : List Word}

theorem serve_single (address data : Word) (inside : address.toNat < regs.length) :
    (Request.writeSingleRegister address data).serve version (registerMapping regs) =
      .ok ⟨.echo (.writeSingleRegister address data), false,
        registerMapping (store regs address.toNat [data])⟩ := by
  have fits : address.toNat + [data].length ≤ regs.length := inside
  have length := store_length regs address.toNat [data] fits
  simp only [Request.serve]
  rw [if_neg (not_not.mpr (registerMapping_covers.mpr inside)), registerMapping_write [data] fits,
    ← registerMapping_set regs length]
  rfl

theorem serve_multiple (address nb : Word) (data : List Byte)
    (accepted : ¬ (nb.toNat < 1 ∨ maxWriteRegisters < nb.toNat ∨ data.length ≠ nb.toNat * 2))
    (inside : address.toNat + nb.toNat ≤ regs.length) :
    (Request.writeMultipleRegisters address nb data).serve version (registerMapping regs) =
      .ok ⟨.written fcWriteMultipleRegisters address nb, false,
        registerMapping (store regs address.toNat (wordsAt (ofBytes data) 0 nb.toNat))⟩ := by
  have fits : address.toNat + (wordsAt (ofBytes data) 0 nb.toNat).length ≤ regs.length := by
    rwa [wordsAt_length]
  have length := store_length regs address.toNat _ fits
  simp only [Request.serve]
  rw [if_neg accepted, if_neg (not_not.mpr (registerMapping_covers.mpr inside)),
    registerMapping_write _ fits, ← registerMapping_set regs length]
  rfl

theorem serve_refused (address nb : Word) (data : List Byte) (mb : ModbusMapping)
    (refused : nb.toNat < 1 ∨ maxWriteRegisters < nb.toNat ∨ data.length ≠ nb.toNat * 2) :
    (Request.writeMultipleRegisters address nb data).serve version mb =
      .ok ⟨.exception fcWriteMultipleRegisters exceptionIllegalDataValue, true, mb⟩ := by
  simp only [Request.serve]
  rw [if_pos refused]
  rfl

end

theorem registerMapping_inj {regs regs' : List Word} :
    registerMapping regs = registerMapping regs' ↔ regs = regs' :=
  ⟨congrArg ModbusMapping.tabRegisters, congrArg registerMapping⟩

/-- The handler agrees with the reply: the request is no multiple write with a wrong byte count, or
the registers already hold what the handler takes from the request. -/
def HandlerAgrees (headerLength : Nat) (query : Buffer) (regs : List Word) : Prop :=
  let address := be16 query (headerLength + 1)
  let nb := be16 query (headerLength + 3)
  ¬ ((query headerLength).toNat = fcWriteMultipleRegisters ∧ 1 ≤ nb ∧
      (query (headerLength + 5)).toNat ≠ 2 * nb) ∨
    slice regs address nb = wordsAt query (headerLength + 7) nb

theorem simulator_small {sim : Simulator} (known : sim ∈ simulators) : sim.numRegisters ≤ 30 := by
  simp only [simulators, List.mem_cons, List.not_mem_nil, or_false] at known
  rcases known with rfl | rfl | rfl <;> decide

theorem mappingAfter_agrees (b : Backend) (query : Buffer) (regs : List Word)
    (version : VersionString) (small : regs.length ≤ 30)
    (inside : TouchesInside b.headerLength query regs) :
    (Request.decode (pduAt b query)).mappingAfter version
        (registerMapping (handledRegisters b.headerLength query regs)) =
      (Request.decode (pduAt b query)).mappingAfter version (registerMapping regs) ↔
        HandlerAgrees b.headerLength query regs := by
  obtain ⟨-, single, multiple⟩ := inside
  have address : (wordAt (pduAt b query) 1).toNat = be16 query (b.headerLength + 1) := wordAt_toNat _ _
  have count : (wordAt (pduAt b query) 3).toNat = be16 query (b.headerLength + 3) := wordAt_toNat _ _
  by_cases write : (query b.headerLength).toNat = fcWriteSingleRegister
  · have bound := single write
    have decoded : Request.decode (pduAt b query) = _ := Request.decode_writeSingleRegister write
    have agrees : HandlerAgrees b.headerLength query regs := by
      left
      rw [write]
      exact fun wrong => absurd wrong.1 (by decide)
    rw [decoded, handledRegisters, if_pos write, Request.mappingAfter, Request.mappingAfter,
      serve_single, serve_single, address]
    · simp only [agrees, iff_true]
      exact congrArg registerMapping (store_store regs _ [_] [_] rfl bound)
    · rwa [address]
    · rw [address, store_length regs _ [_] bound]
      exact bound
  · by_cases many : (query b.headerLength).toNat = fcWriteMultipleRegisters
    · set nb := be16 query (b.headerLength + 3) with nb_def
      set data := bytesAt (pduAt b query) 6 (pduAt b query 5).toNat with data_def
      have decoded : Request.decode (pduAt b query) =
          .writeMultipleRegisters (wordAt (pduAt b query) 1) (wordAt (pduAt b query) 3) data :=
        Request.decode_writeMultipleRegisters many
      have data_length : data.length = (query (b.headerLength + 5)).toNat := bytesAt_length _ _ _
      have words_length : (wordsAt query (b.headerLength + 7) nb).length = nb := wordsAt_length _ _ _
      rw [decoded, handledRegisters, if_neg write, if_pos many, ← nb_def]
      rcases Nat.eq_zero_or_pos nb with zero | positive
      · rw [zero, wordsAt_zero, store_nil]
        simp only [true_iff]
        exact .inl fun wrong => by omega
      · have fits : be16 query (b.headerLength + 1) + nb ≤ regs.length :=
          (multiple many).resolve_left (by omega)
        have inside : be16 query (b.headerLength + 1) +
            (wordsAt query (b.headerLength + 7) nb).length ≤ regs.length := by rwa [words_length]
        have kept := store_length regs _ _ inside
        by_cases exact_bytes : data.length = nb * 2
        · have accepted : ¬ (nb < 1 ∨ maxWriteRegisters < nb ∨ data.length ≠ nb * 2) := by
            simp only [maxWriteRegisters]
            omega
          have agrees : HandlerAgrees b.headerLength query regs := .inl fun wrong => by omega
          rw [Request.mappingAfter, Request.mappingAfter, serve_multiple, serve_multiple, address,
            count]
          · simp only [agrees, iff_true]
            rw [store_store _ _ _ _ (by rw [wordsAt_length, wordsAt_length]) inside]
          · rwa [count]
          · rwa [address, count]
          · rwa [count]
          · rwa [address, count, kept]
        · have refused : nb < 1 ∨ maxWriteRegisters < nb ∨ data.length ≠ nb * 2 :=
            .inr (.inr exact_bytes)
          rw [Request.mappingAfter, Request.mappingAfter, serve_refused _ _ _ _ (by rwa [count]),
            serve_refused _ _ _ _ (by rwa [count])]
          simp only
          rw [registerMapping_inj, store_eq_self_iff _ _ _ inside, words_length]
          refine ⟨.inr, fun agrees => agrees.resolve_left fun matched => matched ⟨many, positive, ?_⟩⟩
          omega
    · have agrees : HandlerAgrees b.headerLength query regs := .inl fun wrong => many wrong.1
      rw [handledRegisters, if_neg write, if_neg many]
      simp only [agrees]

theorem iterate_mapping_iff {σ : Type} (dev : Device σ) (sim : Simulator) (known : sim ∈ simulators)
    (regs : List Word) (size : regs.length = sim.numRegisters) (rounds : Nat) (c c' : Conn σ)
    (buffer query : Buffer) (n : Int)
    (received : receiveNonzero dev rounds c buffer = (.ok n, query, c'))
    (inside : TouchesInside c'.ctx.backend.headerLength query regs) :
    (sim.iterate dev rounds c buffer (registerMapping regs)).mapping =
        (modbusReply dev c' query n (registerMapping regs)).2.1 ↔
      HandlerAgrees c'.ctx.backend.headerLength query regs := by
  have small : regs.length ≤ 30 := size.trans_le (simulator_small known)
  obtain ⟨-, request⟩ := receiveNonzero_received dev rounds c c' buffer query n received
  obtain ⟨updateFile, handled⟩ := handle_inside sim c'.ctx.backend.headerLength
    (by cases c'.ctx.backend <;> decide) small inside
  have iterated : (sim.iterate dev rounds c buffer (registerMapping regs)).mapping =
      (Request.decode (pduAt c'.ctx.backend query)).mappingAfter c'.ctx.version
        (registerMapping (handledRegisters c'.ctx.backend.headerLength query regs)) := by
    rw [Simulator.iterate, received, respondUnlessBroken, Simulator.respond, handled]
    simp only
    rw [afterReply_mapping, modbusReply_mapping dev c' query n _ request]
  rw [iterated, modbusReply_mapping dev c' query n _ request]
  exact mappingAfter_agrees c'.ctx.backend query regs c'.ctx.version small inside

theorem iterate_mapping_iff_writeRegister :
    let c := (Conn.established newTcp []).hear
      [.items 0 [1, 0, 0, 0, 6, 0xFF, 0x06, 0, 1, 0x12, 0x34]]
    let received := receiveNonzero logDevice 1 c fun _ => 0
    (evCharger.iterate logDevice 1 c (fun _ => 0) (registerMapping [10, 10])).mapping =
      (modbusReply logDevice received.2.2 received.2.1 12 (registerMapping [10, 10])).2.1 := by
  intro c received
  have returned : received.1 = .ok 12 := by decide +kernel
  have inside : TouchesInside 7 received.2.1 [10, 10] := ⟨by decide +kernel, by decide +kernel,
    fun multiple => absurd multiple (by decide +kernel)⟩
  refine (iterate_mapping_iff logDevice evCharger (by simp [simulators]) [10, 10] rfl 1 c received.2.2
    (fun _ => 0) received.2.1 12 (Prod.ext returned rfl) inside).2 (.inl fun wrong => ?_)
  exact absurd wrong.1 (by decide +kernel)

theorem refused_write_stored :
    let c := (Conn.established newTcp []).hear
      [.items 0 [1, 0, 0, 0, 11, 0xFF, 0x10, 0, 0, 0, 1, 4, 0, 0x63, 0, 0x07]]
    let received := receiveNonzero logDevice 1 c fun _ => 0
    let after := evCharger.iterate logDevice 1 c (fun _ => 0) (registerMapping [10, 10])
    received.1 = .ok 17 ∧ TouchesInside 7 received.2.1 [10, 10] ∧
      after.conn.line.peer = [[0, 1, 0, 0, 0, 3, 0xFF, 0x90, 0x03]] ∧
      after.mapping.tabRegisters = [0x6300, 10] ∧
      (modbusReply logDevice received.2.2 received.2.1 17 (registerMapping [10, 10])).2.1 =
        registerMapping [10, 10] := by
  refine ⟨?_, ⟨?_, ?_, ?_⟩, ?_, ?_, ?_⟩ <;> decide +kernel

end ModbusNet
