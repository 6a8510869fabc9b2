import ModbusNet.Proof.ClientEffects
import ModbusNet.Proof.Responses

namespace ModbusNet

variable {σ : Type}

/-! ## Accesses -/

/-- A read of the buffer of a response: the index, and how many bytes have been received by then. -/
structure Access where
  index : Nat
  received : Nat

def Access.Inside (a : Access) : Prop := a.index < a.received

section
variable (b : Backend)

def dataLengthReads (msg : Buffer) : List Nat :=
  let function := (msg b.headerLength).toNat
  b.headerLength :: if function ≤ fcReadInputRegisters ∨ function = fcReportSlaveId ∨
    function = fcWriteAndReadRegisters then [b.headerLength + 1] else []

def stepReads (step : Step) (msg : List Byte) : List Nat :=
  match step with
  | .stepFunction => b.headerLength ::
      if computeMetaLengthAfterFunction (msg.getD b.headerLength 0).toNat .confirmation ≠ 0 then []
      else dataLengthReads b (ofBytes msg)
  | .stepMeta => dataLengthReads b (ofBytes msg)
  | .stepData => []

def integrityReads (ctx : Ctx) (msg : List Byte) : List Nat :=
  match ctx.backend with
  | .tcp => []
  | .rtu => 0 ::
      if ((msg.getD 0 0).toNat : Int) ≠ ctx.slave ∧ (msg.getD 0 0).toNat ≠ broadcastAddress then []
      else List.range (msg.length - 2) ++ [msg.length - 1, msg.length - 2]

def preCheckReads : List Nat :=
  match b with
  | .rtu => [0]
  | .tcp => [0, 1, 2, 3]

def valueReads (function : Nat) : List Nat :=
  let offset := b.headerLength
  if function = fcReadCoils ∨ function = fcReadDiscreteInputs then [offset + 1]
  else if function = fcWriteAndReadRegisters ∨ function = fcReadHoldingRegisters ∨
      function = fcReadInputRegisters then [offset + 1]
  else if function = fcWriteMultipleCoils ∨ function = fcWriteMultipleRegisters then
    [offset + 1, offset + 2, offset + 3, offset + 4]
  else if function = fcReportSlaveId then [offset + 1]
  else if function = fcWriteSingleCoil ∨ function = fcWriteSingleRegister then
    [offset + 1, offset + 2, offset + 3, offset + 4]
  else []

def confirmationReads (req rsp : Buffer) (rspLength : Int) : List Nat :=
  let offset := b.headerLength
  let function := (rsp offset).toNat
  offset :: (preCheckReads b ++
    match preCheckConfirmation b req rsp with
    | .error _ => []
    | .ok () =>
        let computed := computeResponseLengthFromRequest b req
        if 0x80 ≤ function then
          if rspLength = (offset + 2 + b.checksumLength : Nat) ∧
              (req offset).toNat + 0x80 = function then [offset + 1]
          else []
        else if (rspLength = computed ∨ computed = msgLengthUndefined) ∧
            function = (req offset).toNat then valueReads b function
        else [])

def ClientOp.copyReads (op : ClientOp) (rc : Int) : List Nat :=
  match op with
  | .readBits .. | .readInputBits .. => List.range' (b.headerLength + 2) rc.toNat
  | .readRegisters .. | .readInputRegisters .. | .writeAndReadRegisters .. =>
      List.range' (b.headerLength + 2) (2 * rc.toNat)
  | .reportSlaveId maxDest _ => List.range' (b.headerLength + 2) (min rc maxDest).toNat
  | _ => []

end

section
variable (dev : Device σ)

def receiveLoopAccesses : Nat → Step → Nat → List Byte → Conn σ → List Access
  | 0, _, _, _, _ => []
  | fuel + 1, step, lengthToRead, msg, c =>
      if lengthToRead = 0 then []
      else
        match dev.select lengthToRead c.line with
        | (.error _, _) => []
        | (.ok (), line) =>
            match dev.recv lengthToRead line with
            | (.error _, _) => []
            | (.ok bytes, line) =>
                if bytes.val = [] then []
                else
                  let msg := msg ++ bytes.val
                  let lengthToRead := lengthToRead - bytes.val.length
                  if lengthToRead ≠ 0 then
                    receiveLoopAccesses fuel step lengthToRead msg { c with line }
                  else
                    (stepReads c.ctx.backend step msg).map (⟨·, msg.length⟩) ++
                      match nextStep c.ctx.backend .confirmation step msg with
                      | .error _ => []
                      | .ok (step, lengthToRead) =>
                          receiveLoopAccesses fuel step lengthToRead msg { c with line }

def receiveMsgAccesses (c : Conn σ) : List Access :=
  if ¬ c.ctx.isConnected then []
  else
    receiveLoopAccesses dev receiveFuel .stepFunction (c.ctx.backend.headerLength + 1) [] c ++
      match receiveLoop dev .confirmation receiveFuel .stepFunction (c.ctx.backend.headerLength + 1)
          [] c with
      | (.error _, _, _) => []
      | (.ok (), msg, c) => (integrityReads c.ctx msg).map (⟨·, msg.length⟩)

def ClientOp.accesses (op : ClientOp) (c c' : Conn σ) : List Access :=
  receiveMsgAccesses dev c' ++
    match modbusReceiveMsg dev .confirmation c' with
    | (.error _, _, _) => []
    | (.ok rc, msg, _) =>
        let b := c.ctx.backend
        let req := ofBytes (op.sentFrame c.ctx)
        let rsp := overlay c.ctx.uninit msg
        (confirmationReads b req rsp rc ++
          match judgeConfirmation b req rsp rc with
          | .error _ => []
          | .ok rc => op.copyReads b rc).map (⟨·, msg.length⟩)

end

/-! ## What the accesses determine -/

theorem preCheckConfirmation_reads {b : Backend} {req rsp rsp' : Buffer}
    (agree : ∀ i ∈ preCheckReads b, rsp i = rsp' i) :
    preCheckConfirmation b req rsp = preCheckConfirmation b req rsp' := by
  cases b with
  | rtu =>
      simp only [preCheckReads, List.forall_mem_singleton] at agree
      simp only [preCheckConfirmation, modbusRtuPreCheckConfirmation, agree]
  | tcp =>
      simp only [preCheckReads, List.forall_mem_cons, List.not_mem_nil, false_imp_iff, implies_true,
        and_true] at agree
      obtain ⟨high, low, protocol_high, protocol_low⟩ := agree
      have protocol : be16 rsp 2 = be16 rsp' 2 := by rw [be16, be16, protocol_high, protocol_low]
      simp only [preCheckConfirmation, modbusTcpPreCheckConfirmation, high, low, protocol]

theorem confirmedValues_reads {b : Backend} {req rsp rsp' : Buffer}
    (function : rsp b.headerLength = rsp' b.headerLength)
    (agree : ∀ i ∈ valueReads b (rsp b.headerLength).toNat, rsp i = rsp' i) :
    confirmedValues b req rsp = confirmedValues b req rsp' := by
  simp only [confirmedValues, ← function]
  simp only [valueReads] at agree
  split_ifs at agree ⊢ <;>
    simp only [List.forall_mem_cons, List.not_mem_nil, false_imp_iff, implies_true, and_true] at agree <;>
    simp only [be16, agree]

theorem judgeConfirmation_reads {b : Backend} {req rsp rsp' : Buffer} {n : Int}
    (agree : ∀ i ∈ confirmationReads b req rsp n, rsp i = rsp' i) :
    judgeConfirmation b req rsp n = judgeConfirmation b req rsp' n := by
  rw [confirmationReads, List.forall_mem_cons, List.forall_mem_append] at agree
  obtain ⟨function, checks, later⟩ := agree
  rw [judgeConfirmation, judgeConfirmation, ← preCheckConfirmation_reads checks]
  cases checked : preCheckConfirmation b req rsp with
  | error e => rfl
  | ok _ =>
      rw [checked] at later
      simp only at later
      simp only [← function]
      by_cases marked : 0x80 ≤ (rsp b.headerLength).toNat
      · rw [if_pos marked] at later
        rw [if_pos marked, if_pos marked]
        by_cases whole : n = (b.headerLength + 2 + b.checksumLength : Nat) ∧
            (req b.headerLength).toNat + 0x80 = (rsp b.headerLength).toNat
        · rw [if_pos whole, List.forall_mem_singleton] at later
          rw [if_pos whole, if_pos whole, later]
        · rw [if_neg whole, if_neg whole]
      · rw [if_neg marked] at later
        rw [if_neg marked, if_neg marked]
        by_cases length : n = computeResponseLengthFromRequest b req ∨
            computeResponseLengthFromRequest b req = msgLengthUndefined
        · rw [if_pos length, if_pos length]
          by_cases same : (rsp b.headerLength).toNat = (req b.headerLength).toNat
          · rw [if_pos ⟨length, same⟩] at later
            rw [if_neg (not_not.mpr same), if_neg (not_not.mpr same),
              confirmedValues_reads function later]
          · rw [if_pos same, if_pos same]
        · rw [if_neg length, if_neg length]

theorem unpackLoop_reads {rsp rsp' : Buffer} (nb : Int) (left i pos : Nat) (dest : Buffer)
    (agree : ∀ j ∈ List.range' i left, rsp j = rsp' j) :
    unpackLoop rsp nb left i pos dest = unpackLoop rsp' nb left i pos dest := by
  induction left generalizing i pos dest with
  | zero => rfl
  | succ left ih =>
      rw [List.range'_succ, List.forall_mem_cons] at agree
      rw [unpackLoop, unpackLoop, agree.1]
      exact ih _ _ _ agree.2

theorem ClientOp.filled_reads {op : ClientOp} {b : Backend} {rc : Int} {rsp rsp' : Buffer}
    (agree : ∀ i ∈ op.copyReads b rc, rsp i = rsp' i) : op.filled b rc rsp = op.filled b rc rsp' := by
  have words : ∀ dest : Nat → Word,
      (∀ i ∈ List.range' (b.headerLength + 2) (2 * rc.toNat), rsp i = rsp' i) →
      decodeRegistersLoop rsp b.headerLength rc.toNat 0 dest =
        decodeRegistersLoop rsp' b.headerLength rc.toNat 0 dest := by
    intro dest same
    rw [decodeRegistersLoop_eq, decodeRegistersLoop_eq]
    funext k
    by_cases inside : 0 ≤ k ∧ k < 0 + rc.toNat
    · rw [if_pos inside, if_pos inside, wordAt, wordAt,
        same _ (List.mem_range'_1.mpr ⟨by omega, by omega⟩),
        same _ (List.mem_range'_1.mpr ⟨by omega, by omega⟩)]
    · rw [if_neg inside, if_neg inside]
  cases op with
  | readBits addr nb dest => exact congrArg Dest.bytes (unpackLoop_reads nb _ _ _ _ agree)
  | readInputBits addr nb dest => exact congrArg Dest.bytes (unpackLoop_reads nb _ _ _ _ agree)
  | readRegisters addr nb dest => exact congrArg Dest.words (words dest agree)
  | readInputRegisters addr nb dest => exact congrArg Dest.words (words dest agree)
  | writeAndReadRegisters _ _ _ _ _ dest => exact congrArg Dest.words (words dest agree)
  | reportSlaveId maxDest dest =>
      simp only [filled, copyLoop_eq]
      congr 1
      funext k
      by_cases inside : 0 ≤ k ∧ k < 0 + (min rc maxDest).toNat
      · rw [if_pos inside, if_pos inside, agree _ (List.mem_range'_1.mpr ⟨by omega, by omega⟩)]
      · rw [if_neg inside, if_neg inside]
  | writeBit => rfl
  | writeRegister => rfl
  | writeBits => rfl
  | writeRegisters => rfl
  | maskWriteRegister => rfl

/-! ## Every access is inside -/

theorem computeMetaLength_pos (function : Nat) :
    0 < computeMetaLengthAfterFunction function .confirmation := by
  simp only [computeMetaLengthAfterFunction]
  split_ifs <;> omega

theorem dataLengthReads_inside {b : Backend} {msg : Buffer} {n : Nat} (head : b.headerLength + 2 ≤ n) :
    ∀ i ∈ dataLengthReads b msg, i < n := by
  simp only [dataLengthReads, List.forall_mem_cons]
  refine ⟨by omega, ?_⟩
  split_ifs
  · rw [List.forall_mem_singleton]
    omega
  · exact List.forall_mem_nil _

theorem Delimits.head {b : Backend} {msg : Buffer} {n : Nat} (delimits : Delimits b .confirmation msg n) :
    b.headerLength + 2 ≤ n := by
  have head := delimits.head_le
  have := computeMetaLength_pos (msg b.headerLength).toNat
  rw [headLength] at head
  omega

theorem stepReads_inside {b : Backend} {msg bytes : List Byte} {step : Step}
    (expecting : Expecting b .confirmation msg bytes.length step) :
    ∀ i ∈ stepReads b step (msg ++ bytes), i < (msg ++ bytes).length := by
  rw [List.length_append]
  cases step with
  | stepFunction =>
      obtain ⟨-, total⟩ := expecting
      rw [stepReads, List.forall_mem_cons, if_pos (Nat.ne_of_gt (computeMetaLength_pos _))]
      exact ⟨by omega, by simp⟩
  | stepMeta =>
      obtain ⟨-, -, total⟩ := expecting
      have := computeMetaLength_pos (ofBytes msg b.headerLength).toNat
      rw [headLength] at total
      exact dataLengthReads_inside (by omega)
  | stepData => exact List.forall_mem_nil _

theorem receiveLoopAccesses_inside (dev : Device σ) (fuel : Nat) (step : Step) (n : Nat)
    (msg : List Byte) (c : Conn σ) (expecting : Expecting c.ctx.backend .confirmation msg n step) :
    ∀ a ∈ receiveLoopAccesses dev fuel step n msg c, a.Inside := by
  induction fuel generalizing step n msg c with
  | zero => exact List.forall_mem_nil _
  | succ fuel ih =>
      rw [receiveLoopAccesses]
      split
      · exact List.forall_mem_nil _
      · split
        · exact List.forall_mem_nil _
        · rename_i line selected
          split
          · exact List.forall_mem_nil _
          · rename_i bytes line' received
            split
            · exact List.forall_mem_nil _
            · simp only
              split
              · rename_i remaining
                exact ih step _ _ { c with line := line' } (expecting.append (by omega))
              · rename_i complete
                have total : bytes.val.length = n := by
                  have := bytes.property
                  omega
                rw [← total] at expecting
                rw [List.forall_mem_append, List.forall_mem_map]
                refine ⟨stepReads_inside expecting, ?_⟩
                split
                · exact List.forall_mem_nil _
                · rename_i step' n' next
                  exact ih step' n' _ { c with line := line' } (nextStep_expecting expecting next)

theorem integrityReads_inside (ctx : Ctx) (msg : List Byte) (positive : 0 < msg.length) :
    ∀ i ∈ integrityReads ctx msg, i < msg.length := by
  unfold integrityReads
  split
  · exact List.forall_mem_nil _
  · rw [List.forall_mem_cons]
    refine ⟨positive, ?_⟩
    split
    · exact List.forall_mem_nil _
    · simp only [List.mem_append, List.mem_range, List.mem_cons, List.not_mem_nil, or_false]
      rintro i (inside | rfl | rfl) <;> omega

theorem receiveMsgAccesses_inside (dev : Device σ) (c : Conn σ) :
    ∀ a ∈ receiveMsgAccesses dev c, a.Inside := by
  rw [receiveMsgAccesses]
  split
  · exact List.forall_mem_nil _
  · rw [List.forall_mem_append]
    have start := start_expecting c.ctx.backend .confirmation
    refine ⟨receiveLoopAccesses_inside dev _ _ _ _ c start, ?_⟩
    split
    · exact List.forall_mem_nil _
    · rename_i msg c' run
      have delimits := (receiveLoop_delimits dev .confirmation _ _ _ [] msg c c' start run).2
      rw [List.forall_mem_map]
      exact integrityReads_inside c'.ctx msg (by have := delimits.head; omega)

theorem valueReads_inside {b : Backend} {msg : Buffer} {n : Nat}
    (delimits : Delimits b .confirmation msg n) :
    ∀ i ∈ valueReads b (msg b.headerLength).toNat, i < n := by
  have head := delimits.head
  have whole := delimits.head_le
  rw [headLength] at whole
  simp only [computeMetaLengthAfterFunction] at whole
  simp only [valueReads]
  split_ifs at whole ⊢ <;>
    simp only [List.forall_mem_cons, List.not_mem_nil, false_imp_iff, implies_true, and_true] <;>
    omega

theorem confirmationReads_inside {b : Backend} {req rsp : Buffer} {n : Nat} {rc : Int}
    (delimits : Delimits b .confirmation rsp n) : ∀ i ∈ confirmationReads b req rsp rc, i < n := by
  have head := delimits.head
  have checks : ∀ i ∈ preCheckReads b, i < n := by
    cases b with
    | rtu =>
        simp only [Backend.headerLength_rtu] at head
        simp only [preCheckReads, List.forall_mem_singleton]
        omega
    | tcp =>
        simp only [Backend.headerLength_tcp] at head
        simp only [preCheckReads, List.forall_mem_cons, List.not_mem_nil, false_imp_iff, implies_true,
          and_true]
        omega
  rw [confirmationReads, List.forall_mem_cons, List.forall_mem_append]
  refine ⟨by omega, checks, ?_⟩
  split
  · exact List.forall_mem_nil _
  · simp only
    split_ifs
    · rw [List.forall_mem_singleton]
      omega
    · exact List.forall_mem_nil _
    · exact valueReads_inside delimits
    · exact List.forall_mem_nil _

/-! ## Waits that end -/

def Device.Timely (dev : Device σ) : Prop :=
  ∀ n l, (dev.select n l).1 = .ok () ∨ ∃ e, (dev.select n l).1 = .error (.errno e)

theorem Expecting.room {b : Backend} {msgType : MsgType} {msg : List Byte} {n : Nat} {step : Step}
    (expecting : Expecting b msgType msg n step) : msg.length + n ≤ b.maxAduLength := by
  have head := headLength_le b msgType (ofBytes msg)
  have size := maxAduLength_eq b
  rw [maxPduLength] at size
  cases step with
  | stepFunction =>
      obtain ⟨-, total⟩ := expecting
      omega
  | stepMeta =>
      obtain ⟨-, -, total⟩ := expecting
      omega
  | stepData =>
      obtain ⟨-, delimits⟩ := expecting
      exact delimits.fits

theorem receiveLoop_ends {dev : Device σ} (timely : dev.Timely) (msgType : MsgType) (fuel : Nat)
    (step : Step) (n : Nat) (msg : List Byte) (c : Conn σ)
    (expecting : Expecting c.ctx.backend msgType msg n step)
    (enough : c.ctx.backend.maxAduLength < fuel + msg.length) {e : Failure}
    (failed : (receiveLoop dev msgType fuel step n msg c).1 = .error e) : ∃ errno, e = .errno errno := by
  have room := expecting.room
  induction fuel generalizing step n msg c with
  | zero => omega
  | succ fuel ih =>
      have round := receiveLoop_does dev msgType fuel step n msg c
      generalize receiveLoop dev msgType (fuel + 1) step n msg c = outcome at round failed
      cases round with
      | done => cases failed
      | @unready e' line selected =>
          obtain rfl : e' = e := Except.error.inj failed
          rcases timely n c.line with ready | ⟨errno, ended⟩
          · rw [selected] at ready
            cases ready
          · rw [selected] at ended
            exact ⟨errno, Except.error.inj ended⟩
      | unread => exact ⟨_, (Except.error.inj failed).symm⟩
      | closed => exact ⟨_, (Except.error.inj failed).symm⟩
      | refused => exact ⟨_, (Except.error.inj failed).symm⟩
      | @more line line' bytes selected received some remaining =>
          have positive := List.length_pos_iff.mpr some
          have later := expecting.append remaining
          exact ih step _ _ { c with line := line' } later
            (by rw [List.length_append]; simp only; omega) failed later.room
      | @next step' n' line line' bytes selected received some complete next =>
          have positive := List.length_pos_iff.mpr some
          rw [← complete] at expecting
          have later := nextStep_expecting expecting next
          exact ih step' n' _ { c with line := line' } later
            (by rw [List.length_append]; simp only; omega) failed later.room

theorem modbusReceiveMsg_ends {dev : Device σ} (timely : dev.Timely) (msgType : MsgType) (c : Conn σ)
    {e : Failure} (failed : (modbusReceiveMsg dev msgType c).1 = .error e) :
    ∃ errno, e = .errno errno := by
  rw [modbusReceiveMsg] at failed
  split at failed
  · exact ⟨_, (Except.error.inj failed).symm⟩
  · split at failed
    · rename_i e' msg c' run
      have size : c.ctx.backend.maxAduLength ≤ 260 := by
        cases c.ctx.backend <;> simp [rtuMaxAduLength, tcpMaxAduLength]
      refine receiveLoop_ends timely msgType receiveFuel _ _ [] c
        (start_expecting c.ctx.backend msgType)
        (by rw [receiveFuel]; simp only [List.length_nil]; omega) ?_
      rw [run]
      exact congrArg _ (Except.error.inj failed)
    · rename_i msg c' run
      rw [checkIntegrity_fst] at failed
      cases e with
      | errno errno => exact ⟨errno, rfl⟩
      | hang => exact absurd failed (integrity_returns _ _)
      | undefined =>
          rw [integrity] at failed
          split at failed
          · cases failed
          · split_ifs at failed
            cases failed

/-! ## What is stored -/

theorem Delimits.counted {b : Backend} {msg : Buffer} {n : Nat} (delimits : Delimits b .confirmation msg n)
    (function : (msg b.headerLength).toNat ∈ [fcReadCoils, fcReadDiscreteInputs, fcReadHoldingRegisters,
      fcReadInputRegisters, fcReportSlaveId, fcWriteAndReadRegisters]) :
    b.headerLength + 2 + (msg (b.headerLength + 1)).toNat ≤ n := by
  have length := delimits.length
  simp only [frameLength, headLength, computeDataLengthAfterMeta] at length
  simp only [List.mem_cons, List.not_mem_nil, or_false] at function
  rcases function with same | same | same | same | same | same <;>
    simp [same, computeMetaLengthAfterFunction] at length <;> omega

section
variable {b : Backend} {req rsp : Buffer} {n m : Nat} (delimits : Delimits b .confirmation rsp n)
  (values : confirmedValues b req rsp = (m, m, true, true))
include delimits values

theorem confirmed_bits (function : (rsp b.headerLength).toNat = fcReadCoils ∨
      (rsp b.headerLength).toNat = fcReadDiscreteInputs) :
    m = byteCount (be16 req (b.headerLength + 3)) ∧ b.headerLength + 2 + m ≤ n := by
  have length := delimits.counted (by simp only [List.mem_cons]; tauto)
  simp only [confirmedValues, if_pos function, Prod.mk.injEq] at values
  omega

theorem confirmed_registers (function : (rsp b.headerLength).toNat = fcWriteAndReadRegisters ∨
      (rsp b.headerLength).toNat = fcReadHoldingRegisters ∨
      (rsp b.headerLength).toNat = fcReadInputRegisters) :
    m = be16 req (b.headerLength + 3) ∧ b.headerLength + 2 + 2 * m ≤ n := by
  have length := delimits.counted (by simp only [List.mem_cons]; tauto)
  have other : ¬ ((rsp b.headerLength).toNat = fcReadCoils ∨
      (rsp b.headerLength).toNat = fcReadDiscreteInputs) := by
    rcases function with same | same | same <;> simp [same]
  simp only [confirmedValues, if_neg other, if_pos function, Prod.mk.injEq] at values
  omega

theorem confirmed_report (function : (rsp b.headerLength).toNat = fcReportSlaveId) :
    m = (rsp (b.headerLength + 1)).toNat ∧ b.headerLength + 2 + m ≤ n := by
  have length := delimits.counted (by simp only [List.mem_cons]; tauto)
  simp [confirmedValues, function] at values
  omega

end

namespace ClientOp

def ReadInRange : ClientOp → Prop
  | .readBits _ nb _ | .readInputBits _ nb _ => CountInRange nb maxReadBits
  | .readRegisters _ nb _ | .readInputRegisters _ nb _ => CountInRange nb maxReadRegisters
  | .writeAndReadRegisters _ _ _ _ nb _ => CountInRange nb maxWrReadRegisters
  | .reportSlaveId maxDest _ => 1 ≤ maxDest
  | _ => False

/-- The call returns its count and stores as many values as that, which it finds in the data of a
response. -/
def Stores (op : ClientOp) (b : Backend) (rsp : Buffer) (rc : Int) (after : Dest) : Prop :=
  let offset := b.headerLength + 2
  match op with
  | .readBits _ nb dest | .readInputBits _ nb dest =>
      rc = nb ∧ after = .bytes (overlay dest (bitCells (fun i => rsp (offset + i)) nb.toNat))
  | .readRegisters _ nb dest | .readInputRegisters _ nb dest
  | .writeAndReadRegisters _ _ _ _ nb dest =>
      rc = nb ∧ after = .words (overlay dest (wordsAt rsp offset nb.toNat))
  | .reportSlaveId maxDest dest =>
      rc = (rsp (b.headerLength + 1)).toNat ∧
        after = .bytes (overlay dest (bytesAt rsp offset (min rc maxDest).toNat))
  | _ => False

theorem range'_inside {offset left n : Nat} (inside : offset + left ≤ n) :
    ∀ i ∈ List.range' offset left, i < n := by
  intro i member
  have := List.mem_range'_1.mp member
  omega

theorem sentFrame_quantity {op : ClientOp} {nb : Int} {limit : Nat} (ctx : Ctx)
    (range : CountInRange nb limit) (small : limit < 65536) (field : (3, nb) ∈ op.fields) :
    be16 (ofBytes (op.sentFrame ctx)) (ctx.backend.headerLength + 3) = nb.toNat := by
  have contains : Contains ctx.backend (ofBytes (op.sentFrame ctx)) op.pdu :=
    (op.sentFrame_carries ctx).contains fun _ _ => rfl
  obtain ⟨quantity, inside⟩ := op.pdu_fields 3 nb field
  obtain ⟨low, high⟩ := range
  rw [contains.word 3 inside]
  omega

section
variable {op : ClientOp} {ctx : Ctx} {msg : Buffer} {n : Nat} {rc k : Int}
  (delimits : Delimits ctx.backend .confirmation msg n)
  (judged : judgeConfirmation ctx.backend (ofBytes (op.sentFrame ctx)) msg rc = .ok k)
include delimits judged

theorem judged_bits {nb : Int} (range : CountInRange nb maxReadBits) (field : (3, nb) ∈ op.fields)
    (function : op.request.function = fcReadCoils ∨ op.request.function = fcReadDiscreteInputs) :
    k.toNat = byteCount nb.toNat ∧ ctx.backend.headerLength + 2 + k.toNat ≤ n := by
  obtain ⟨m, rfl, answered, -, values⟩ := judged_values judged
  rw [← answered] at function
  rw [← sentFrame_quantity ctx range (by decide) field]
  exact confirmed_bits delimits values function

theorem judged_registers {nb : Int} {limit : Nat} (range : CountInRange nb limit)
    (small : limit < 65536) (field : (3, nb) ∈ op.fields)
    (function : op.request.function = fcWriteAndReadRegisters ∨
      op.request.function = fcReadHoldingRegisters ∨ op.request.function = fcReadInputRegisters) :
    k = nb ∧ ctx.backend.headerLength + 2 + 2 * k.toNat ≤ n := by
  obtain ⟨m, rfl, answered, -, values⟩ := judged_values judged
  rw [← answered] at function
  obtain ⟨count, inside⟩ := confirmed_registers delimits values function
  rw [sentFrame_quantity ctx range small field] at count
  obtain ⟨low, high⟩ := range
  exact ⟨by omega, inside⟩

theorem judged_report (function : op.request.function = fcReportSlaveId) :
    k = (msg (ctx.backend.headerLength + 1)).toNat ∧ ctx.backend.headerLength + 2 + k.toNat ≤ n := by
  obtain ⟨m, rfl, answered, -, values⟩ := judged_values judged
  rw [← answered] at function
  obtain ⟨count, inside⟩ := confirmed_report delimits values function
  exact ⟨congrArg _ count, inside⟩

theorem judged_stores (range : op.ReadInRange) :
    (∀ i ∈ op.copyReads ctx.backend k, i < n) ∧
      op.Stores ctx.backend msg (op.returned k) (op.filled ctx.backend k msg) := by
  have bits : ∀ nb dest, k.toNat = byteCount nb.toNat → (0 : Int) ≤ nb →
      unpackLoop msg nb k.toNat (ctx.backend.headerLength + 2) 0 dest =
        overlay dest (bitCells (fun i => msg (ctx.backend.headerLength + 2 + i)) nb.toNat) := by
    intro nb dest count pos
    obtain ⟨nb, rfl⟩ := Int.eq_ofNat_of_zero_le pos
    rw [count]
    exact unpackLoop_overlay _ _ _ _
  cases op with
  | readBits addr nb dest =>
      obtain ⟨count, inside⟩ := judged_bits delimits judged range (by simp [fields]) (.inl rfl)
      exact ⟨range'_inside inside, rfl, congrArg _ (bits nb dest count (by have := range.1; omega))⟩
  | readInputBits addr nb dest =>
      obtain ⟨count, inside⟩ := judged_bits delimits judged range (by simp [fields]) (.inr rfl)
      exact ⟨range'_inside inside, rfl, congrArg _ (bits nb dest count (by have := range.1; omega))⟩
  | readRegisters addr nb dest =>
      obtain ⟨rfl, inside⟩ := judged_registers delimits judged range (by decide) (by simp [fields])
        (.inr (.inl rfl))
      exact ⟨range'_inside inside, rfl, congrArg _ (decodeRegistersLoop_overlay _ _ _ _)⟩
  | readInputRegisters addr nb dest =>
      obtain ⟨rfl, inside⟩ := judged_registers delimits judged range (by decide) (by simp [fields])
        (.inr (.inr rfl))
      exact ⟨range'_inside inside, rfl, congrArg _ (decodeRegistersLoop_overlay _ _ _ _)⟩
  | writeAndReadRegisters writeAddr writeNb src readAddr readNb dest =>
      obtain ⟨rfl, inside⟩ := judged_registers delimits judged range (by decide) (by simp [fields])
        (.inl rfl)
      exact ⟨range'_inside inside, rfl, congrArg _ (decodeRegistersLoop_overlay _ _ _ _)⟩
  | reportSlaveId maxDest dest =>
      obtain ⟨count, inside⟩ := judged_report delimits judged rfl
      exact ⟨range'_inside (by omega), count, congrArg _ (copyLoop_overlay _ _ _ _)⟩
  | writeBit => exact range.elim
  | writeRegister => exact range.elim
  | writeBits => exact range.elim
  | writeRegisters => exact range.elim
  | maskWriteRegister => exact range.elim

end

/-- Whatever the peer sends, a read whose request has been sent in full reads of the response what has
been received, and it fails and leaves its destination alone, or it stores as many values of the
response as it returns. -/
theorem run_stores (op : ClientOp) (range : op.ReadInRange) (dev : Device σ) (timely : dev.Timely)
    (c c' : Conn σ) (sent : op.SentInFull dev c c') :
    (∀ a ∈ op.accesses dev c c', a.Inside) ∧
      (((∃ e, (op.run dev c).1 = .error (.errno e)) ∧ (op.run dev c).2.1 = op.dest) ∨
        ∃ rc n msg c'', modbusReceiveMsg dev .confirmation c' = (.ok rc, msg, c'') ∧
          (op.run dev c).1 = .ok n ∧ op.Stores c.ctx.backend (ofBytes msg) n (op.run dev c).2.1) := by
  have receiving := receiveMsgAccesses_inside dev c'
  have ends := sent.run_ends
  generalize op.run dev c = result at ends
  unfold accesses
  cases ends with
  | unanswered received =>
      refine ⟨?_, .inl ⟨?_, rfl⟩⟩
      · rw [received]
        simpa using receiving
      · obtain ⟨errno, rfl⟩ := modbusReceiveMsg_ends timely .confirmation c' (congrArg Prod.fst received)
        exact ⟨errno, rfl⟩
  | rejected received judged =>
      have delimits := (modbusReceiveMsg_ok dev received).2.1
      rw [sent.backend] at delimits
      have delimited := delimits.agree fun i bound => (overlay_agree c.ctx.uninit _ i bound).symm
      refine ⟨?_, .inl ⟨⟨_, rfl⟩, rfl⟩⟩
      rw [received, List.forall_mem_append]
      simp only [judged, List.append_nil, List.forall_mem_map]
      exact ⟨receiving, confirmationReads_inside delimited⟩
  | @confirmed rc k msg c'' received judged =>
      have delimits := (modbusReceiveMsg_ok dev received).2.1
      rw [sent.backend] at delimits
      have agree := overlay_agree c.ctx.uninit msg
      have delimited := delimits.agree fun i bound => (agree i bound).symm
      have checks : ∀ i ∈ confirmationReads c.ctx.backend (ofBytes (op.sentFrame c.ctx))
          (overlay c.ctx.uninit msg) rc, i < msg.length := confirmationReads_inside delimited
      -- The decision and the values are those of the bytes received alone.
      have decided := judgeConfirmation_reads fun i read => agree i (checks i read)
      rw [judged] at decided
      obtain ⟨copies, stores⟩ := judged_stores delimits decided.symm range
      refine ⟨?_, .inr ⟨rc, _, msg, c'', received, rfl, ?_⟩⟩
      · rw [received, List.forall_mem_append]
        simp only [judged, List.forall_mem_map, List.forall_mem_append]
        exact ⟨receiving, checks, copies⟩
      · rw [filled_reads fun i read => agree i (copies i read)]
        exact stores

def twoRegisters : ClientOp := .readRegisters 0 2 fun _ => 0

def registersPeer : Device Nat :=
  piecesDevice (ofBytes [0, 1, 0, 0, 0, 7, 0xFF, 3, 4, 0, 10, 0, 11]) id

theorem run_stores_twoRegisters :
    (twoRegisters.run registersPeer listener).1 = .ok 2 ∧
      ∃ msg, twoRegisters.Stores .tcp (ofBytes msg) 2 (twoRegisters.run registersPeer listener).2.1 := by
  have sent : twoRegisters.SentInFull registersPeer listener ⟨listener.ctx.nextRequest, 0⟩ :=
    ⟨rfl, by simp [sendFrame, sendLoop, registersPeer, piecesDevice, listener]⟩
  have success : (twoRegisters.run registersPeer listener).1 = .ok 2 := by decide +kernel
  obtain ⟨-, ⟨⟨e, failed⟩, -⟩ | ⟨rc, n, msg, c'', -, returned, stores⟩⟩ :=
    run_stores twoRegisters ⟨by decide, by decide⟩ registersPeer (fun _ _ => .inl rfl) listener _ sent
  · rw [success] at failed
    cases failed
  · rw [success] at returned
    obtain rfl := Except.ok.inj returned
    exact ⟨success, msg, stores⟩

end ClientOp

end ModbusNet
