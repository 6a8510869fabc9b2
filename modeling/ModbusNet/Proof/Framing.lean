import ModbusNet.Model.Line

namespace ModbusNet

def headLength (b : Backend) (msgType : MsgType) (msg : Buffer) : Nat :=
  b.headerLength + 1 + computeMetaLengthAfterFunction (msg b.headerLength).toNat msgType

def frameLength (b : Backend) (msgType : MsgType) (msg : Buffer) : Nat :=
  headLength b msgType msg + computeDataLengthAfterMeta b msg msgType

structure Delimits (b : Backend) (msgType : MsgType) (msg : Buffer) (n : Nat) : Prop where
  length : n = frameLength b msgType msg
  fits : n ≤ b.maxAduLength

theorem headLength_pos (b : Backend) (msgType : MsgType) (msg : Buffer) :
    b.headerLength < headLength b msgType msg := by
  unfold headLength
  omega

theorem headLength_agree {b : Backend} {msgType : MsgType} {msg msg' : Buffer} {n : Nat}
    (agree : AgreeBelow n msg msg') (bound : b.headerLength < n) :
    headLength b msgType msg = headLength b msgType msg' := by
  rw [headLength, headLength, agree _ bound]

theorem dataLength_agree {b : Backend} {msgType : MsgType} {msg msg' : Buffer}
    (agree : AgreeBelow (headLength b msgType msg) msg msg') :
    computeDataLengthAfterMeta b msg msgType = computeDataLengthAfterMeta b msg' msgType := by
  have function := agree _ (headLength_pos b msgType msg)
  have later : ∀ i, i < headLength b msgType msg → msg i = msg' i := agree
  unfold computeDataLengthAfterMeta
  rw [← function]
  generalize hf : (msg b.headerLength).toNat = f at *
  cases msgType with
  | indication =>
      simp only [headLength, hf, computeMetaLengthAfterFunction] at later
      by_cases multiple : f = fcWriteMultipleCoils ∨ f = fcWriteMultipleRegisters
      · have : ¬ f ≤ fcWriteSingleRegister := by
          rcases multiple with rfl | rfl <;> simp
        simp only [if_neg this, if_pos multiple] at later
        simp only [if_pos multiple, later (b.headerLength + 5) (by omega)]
      · by_cases both : f = fcWriteAndReadRegisters
        · subst both
          have := later (b.headerLength + 9) (by simp)
          simp only [if_neg multiple, this]
        · simp only [if_neg multiple, if_neg both]
  | confirmation =>
      by_cases counted : f ≤ fcReadInputRegisters ∨ f = fcReportSlaveId ∨ f = fcWriteAndReadRegisters
      · simp only [headLength, hf, computeMetaLengthAfterFunction] at later
        have meta_pos : b.headerLength + 1 < b.headerLength + 1 +
            (if f = fcWriteSingleCoil ∨ f = fcWriteSingleRegister ∨ f = fcWriteMultipleCoils ∨
              f = fcWriteMultipleRegisters then 4 else if f = fcMaskWriteRegister then 6 else 1) := by
          split
          · omega
          · split <;> omega
        simp only [if_pos counted, later _ meta_pos]
      · simp only [if_neg counted]

theorem frameLength_agree {b : Backend} {msgType : MsgType} {msg msg' : Buffer}
    (agree : AgreeBelow (headLength b msgType msg) msg msg') :
    frameLength b msgType msg = frameLength b msgType msg' := by
  rw [frameLength, frameLength, dataLength_agree agree,
    headLength_agree agree (headLength_pos b msgType msg)]

theorem Delimits.head_le {b : Backend} {msgType : MsgType} {msg : Buffer} {n : Nat}
    (delimits : Delimits b msgType msg n) : headLength b msgType msg ≤ n := by
  rw [delimits.length, frameLength]
  omega

theorem Delimits.agree {b : Backend} {msgType : MsgType} {msg msg' : Buffer} {n : Nat}
    (delimits : Delimits b msgType msg n) (agree : AgreeBelow n msg msg') :
    Delimits b msgType msg' n where
  length := by
    rw [delimits.length]
    exact frameLength_agree fun i bound => agree i (bound.trans_le delimits.head_le)
  fits := delimits.fits

/-! ## Any device -/

def Expecting (b : Backend) (msgType : MsgType) (msg : List Byte) (n : Nat) : Step → Prop
  | .stepFunction => 0 < n ∧ msg.length + n = b.headerLength + 1
  | .stepMeta => 0 < n ∧ b.headerLength < msg.length ∧
      msg.length + n = headLength b msgType (ofBytes msg)
  | .stepData => headLength b msgType (ofBytes msg) ≤ msg.length ∧
      Delimits b msgType (ofBytes msg) (msg.length + n)

theorem Expecting.append {b : Backend} {msgType : MsgType} {msg bytes : List Byte} {n : Nat}
    {step : Step} (expecting : Expecting b msgType msg n step) (short : bytes.length < n) :
    Expecting b msgType (msg ++ bytes) (n - bytes.length) step := by
  have agree : AgreeBelow msg.length (ofBytes msg) (ofBytes (msg ++ bytes)) :=
    fun i bound => (ofBytes_append_left msg bytes i bound).symm
  cases step with
  | stepFunction =>
      simp only [Expecting, List.length_append] at expecting ⊢
      omega
  | stepMeta =>
      obtain ⟨pos, inside, total⟩ := expecting
      rw [headLength_agree agree inside] at total
      refine ⟨by omega, ?_, ?_⟩ <;> rw [List.length_append] <;> omega
  | stepData =>
      obtain ⟨inside, delimits⟩ := expecting
      have within := headLength_pos b msgType (ofBytes msg)
      have head : headLength b msgType (ofBytes msg) = headLength b msgType (ofBytes (msg ++ bytes)) :=
        headLength_agree agree (within.trans_le inside)
      constructor
      · rw [← head, List.length_append]
        omega
      · have total : (msg ++ bytes).length + (n - bytes.length) = msg.length + n := by
          rw [List.length_append]
          omega
        rw [total]
        refine ⟨?_, delimits.fits⟩
        rw [delimits.length]
        exact frameLength_agree fun i bound => agree i (bound.trans_le inside)

theorem metaArm_expecting {b : Backend} {msgType : MsgType} {msg : List Byte} {step : Step} {n : Nat}
    (head : msg.length = headLength b msgType (ofBytes msg))
    (next : metaArm b msgType msg = .ok (step, n)) :
    Expecting b msgType msg n step := by
  simp only [metaArm] at next
  split at next
  · cases next
  · rename_i fits
    obtain ⟨rfl, rfl⟩ := Prod.mk.inj (Except.ok.inj next)
    refine ⟨head.ge, ?_, by omega⟩
    rw [frameLength, head]

theorem nextStep_expecting {b : Backend} {msgType : MsgType} {msg bytes : List Byte}
    {step step' : Step} {n' : Nat} (expecting : Expecting b msgType msg bytes.length step)
    (next : nextStep b msgType step (msg ++ bytes) = .ok (step', n')) :
    Expecting b msgType (msg ++ bytes) n' step' := by
  have agree : AgreeBelow msg.length (ofBytes msg) (ofBytes (msg ++ bytes)) :=
    fun i bound => (ofBytes_append_left msg bytes i bound).symm
  cases step with
  | stepFunction =>
      have length : (msg ++ bytes).length = b.headerLength + 1 := by
        rw [List.length_append]
        exact expecting.2
      simp only [nextStep] at next
      split at next
      · rename_i more
        obtain ⟨rfl, rfl⟩ := Prod.mk.inj (Except.ok.inj next)
        refine ⟨by omega, by omega, ?_⟩
        rw [headLength, length]
        rfl
      · rename_i none
        refine metaArm_expecting ?_ next
        simp only [ne_eq, not_not] at none
        rw [headLength, length, ofBytes, none]
  | stepMeta =>
      refine metaArm_expecting ?_ next
      obtain ⟨pos, inside, total⟩ := expecting
      rw [← headLength_agree agree inside, List.length_append, total]
  | stepData =>
      obtain ⟨inside, delimits⟩ := expecting
      obtain ⟨rfl, rfl⟩ := Prod.mk.inj (Except.ok.inj next)
      have within := headLength_pos b msgType (ofBytes msg)
      constructor
      · rw [← headLength_agree agree (within.trans_le inside), List.length_append]
        omega
      · rw [Nat.add_zero, List.length_append]
        refine ⟨?_, delimits.fits⟩
        rw [delimits.length]
        exact frameLength_agree fun i bound => agree i (bound.trans_le inside)

variable {σ : Type}

inductive LoopRound (dev : Device σ) (msgType : MsgType) (fuel : Nat) (step : Step) (n : Nat)
    (msg : List Byte) (c : Conn σ) : Except Failure Unit × List Byte × Conn σ → Prop
  | done (finished : n = 0) : LoopRound dev msgType fuel step n msg c (.ok (), msg, c)
  | unready {e : Failure} {line : σ} (selected : dev.select n c.line = (.error e, line)) :
      LoopRound dev msgType fuel step n msg c (.error e, msg, recoverSelect dev e { c with line })
  | unread {e : Errno} {line line' : σ} (selected : dev.select n c.line = (.ok (), line))
      (received : dev.recv n line = (.error e, line')) :
      LoopRound dev msgType fuel step n msg c
        (.error (.errno e), msg, recoverRead dev e { c with line := line' })
  | closed {line line' : σ} {bytes : { bytes : List Byte // bytes.length ≤ n }}
      (selected : dev.select n c.line = (.ok (), line))
      (received : dev.recv n line = (.ok bytes, line')) :
      LoopRound dev msgType fuel step n msg c
        (.error (.errno .econnreset), msg, recoverRead dev .econnreset { c with line := line' })
  | more {line line' : σ} {bytes : { bytes : List Byte // bytes.length ≤ n }}
      (selected : dev.select n c.line = (.ok (), line))
      (received : dev.recv n line = (.ok bytes, line'))
      (some : bytes.val ≠ []) (remaining : bytes.val.length < n) :
      LoopRound dev msgType fuel step n msg c
        (receiveLoop dev msgType fuel step (n - bytes.val.length) (msg ++ bytes.val)
          { c with line := line' })
  | refused {e : Errno} {line line' : σ} {bytes : { bytes : List Byte // bytes.length ≤ n }}
      (selected : dev.select n c.line = (.ok (), line))
      (received : dev.recv n line = (.ok bytes, line'))
      (next : nextStep c.ctx.backend msgType step (msg ++ bytes.val) = .error e) :
      LoopRound dev msgType fuel step n msg c
        (.error (.errno e), msg ++ bytes.val, { c with line := line' })
  | next {step' : Step} {n' : Nat} {line line' : σ} {bytes : { bytes : List Byte // bytes.length ≤ n }}
      (selected : dev.select n c.line = (.ok (), line))
      (received : dev.recv n line = (.ok bytes, line'))
      (some : bytes.val ≠ []) (complete : bytes.val.length = n)
      (next : nextStep c.ctx.backend msgType step (msg ++ bytes.val) = .ok (step', n')) :
      LoopRound dev msgType fuel step n msg c
        (receiveLoop dev msgType fuel step' n' (msg ++ bytes.val) { c with line := line' })

theorem receiveLoop_does (dev : Device σ) (msgType : MsgType) (fuel : Nat) (step : Step) (n : Nat)
    (msg : List Byte) (c : Conn σ) :
    LoopRound dev msgType fuel step n msg c (receiveLoop dev msgType (fuel + 1) step n msg c) := by
  rw [receiveLoop]
  split
  · rename_i finished
    exact .done finished
  · split
    · rename_i e line selected
      exact .unready selected
    · rename_i line selected
      split
      · rename_i e line' received
        exact .unread selected received
      · rename_i bytes line' received
        have short := bytes.property
        simp only
        split
        · exact .closed selected received
        · rename_i some
          split
          · exact .more selected received some (by omega)
          · split
            · rename_i e next
              exact .refused selected received next
            · rename_i step' n' next
              exact .next selected received some (by omega) next

theorem receiveLoop_delimits (dev : Device σ) (msgType : MsgType) (fuel : Nat) (step : Step)
    (n : Nat) (msg msg' : List Byte) (c c' : Conn σ)
    (expecting : Expecting c.ctx.backend msgType msg n step)
    (result : receiveLoop dev msgType fuel step n msg c = (.ok (), msg', c')) :
    c'.ctx = c.ctx ∧ Delimits c.ctx.backend msgType (ofBytes msg') msg'.length := by
  induction fuel generalizing step n msg c with
  | zero => simp [receiveLoop] at result
  | succ fuel ih =>
      have round := receiveLoop_does dev msgType fuel step n msg c
      generalize receiveLoop dev msgType (fuel + 1) step n msg c = outcome at round result
      cases round with
      | done finished =>
          subst finished
          obtain ⟨rfl, rfl⟩ : msg = msg' ∧ c = c' := by simpa using result
          cases step with
          | stepFunction => exact absurd expecting.1 (lt_irrefl 0)
          | stepMeta => exact absurd expecting.1 (lt_irrefl 0)
          | stepData => exact ⟨rfl, expecting.2⟩
      | unready => cases result
      | unread => cases result
      | closed => cases result
      | refused => cases result
      | @more line line' _ selected received some remaining =>
          exact ih step _ _ { c with line := line' } (expecting.append remaining) result
      | @next step' n' line line' _ selected received some complete next =>
          rw [← complete] at expecting
          exact ih step' n' _ { c with line := line' } (nextStep_expecting expecting next) result

theorem start_expecting (b : Backend) (msgType : MsgType) :
    Expecting b msgType [] (b.headerLength + 1) .stepFunction := ⟨by omega, by simp⟩

/-! ## A line -/

variable {π : Type} (react : React π)

def Conn.withIncoming (c : Conn (Line π)) (incoming : Incoming Byte) : Conn (Line π) :=
  { c with line := { c.line with incoming } }

@[simp] theorem withIncoming_ctx (c : Conn (Line π)) (incoming : Incoming Byte) :
    (c.withIncoming incoming).ctx = c.ctx := rfl

@[simp] theorem withIncoming_peer (c : Conn (Line π)) (incoming : Incoming Byte) :
    (c.withIncoming incoming).line.peer = c.line.peer := rfl

@[simp] theorem withIncoming_incoming (c : Conn (Line π)) (incoming : Incoming Byte) :
    (c.withIncoming incoming).line.incoming = incoming := rfl

@[simp] theorem withIncoming_withIncoming (c : Conn (Line π)) (incoming incoming' : Incoming Byte) :
    (c.withIncoming incoming).withIncoming incoming' = c.withIncoming incoming' := rfl

theorem receiveLoop_round (msgType : MsgType) (step : Step) (fuel n : Nat) (bytes msg : List Byte)
    (rest : List (Signal Byte)) (c : Conn (Line π)) (length : bytes.length = n) (pos : n ≠ 0)
    (next : c.line.incoming.signals = bytes.map .item ++ rest) :
    ∃ got later incoming, got ≠ [] ∧ bytes = got ++ later ∧
      incoming.signals = later.map .item ++ rest ∧
      receiveLoop (lineDevice react) msgType (fuel + 1) step n msg c =
        if n - got.length ≠ 0 then
          receiveLoop (lineDevice react) msgType fuel step (n - got.length) (msg ++ got)
            (c.withIncoming incoming)
        else
          match nextStep c.ctx.backend msgType step (msg ++ got) with
          | .error e => (.error (.errno e), msg ++ got, c.withIncoming incoming)
          | .ok (step, n) =>
              receiveLoop (lineDevice react) msgType fuel step n (msg ++ got)
                (c.withIncoming incoming) := by
  obtain ⟨first, more, rfl⟩ : ∃ first more, bytes = first :: more := by
    cases bytes with
    | nil => exact absurd length.symm pos
    | cons first more => exact ⟨first, more, rfl⟩
  obtain ⟨as, future, ready, queued⟩ := Incoming.wait_item c.line.incoming first _ next
  rw [next] at queued
  obtain ⟨later, split, tail⟩ := Incoming.take_items n _ _ _ queued length.ge
  have got_some : (Incoming.take n ⟨first :: as, future⟩).1 ≠ [] := by
    simp [Incoming.take, pos]
  have selected : (lineDevice react).select n c.line =
      (.ok (), { c.line with incoming := ⟨first :: as, future⟩ }) := by
    simp only [lineDevice, lineSelect, ready]
  refine ⟨_, later, _, got_some, split, tail, ?_⟩
  rw [receiveLoop, if_neg pos, selected]
  exact if_neg got_some

theorem receiveLoop_step (msgType : MsgType) (step : Step) (fuel n : Nat) (bytes msg : List Byte)
    (rest : List (Signal Byte)) (c : Conn (Line π)) (length : bytes.length = n) (pos : n ≠ 0)
    (next : c.line.incoming.signals = bytes.map .item ++ rest) (enough : n ≤ fuel) :
    ∃ fuel' incoming, fuel ≤ fuel' + n ∧ incoming.signals = rest ∧
      receiveLoop (lineDevice react) msgType fuel step n msg c =
        match nextStep c.ctx.backend msgType step (msg ++ bytes) with
        | .error e => (.error (.errno e), msg ++ bytes, c.withIncoming incoming)
        | .ok (step, n) =>
            receiveLoop (lineDevice react) msgType fuel' step n (msg ++ bytes)
              (c.withIncoming incoming) := by
  induction fuel generalizing n bytes msg c with
  | zero => omega
  | succ fuel ih =>
      obtain ⟨got, later, incoming, got_some, rfl, tail, round⟩ :=
        receiveLoop_round react msgType step fuel n bytes msg rest c length pos next
      have positive := List.length_pos_of_ne_nil got_some
      rw [List.length_append] at length
      rw [round]
      -- A round reads some of the bytes; the step goes on with the others.
      by_cases remaining : n - got.length = 0
      · have done : later = [] := List.length_eq_zero_iff.mp (by omega)
        subst done
        refine ⟨fuel, incoming, by omega, by simpa using tail, ?_⟩
        rw [if_neg (not_not.mpr remaining), List.append_nil]
      · obtain ⟨fuel', incoming', fueled, rest', run⟩ :=
          ih (n - got.length) later (msg ++ got) (c.withIncoming incoming) (by omega) remaining
            tail (by omega)
        refine ⟨fuel', incoming', by omega, rest', ?_⟩
        rw [if_pos remaining, run, List.append_assoc]
        rfl

theorem receiveLoop_head (msgType : MsgType) (fuel : Nat) (head : List Byte)
    (rest : List (Signal Byte)) (c : Conn (Line π))
    (length : head.length = headLength c.ctx.backend msgType (ofBytes head))
    (next : c.line.incoming.signals = head.map .item ++ rest) (enough : head.length ≤ fuel) :
    ∃ fuel' incoming, fuel ≤ fuel' + head.length ∧ incoming.signals = rest ∧
      receiveLoop (lineDevice react) msgType fuel .stepFunction (c.ctx.backend.headerLength + 1) []
          c =
        match metaArm c.ctx.backend msgType head with
        | .error e => (.error (.errno e), head, c.withIncoming incoming)
        | .ok (step, n) =>
            receiveLoop (lineDevice react) msgType fuel' step n head (c.withIncoming incoming) := by
  set b := c.ctx.backend with backend
  have total := length
  rw [headLength] at total
  obtain ⟨start, after, rfl, start_length⟩ : ∃ start after, head = start ++ after ∧
      start.length = b.headerLength + 1 :=
    ⟨head.take (b.headerLength + 1), head.drop (b.headerLength + 1),
      (List.take_append_drop _ _).symm, by rw [List.length_take]; omega⟩
  have function : ofBytes (start ++ after) b.headerLength = start.getD b.headerLength 0 :=
    ofBytes_append_left start after _ (by omega)
  rw [function, List.length_append] at total
  rw [List.length_append] at enough
  rw [List.map_append, List.append_assoc] at next
  obtain ⟨fuel₁, incoming₁, fueled₁, rest₁, run₁⟩ :=
    receiveLoop_step react msgType .stepFunction fuel (b.headerLength + 1) start [] _ c start_length
      (by omega) next (by omega)
  rw [run₁, List.nil_append, ← backend, List.length_append]
  simp only [nextStep]
  by_cases more : computeMetaLengthAfterFunction (start.getD b.headerLength 0).toNat msgType = 0
  · have none : after = [] := List.length_eq_zero_iff.mp (by omega)
    subst none
    refine ⟨fuel₁, incoming₁, by simpa [start_length] using fueled₁, by simpa using rest₁, ?_⟩
    rw [if_neg (not_not.mpr more), List.append_nil]
  · obtain ⟨fuel₂, incoming₂, fueled₂, rest₂, run₂⟩ :=
      receiveLoop_step react msgType .stepMeta fuel₁
        (computeMetaLengthAfterFunction (start.getD b.headerLength 0).toNat msgType) after start rest
        (c.withIncoming incoming₁) (by omega) more rest₁ (by omega)
    refine ⟨fuel₂, incoming₂, by omega, rest₂, ?_⟩
    rw [if_pos more]
    exact run₂

theorem receiveLoop_frame (msgType : MsgType) (fuel : Nat) (frame : List Byte)
    (rest : List (Signal Byte)) (c : Conn (Line π))
    (delimits : Delimits c.ctx.backend msgType (ofBytes frame) frame.length)
    (next : c.line.incoming.signals = frame.map .item ++ rest) (enough : frame.length < fuel) :
    ∃ incoming, incoming.signals = rest ∧
      receiveLoop (lineDevice react) msgType fuel .stepFunction (c.ctx.backend.headerLength + 1) []
        c = (.ok (), frame, c.withIncoming incoming) := by
  set b := c.ctx.backend with backend
  have within := headLength_pos b msgType (ofBytes frame)
  obtain ⟨head, data, rfl, head_length⟩ : ∃ head data, frame = head ++ data ∧
      head.length = headLength b msgType (ofBytes frame) :=
    ⟨frame.take _, frame.drop _, (List.take_append_drop _ _).symm, by
      rw [List.length_take, Nat.min_eq_left delimits.head_le]⟩
  -- The lengths are computed from the head alone, so that the data cannot change them.
  have agree : AgreeBelow (headLength b msgType (ofBytes (head ++ data))) (ofBytes (head ++ data))
      (ofBytes head) := head_length ▸ ofBytes_append_left head data
  have own_length : head.length = headLength b msgType (ofBytes head) := by
    rw [head_length, headLength_agree agree within]
  have data_length : data.length = computeDataLengthAfterMeta b (ofBytes head) msgType := by
    have length := delimits.length
    rw [frameLength, dataLength_agree agree, ← head_length, List.length_append] at length
    omega
  have fits := delimits.fits
  rw [List.length_append] at enough fits
  rw [List.map_append, List.append_assoc] at next
  obtain ⟨fuel₁, incoming₁, fueled₁, rest₁, run₁⟩ :=
    receiveLoop_head react msgType fuel head _ c own_length next (by omega)
  have arm : metaArm b msgType head = .ok (.stepData, data.length) := by
    simp only [metaArm, ← data_length]
    exact if_neg (by omega)
  rw [run₁, ← backend, arm]
  obtain ⟨fuel₁, rfl⟩ : ∃ k, fuel₁ = k + 1 := ⟨fuel₁ - 1, by omega⟩
  by_cases none : data.length = 0
  · have empty := List.length_eq_zero_iff.mp none
    subst empty
    exact ⟨incoming₁, by simpa using rest₁, by simp [receiveLoop]⟩
  · obtain ⟨fuel₂, incoming₂, fueled₂, rest₂, run₂⟩ :=
      receiveLoop_step react msgType .stepData (fuel₁ + 1) data.length data head rest
        (c.withIncoming incoming₁) rfl none rest₁ (by omega)
    refine ⟨incoming₂, rest₂, ?_⟩
    obtain ⟨fuel₂, rfl⟩ : ∃ k, fuel₂ = k + 1 := ⟨fuel₂ - 1, by omega⟩
    refine run₂.trans ?_
    simp [nextStep, receiveLoop]

/-- `_modbus_receive_msg` reads exactly the message that comes next. -/
theorem modbusReceiveMsg_frame (msgType : MsgType) (frame : List Byte) (rest : List (Signal Byte))
    (c : Conn (Line π)) (connected : c.ctx.isConnected)
    (delimits : Delimits c.ctx.backend msgType (ofBytes frame) frame.length)
    (next : c.line.incoming.signals = frame.map .item ++ rest) :
    ∃ incoming, incoming.signals = rest ∧
      modbusReceiveMsg (lineDevice react) msgType c =
        ((checkIntegrity (lineDevice react) (c.withIncoming incoming) frame).1, frame,
          (checkIntegrity (lineDevice react) (c.withIncoming incoming) frame).2) := by
  have short : frame.length < receiveFuel := by
    have := delimits.fits
    have : c.ctx.backend.maxAduLength ≤ 260 := by
      cases c.ctx.backend <;> simp [rtuMaxAduLength, tcpMaxAduLength]
    simp only [receiveFuel]
    omega
  obtain ⟨incoming, rest', run⟩ :=
    receiveLoop_frame react msgType receiveFuel frame rest c delimits next short
  refine ⟨incoming, rest', ?_⟩
  rw [modbusReceiveMsg, if_neg (not_not.mpr connected), run]

theorem modbusReceiveMsg_tooLong (msgType : MsgType) (head : List Byte) (rest : List (Signal Byte))
    (c : Conn (Line π)) (connected : c.ctx.isConnected)
    (length : head.length = headLength c.ctx.backend msgType (ofBytes head))
    (tooLong : c.ctx.backend.maxAduLength < frameLength c.ctx.backend msgType (ofBytes head))
    (next : c.line.incoming.signals = head.map .item ++ rest) :
    ∃ incoming, incoming.signals = rest ∧
      modbusReceiveMsg (lineDevice react) msgType c =
        (.error (.errno .embbaddata), head, c.withIncoming incoming) := by
  have short : head.length ≤ receiveFuel := by
    have header : c.ctx.backend.headerLength ≤ 7 := by cases c.ctx.backend <;> simp
    have meta_short : ∀ f, computeMetaLengthAfterFunction f msgType ≤ 9 := by
      intro f
      unfold computeMetaLengthAfterFunction
      split <;> split_ifs <;> omega
    have := meta_short (ofBytes head c.ctx.backend.headerLength).toNat
    rw [length, headLength, receiveFuel]
    omega
  obtain ⟨fuel', incoming, -, rest', run⟩ :=
    receiveLoop_head react msgType receiveFuel head rest c length next short
  have arm : metaArm c.ctx.backend msgType head = .error .embbaddata := by
    rw [frameLength, ← length] at tooLong
    exact if_pos tooLong
  refine ⟨incoming, rest', ?_⟩
  rw [modbusReceiveMsg, if_neg (not_not.mpr connected), run, arm]

theorem sleepAndFlush_empty (c : Conn (Line π)) (empty : c.line.incoming.queued = []) :
    sleepAndFlush (lineDevice react) c = c := by
  obtain ⟨ctx, ⟨⟨queued, future⟩, peer⟩⟩ := c
  subst empty
  simp only [sleepAndFlush, modbusFlush, sleepResponseTimeout]
  split
  · rfl
  · rfl

theorem modbusReceiveMsg_silence (msgType : MsgType) (rest : List (Signal Byte))
    (c : Conn (Line π)) (connected : c.ctx.isConnected)
    (next : c.line.incoming.signals = .silence :: rest) :
    ∃ incoming, incoming.signals = rest ∧
      modbusReceiveMsg (lineDevice react) msgType c =
        (.error (.errno .etimedout), [], c.withIncoming incoming) := by
  obtain ⟨future, waited, rest'⟩ := Incoming.wait_silence _ _ next
  refine ⟨⟨[], future⟩, rest', ?_⟩
  have selected : (lineDevice react).select (c.ctx.backend.headerLength + 1) c.line =
      (.error (.errno .etimedout), { c.line with incoming := ⟨[], future⟩ }) := by
    simp only [lineDevice, lineSelect, waited]
  rw [modbusReceiveMsg, if_neg (not_not.mpr connected), receiveFuel, receiveLoop,
    if_neg (by omega), selected]
  have recovered : recoverSelect (lineDevice react) (.errno .etimedout)
      (c.withIncoming ⟨[], future⟩) = c.withIncoming ⟨[], future⟩ := by
    simp only [recoverSelect]
    split
    · exact sleepAndFlush_empty react _ rfl
    · rfl
  exact congrArg (Prod.mk _ ∘ Prod.mk _) recovered

end ModbusNet
