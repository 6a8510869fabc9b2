import ModbusNet.Model.Setup
import ModbusNet.Proof.Backends

namespace ModbusNet

variable {σ : Type}

/-- The device reads a stream: waits end with input, and a read gets some of the bytes that come
next, as many as the device likes. -/
structure Device.Streams (dev : Device σ) (stream : Buffer) (position : σ → Nat) : Prop where
  select : ∀ n l, ∃ l', dev.select n l = (.ok (), l') ∧ position l' = position l
  recv : ∀ n l, 0 < n → ∃ bytes l', dev.recv n l = (.ok bytes, l') ∧ bytes.val ≠ [] ∧
    bytes.val = bytesAt stream (position l) bytes.val.length ∧
    position l' = position l + bytes.val.length

def Device.tracing (dev : Device σ) : Device (σ × List (Nat × List Byte)) where
  send msg l := ((dev.send msg l.1).1, (dev.send msg l.1).2, l.2)
  select n l := ((dev.select n l.1).1, (dev.select n l.1).2, l.2)
  recv n l :=
    match dev.recv n l.1 with
    | (.ok bytes, l') => (.ok bytes, l', l.2 ++ [(n, bytes.val)])
    | (.error e, l') => (.error e, l', l.2)
  recvDontwait n l := ((dev.recvDontwait n l.1).1, (dev.recvDontwait n l.1).2, l.2)
  tcflush l := (dev.tcflush l.1, l.2)
  sleep l := (dev.sleep l.1, l.2)
  close l := (dev.close l.1, l.2)
  connect l := ((dev.connect l.1).1, (dev.connect l.1).2, l.2)
  retries := dev.retries

def Conn.reads (c : Conn σ) (dev : Device σ) (msgType : MsgType) : List (Nat × List Byte) :=
  (modbusReceiveMsg dev.tracing msgType ⟨c.ctx, c.line, []⟩).2.2.line.2

def Conn.consumed (c : Conn σ) (dev : Device σ) (msgType : MsgType) : List Byte :=
  (c.reads dev msgType).flatMap Prod.snd

def Within (size : Nat) : Nat → List (Nat × List Byte) → Prop
  | _, [] => True
  | m, (asked, bytes) :: reads =>
      bytes.length ≤ asked ∧ m + asked ≤ size ∧ Within size (m + bytes.length) reads

theorem Device.Streams.tracing {dev : Device σ} {stream : Buffer} {position : σ → Nat}
    (streams : dev.Streams stream position) : dev.tracing.Streams stream (position ∘ Prod.fst) where
  select := by
    intro n l
    obtain ⟨l', selected, same⟩ := streams.select n l.1
    exact ⟨(l', l.2), by simp only [Device.tracing, selected], same⟩
  recv := by
    intro n l pos
    obtain ⟨bytes, l', received, some, next, moved⟩ := streams.recv n l.1 pos
    exact ⟨bytes, (l', l.2 ++ [(n, bytes.val)]), by simp only [Device.tracing, received], some, next,
      moved⟩

/-! ## The message of a stream -/

section
variable (b : Backend) (msgType : MsgType) (stream : Buffer)

def streamMessage : Except Failure Unit × List Byte :=
  if b.maxAduLength < frameLength b msgType stream then
    (.error (.errno .embbaddata), bytesAt stream 0 (headLength b msgType stream))
  else (.ok (), bytesAt stream 0 (frameLength b msgType stream))

def Due (m n : Nat) : Step → Prop
  | .stepFunction => 0 < n ∧ m + n = b.headerLength + 1
  | .stepMeta => 0 < n ∧ b.headerLength < m ∧ m + n = headLength b msgType stream
  | .stepData => headLength b msgType stream ≤ m ∧ m + n = frameLength b msgType stream ∧
      frameLength b msgType stream ≤ b.maxAduLength

theorem headLength_le : headLength b msgType stream ≤ b.headerLength + 10 := by
  have := pduHeadLength_le_ten msgType (pduAt b stream)
  rw [headLength_eq]
  omega

theorem streamMessage_length : (streamMessage b msgType stream).2.length ≤ b.maxAduLength := by
  have head := headLength_le b msgType stream
  have size := maxAduLength_eq b
  rw [streamMessage]
  split
  · rw [bytesAt_length, size, maxPduLength]
    omega
  · rw [bytesAt_length]
    omega

variable {b msgType stream}

theorem Due.room {m n : Nat} {step : Step} (due : Due b msgType stream m n step) :
    m + n ≤ b.maxAduLength := by
  have head := headLength_le b msgType stream
  have size := maxAduLength_eq b
  rw [maxPduLength] at size
  cases step with
  | stepFunction =>
      obtain ⟨-, total⟩ := due
      omega
  | stepMeta =>
      obtain ⟨-, -, total⟩ := due
      omega
  | stepData =>
      obtain ⟨-, total, fits⟩ := due
      omega

theorem Due.read {m n k : Nat} {step : Step} (due : Due b msgType stream m n step) (short : k < n) :
    Due b msgType stream (m + k) (n - k) step := by
  cases step with
  | stepFunction =>
      obtain ⟨-, total⟩ := due
      exact ⟨by omega, by omega⟩
  | stepMeta =>
      obtain ⟨-, inside, total⟩ := due
      exact ⟨by omega, by omega, by omega⟩
  | stepData =>
      obtain ⟨inside, total, fits⟩ := due
      exact ⟨by omega, by omega, fits⟩

theorem ofBytes_bytesAt_zero (stream : Buffer) (m : Nat) :
    AgreeBelow m (ofBytes (bytesAt stream 0 m)) stream := by
  intro i bound
  exact (ofBytes_bytesAt stream 0 m i bound).trans (congrArg stream (Nat.zero_add i))

theorem metaArm_stream {m : Nat} (head : m = headLength b msgType stream) :
    (metaArm b msgType (bytesAt stream 0 m) = .error .embbaddata ∧
        streamMessage b msgType stream = (.error (.errno .embbaddata), bytesAt stream 0 m)) ∨
      ∃ n, metaArm b msgType (bytesAt stream 0 m) = .ok (.stepData, n) ∧
        Due b msgType stream m n .stepData := by
  have inside := headLength_pos b msgType stream
  have data : computeDataLengthAfterMeta b (ofBytes (bytesAt stream 0 m)) msgType =
      computeDataLengthAfterMeta b stream msgType := by
    symm
    apply dataLength_agree
    rw [← head]
    exact fun i bound => (ofBytes_bytesAt_zero stream m i bound).symm
  have total : m + computeDataLengthAfterMeta b stream msgType = frameLength b msgType stream := by
    rw [frameLength, head]
  simp only [metaArm, data, bytesAt_length, total]
  by_cases tooLong : b.maxAduLength < frameLength b msgType stream
  · left
    rw [streamMessage, if_pos tooLong, if_pos tooLong, head]
    exact ⟨rfl, rfl⟩
  · right
    rw [if_neg tooLong]
    exact ⟨_, rfl, head.ge, total, not_lt.mp tooLong⟩

theorem nextStep_stream {m n : Nat} {step : Step} (due : Due b msgType stream m n step) :
    (nextStep b msgType step (bytesAt stream 0 (m + n)) = .error .embbaddata ∧
        streamMessage b msgType stream = (.error (.errno .embbaddata), bytesAt stream 0 (m + n))) ∨
      ∃ step' n', nextStep b msgType step (bytesAt stream 0 (m + n)) = .ok (step', n') ∧
        Due b msgType stream (m + n) n' step' := by
  cases step with
  | stepFunction =>
      obtain ⟨pos, total⟩ := due
      have function : (bytesAt stream 0 (m + n)).getD b.headerLength 0 = stream b.headerLength := by
        rw [bytesAt_getD _ _ _ _ (by omega), Nat.zero_add]
      simp only [nextStep, function]
      by_cases more : computeMetaLengthAfterFunction (stream b.headerLength).toNat msgType ≠ 0
      · rw [if_pos more]
        exact .inr ⟨_, _, rfl, by omega, by omega, by rw [headLength, total]⟩
      · rw [if_neg more]
        have head : m + n = headLength b msgType stream := by
          rw [headLength]
          omega
        rcases metaArm_stream head with tooLong | ⟨n', arm, later⟩
        · exact .inl tooLong
        · exact .inr ⟨_, n', arm, later⟩
  | stepMeta =>
      obtain ⟨pos, inside, total⟩ := due
      rcases metaArm_stream total with tooLong | ⟨n', arm, later⟩
      · exact .inl tooLong
      · exact .inr ⟨_, n', arm, later⟩
  | stepData =>
      obtain ⟨inside, total, fits⟩ := due
      exact .inr ⟨_, 0, rfl, by omega, by omega, fits⟩

end

/-! ## The loop -/

inductive Device.Reads (dev : Device σ) : σ → List (Nat × List Byte) → σ → Prop
  | nil (l : σ) : dev.Reads l [] l
  | cons {n : Nat} {l l₁ l₂ l₃ : σ} {bytes : { bytes : List Byte // bytes.length ≤ n }}
      {reads : List (Nat × List Byte)} (selected : dev.select n l = (.ok (), l₁))
      (received : dev.recv n l₁ = (.ok bytes, l₂)) (later : dev.Reads l₂ reads l₃) :
      dev.Reads l ((n, bytes.val) :: reads) l₃

theorem Device.Reads.traced {dev : Device σ} {l l' : σ × List (Nat × List Byte)}
    {reads : List (Nat × List Byte)} (done : dev.tracing.Reads l reads l') : l'.2 = l.2 ++ reads := by
  induction done with
  | nil l => exact (List.append_nil _).symm
  | @cons n l l₁ l₂ l₃ bytes reads selected received later ih =>
      have same : l₁.2 = l.2 := (congrArg (fun result => result.2.2) selected).symm
      have noted : l₂.2 = l₁.2 ++ [(n, bytes.val)] := by
        simp only [Device.tracing] at received
        split at received
        · obtain ⟨rfl, rfl⟩ : _ = bytes ∧ _ = l₂ := by simpa using received
          rfl
        · cases received
      rw [ih, noted, same, List.append_assoc]
      rfl

theorem receiveLoop_stream {dev : Device σ} {stream : Buffer} {position : σ → Nat}
    (streams : dev.Streams stream position) (msgType : MsgType) (fuel m n : Nat) (step : Step)
    (c : Conn σ) (due : Due c.ctx.backend msgType stream m n step) (here : position c.line = m)
    (enough : c.ctx.backend.maxAduLength < fuel + m) :
    ∃ line reads, dev.Reads c.line reads line ∧ Within c.ctx.backend.maxAduLength m reads ∧
      bytesAt stream 0 m ++ reads.flatMap Prod.snd = (streamMessage c.ctx.backend msgType stream).2 ∧
      receiveLoop dev msgType fuel step n (bytesAt stream 0 m) c =
        ((streamMessage c.ctx.backend msgType stream).1,
          (streamMessage c.ctx.backend msgType stream).2, { c with line }) := by
  have room := due.room
  -- `Due` is what is known after `m` bytes; it is kept by a read within a step and by a step.
  induction fuel generalizing m n step c with
  | zero => omega
  | succ fuel ih =>
      by_cases finished : n = 0
      · have complete : m = frameLength c.ctx.backend msgType stream ∧
            frameLength c.ctx.backend msgType stream ≤ c.ctx.backend.maxAduLength := by
          cases step with
          | stepFunction => exact absurd due.1 (by omega)
          | stepMeta => exact absurd due.1 (by omega)
          | stepData => exact ⟨by have := due.2.1; omega, due.2.2⟩
        have message : streamMessage c.ctx.backend msgType stream = (.ok (), bytesAt stream 0 m) := by
          rw [streamMessage, if_neg (not_lt.mpr complete.2), ← complete.1]
        refine ⟨c.line, [], .nil _, trivial, ?_, ?_⟩
        · rw [message]
          exact List.append_nil _
        · rw [receiveLoop, if_pos finished, message]
      · obtain ⟨l₁, selected, still⟩ := streams.select n c.line
        obtain ⟨bytes, l₂, received, some, next, moved⟩ := streams.recv n l₁ (by omega)
        have positive := List.length_pos_iff.mpr some
        have small := bytes.property
        have stored : bytesAt stream 0 m ++ bytes.val = bytesAt stream 0 (m + bytes.val.length) := by
          rw [bytesAt_add, Nat.zero_add]
          rw [still, here] at next
          exact congrArg _ next
        have there : position l₂ = m + bytes.val.length := by rw [moved, still, here]
        rw [receiveLoop, if_neg finished, selected]
        simp only [received]
        rw [if_neg some, stored]
        by_cases remaining : n - bytes.val.length ≠ 0
        · have later := due.read (k := bytes.val.length) (by omega)
          obtain ⟨line, reads, done, within, message, run⟩ := ih (m + bytes.val.length) _ step
            { c with line := l₂ } later there (by simp only; omega) later.room
          refine ⟨line, (n, bytes.val) :: reads, .cons selected received done, ⟨small, room, within⟩,
            ?_, ?_⟩
          · rw [List.flatMap_cons, ← List.append_assoc, stored, message]
          · rw [if_pos remaining, run]
        · have complete : bytes.val.length = n := by omega
          rw [if_neg remaining]
          rw [complete] at stored there ⊢
          rcases nextStep_stream due with ⟨arm, message⟩ | ⟨step', n', arm, later⟩
          · refine ⟨l₂, [(n, bytes.val)], .cons selected received (.nil _), ⟨small, room, trivial⟩, ?_, ?_⟩
            · rw [message, ← stored]
              simp
            · rw [arm, message]
          · obtain ⟨line, reads, done, within, message, run⟩ := ih (m + n) n' step'
              { c with line := l₂ } later there (by simp only; omega) later.room
            refine ⟨line, (n, bytes.val) :: reads, .cons selected received done,
              ⟨small, room, by rw [complete]; exact within⟩, ?_, ?_⟩
            · rw [List.flatMap_cons, ← List.append_assoc, stored, message]
            · rw [arm]
              exact run

/-! ## The call -/

def integrity (ctx : Ctx) (msg : List Byte) : Except Failure Int :=
  match ctx.backend with
  | .tcp => .ok msg.length
  | .rtu =>
      if ((msg.getD 0 0).toNat : Int) ≠ ctx.slave ∧ (msg.getD 0 0).toNat ≠ broadcastAddress then .ok 0
      else if crcMatches msg then .ok msg.length
      else .error (.errno .embbadcrc)

theorem checkIntegrity_fst (dev : Device σ) (c : Conn σ) (msg : List Byte) :
    (checkIntegrity dev c msg).1 = integrity c.ctx msg := by
  rw [checkIntegrity, integrity]
  cases c.ctx.backend with
  | tcp => rfl
  | rtu =>
      simp only [modbusRtuCheckIntegrity]
      split
      · rfl
      · split <;> rfl

theorem modbusReceiveMsg_integrity {dev : Device σ} {msgType : MsgType} {c c' : Conn σ}
    {msg : List Byte} {n : Int} (received : modbusReceiveMsg dev msgType c = (.ok n, msg, c')) :
    integrity c.ctx msg = .ok n := by
  unfold modbusReceiveMsg at received
  split at received
  · cases received
  · cases run : receiveLoop dev msgType receiveFuel .stepFunction (c.ctx.backend.headerLength + 1)
        [] c with
    | mk result rest =>
        rw [run] at received
        cases result with
        | error e => cases received
        | ok _ =>
            have same := (receiveLoop_delimits dev msgType receiveFuel .stepFunction _ [] rest.1 c
              rest.2 (start_expecting c.ctx.backend msgType) run).1
            obtain ⟨checked, rfl, -⟩ : (checkIntegrity dev rest.2 rest.1).1 = .ok n ∧ rest.1 = msg ∧
                (checkIntegrity dev rest.2 rest.1).2 = c' := by simpa using received
            rw [← checked, checkIntegrity_fst, same]

theorem integrity_accepts {ctx : Ctx} {msg : List Byte}
    (accepts : ctx.backend = .rtu → RtuAccepts ctx msg) : integrity ctx msg = .ok msg.length := by
  cases backend : ctx.backend with
  | tcp => simp only [integrity, backend]
  | rtu =>
      obtain ⟨addressed, crc⟩ := accepts backend
      simp only [integrity, backend, crc]
      rw [if_neg (by tauto)]
      rfl

theorem integrity_rtu {ctx : Ctx} {msg : List Byte} {n : Int} (backend : ctx.backend = .rtu)
    (checked : integrity ctx msg = .ok n) :
    ((msg.getD 0 0).toNat ≠ broadcastAddress ∧ ((msg.getD 0 0).toNat : Int) ≠ ctx.slave ∧ n = 0) ∨
      RtuAccepts ctx msg := by
  simp only [integrity, backend] at checked
  split at checked
  · rename_i foreign
    exact .inl ⟨foreign.2, foreign.1, (Except.ok.inj checked).symm⟩
  · rename_i addressed
    split at checked
    · rename_i crc
      exact .inr ⟨by tauto, crc⟩
    · cases checked

theorem checkIntegrity_traced (dev : Device σ) (c : Conn (σ × List (Nat × List Byte)))
    (msg : List Byte) : (checkIntegrity dev.tracing c msg).2.line.2 = c.line.2 := by
  rw [checkIntegrity]
  split
  · simp only [modbusRtuCheckIntegrity]
    split
    · rfl
    · split
      · rfl
      · split <;> rfl
  · rfl

def streamReceived (ctx : Ctx) (msgType : MsgType) (stream : Buffer) : Except Failure Int × List Byte :=
  if ¬ ctx.isConnected then (.error (.errno .unset), [])
  else
    match streamMessage ctx.backend msgType stream with
    | (.error e, msg) => (.error e, msg)
    | (.ok (), msg) => (integrity ctx msg, msg)

theorem integrity_returns (ctx : Ctx) (msg : List Byte) : integrity ctx msg ≠ .error .hang := by
  intro hangs
  rw [integrity] at hangs
  cases backend : ctx.backend with
  | tcp =>
      simp only [backend] at hangs
      cases hangs
  | rtu =>
      simp only [backend] at hangs
      split_ifs at hangs
      cases hangs

theorem streamReceived_returns (ctx : Ctx) (msgType : MsgType) (stream : Buffer) :
    (streamReceived ctx msgType stream).1 ≠ .error .hang := by
  intro hangs
  rw [streamReceived, streamMessage] at hangs
  split at hangs
  · cases hangs
  · split_ifs at hangs
    · cases hangs
    · exact integrity_returns ctx _ hangs

theorem streamReceived_length (ctx : Ctx) (msgType : MsgType) (stream : Buffer) :
    (streamReceived ctx msgType stream).2.length ≤ ctx.backend.maxAduLength := by
  have message := streamMessage_length ctx.backend msgType stream
  rw [streamReceived]
  split
  · exact Nat.zero_le _
  · split <;> rename_i found <;> rwa [found] at message

section
variable {dev : Device σ} {stream : Buffer} {position : σ → Nat}
  (streams : dev.Streams stream position) (msgType : MsgType) (c : Conn σ)
include streams

theorem modbusReceiveMsg_stream (start : position c.line = 0) :
    ∃ line reads, dev.Reads c.line reads line ∧ Within c.ctx.backend.maxAduLength 0 reads ∧
      reads.flatMap Prod.snd = (streamReceived c.ctx msgType stream).2 ∧
      (modbusReceiveMsg dev msgType c).1 = (streamReceived c.ctx msgType stream).1 ∧
      (modbusReceiveMsg dev msgType c).2.1 = (streamReceived c.ctx msgType stream).2 ∧
      ((modbusReceiveMsg dev msgType c).2.2 = { c with line } ∨
        ∃ msg, (modbusReceiveMsg dev msgType c).2.2 = (checkIntegrity dev { c with line } msg).2) := by
  rw [modbusReceiveMsg, streamReceived]
  by_cases closed : ¬ c.ctx.isConnected
  · rw [if_pos closed, if_pos closed]
    exact ⟨c.line, [], .nil _, trivial, rfl, rfl, rfl, .inl rfl⟩
  · have size : c.ctx.backend.maxAduLength ≤ 260 := by
      cases c.ctx.backend <;> simp [rtuMaxAduLength, tcpMaxAduLength]
    have due : Due c.ctx.backend msgType stream 0 (c.ctx.backend.headerLength + 1) .stepFunction :=
      ⟨by omega, by omega⟩
    obtain ⟨line, reads, done, within, message, run⟩ := receiveLoop_stream streams msgType receiveFuel
      0 _ .stepFunction c due start (by rw [receiveFuel]; omega)
    rw [if_neg closed, if_neg closed, show [] = bytesAt stream 0 0 from rfl, run]
    refine ⟨line, reads, done, within, ?_⟩
    cases found : streamMessage c.ctx.backend msgType stream with
    | mk result msg =>
        rw [found] at message
        cases result with
        | error e => exact ⟨message, rfl, rfl, .inl rfl⟩
        | ok _ => exact ⟨message, checkIntegrity_fst dev _ msg, rfl, .inr ⟨msg, rfl⟩⟩

theorem reads_stream (start : position c.line = 0) :
    Within c.ctx.backend.maxAduLength 0 (c.reads dev msgType) ∧
      c.consumed dev msgType = (streamReceived c.ctx msgType stream).2 := by
  obtain ⟨line, reads, done, within, message, -, -, after⟩ :=
    modbusReceiveMsg_stream streams.tracing msgType ⟨c.ctx, c.line, []⟩ start
  have noted : c.reads dev msgType = reads := by
    have traced : line.2 = reads := done.traced
    rcases after with same | ⟨msg, checked⟩
    · rw [Conn.reads, same, ← traced]
    · rw [Conn.reads, checked, checkIntegrity_traced, ← traced]
  rw [Conn.consumed, noted]
  exact ⟨within, message⟩

end

/-- The call ends, its reads stay inside the buffer, and its result, the bytes it stores and the bytes
it consumes depend on the stream alone. -/
theorem modbusReceiveMsg_splitting (dev : Device σ) (stream : Buffer) (position : σ → Nat)
    (streams : dev.Streams stream position) (msgType : MsgType) (c : Conn σ)
    (start : position c.line = 0) :
    (modbusReceiveMsg dev msgType c).1 ≠ .error .hang ∧
      (modbusReceiveMsg dev msgType c).2.1.length ≤ c.ctx.backend.maxAduLength ∧
      Within c.ctx.backend.maxAduLength 0 (c.reads dev msgType) ∧
      c.consumed dev msgType = (modbusReceiveMsg dev msgType c).2.1 ∧
      ∀ (τ : Type) (dev' : Device τ) (position' : τ → Nat) (c' : Conn τ),
        dev'.Streams stream position' → c'.ctx = c.ctx → position' c'.line = 0 →
        (modbusReceiveMsg dev' msgType c').1 = (modbusReceiveMsg dev msgType c).1 ∧
          (modbusReceiveMsg dev' msgType c').2.1 = (modbusReceiveMsg dev msgType c).2.1 ∧
          c'.consumed dev' msgType = c.consumed dev msgType := by
  obtain ⟨-, -, -, -, -, rc, msg, -⟩ := modbusReceiveMsg_stream streams msgType c start
  obtain ⟨within, consumed⟩ := reads_stream streams msgType c start
  rw [rc, msg, consumed]
  refine ⟨streamReceived_returns _ _ _, streamReceived_length _ _ _, within, rfl, ?_⟩
  intro τ dev' position' c' streams' same start'
  obtain ⟨-, -, -, -, -, rc', msg', -⟩ := modbusReceiveMsg_stream streams' msgType c' start'
  obtain ⟨-, consumed'⟩ := reads_stream streams' msgType c' start'
  rw [rc', msg', consumed', same]
  exact ⟨rfl, rfl, rfl⟩

def piecesDevice (stream : Buffer) (piece : Nat → Nat) : Device Nat where
  send msg position := (.ok msg.length, position)
  select _ position := (.ok (), position)
  recv n position :=
    (.ok ⟨bytesAt stream position (min n (piece position + 1)), by
      rw [bytesAt_length]
      exact Nat.min_le_left _ _⟩, position + min n (piece position + 1))
  recvDontwait _ position := (.error .eagain, position)
  tcflush := id
  sleep := id
  close := id
  connect position := (.error .econnrefused, position)
  retries := 0

theorem piecesDevice_streams (stream : Buffer) (piece : Nat → Nat) :
    (piecesDevice stream piece).Streams stream id where
  select := fun _ position => ⟨position, rfl, rfl⟩
  recv := by
    intro n position pos
    refine ⟨_, _, rfl, ?_, ?_, ?_⟩
    · apply List.ne_nil_of_length_pos
      rw [bytesAt_length]
      omega
    · rw [bytesAt_length]
      rfl
    · rw [bytesAt_length]
      rfl

def registersStream : Buffer := ofBytes [0, 1, 0, 0, 0, 6, 0xFF, 0x03, 0, 0, 0, 2]

def listener : Conn Nat := ⟨{ newTcp with s := 3 }, 0⟩

def inPieces (piece : Nat → Nat) : Except Failure Int × List Byte × Conn Nat :=
  modbusReceiveMsg (piecesDevice registersStream piece) .indication listener

theorem modbusReceiveMsg_splitting_readRegisters :
    (inPieces fun _ => 0).1 ≠ .error .hang ∧ (inPieces id).1 = (inPieces fun _ => 0).1 ∧
      (inPieces id).2.1 = (inPieces fun _ => 0).2.1 := by
  obtain ⟨ends, -, -, -, alike⟩ := modbusReceiveMsg_splitting (piecesDevice registersStream fun _ => 0)
    registersStream id (piecesDevice_streams _ _) .indication listener rfl
  obtain ⟨rc, msg, -⟩ := alike Nat (piecesDevice registersStream id) id listener
    (piecesDevice_streams _ _) rfl rfl
  exact ⟨ends, rc, msg⟩

end ModbusNet
