import ModbusNet.Proof.Flush
import ModbusNet.Proof.ServerSafety

namespace ModbusNet

variable {π : Type}

/-- Bytes were read from the front of the line; silences in front of what is left may be gone too. -/
structure Conn.Drawn (c : Conn (Line π)) (bytes : List Byte) (c' : Conn (Line π)) : Prop where
  ctx : c'.ctx = c.ctx
  peer : c'.line.peer = c.line.peer
  signals : List.Sublist (bytes.map .item ++ c'.line.incoming.signals) c.line.incoming.signals

namespace Conn.Drawn
variable {c c' c'' : Conn (Line π)}

theorem refl (c : Conn (Line π)) : c.Drawn [] c := ⟨rfl, rfl, .refl _⟩

theorem trans {bytes bytes' : List Byte} (first : c.Drawn bytes c') (second : c'.Drawn bytes' c'') :
    c.Drawn (bytes ++ bytes') c'' where
  ctx := second.ctx.trans first.ctx
  peer := second.peer.trans first.peer
  signals := by
    rw [List.map_append, List.append_assoc]
    exact (second.signals.append_left _).trans first.signals

theorem forget {bytes : List Byte} (drawn : c.Drawn bytes c') : c.Drawn [] c' where
  ctx := drawn.ctx
  peer := drawn.peer
  signals := (List.sublist_append_right _ _).trans drawn.signals

end Conn.Drawn

theorem recoverSelect_off {σ : Type} (dev : Device σ) (e : Failure) {c : Conn σ}
    (off : c.ctx.linkRecovery = false) : recoverSelect dev e c = c := by
  unfold recoverSelect
  exact if_neg (by simp [off])

theorem recoverRead_off {σ : Type} (dev : Device σ) (e : Errno) {c : Conn σ}
    (off : c.ctx.linkRecovery = false) : recoverRead dev e c = c := by
  rw [recoverRead, if_neg (by simp [off])]

variable (react : React π)

theorem lineSelect_drawn {n : Nat} {c : Conn (Line π)} {result : Except Failure Unit} {line : Line π}
    (selected : (lineDevice react).select n c.line = (result, line)) :
    c.Drawn [] { c with line } ∧ (result = .error .hang → line.incoming.signals = []) ∧
      result ≠ .error .undefined := by
  obtain ⟨shorter, -, endless⟩ := Incoming.wait_signals c.line.incoming
  have waiting : (lineDevice react).select n c.line = lineSelect c.line := rfl
  rw [waiting, lineSelect] at selected
  cases waited : c.line.incoming.wait with
  | mk kind incoming =>
      rw [waited] at selected shorter endless
      cases kind with
      | ready =>
          obtain ⟨rfl, rfl⟩ := Prod.mk.inj selected
          exact ⟨⟨rfl, rfl, shorter⟩, fun hung => (by cases hung), by simp⟩
      | silence =>
          obtain ⟨rfl, rfl⟩ := Prod.mk.inj selected
          exact ⟨⟨rfl, rfl, shorter⟩, fun hung => (by cases hung), by simp⟩
      | endless =>
          obtain ⟨rfl, rfl⟩ := Prod.mk.inj selected
          exact ⟨⟨rfl, rfl, shorter⟩, fun _ => endless rfl, by simp⟩

theorem lineRecv_drawn {n : Nat} {c : Conn (Line π)}
    {bytes : { bytes : List Byte // bytes.length ≤ n }} {line : Line π}
    (received : (lineDevice react).recv n c.line = (.ok bytes, line)) :
    c.Drawn bytes.val { c with line } := by
  obtain ⟨rfl, rfl⟩ : (⟨(c.line.incoming.take n).1, List.length_take_le _ _⟩ = bytes) ∧
      { c.line with incoming := (c.line.incoming.take n).2 } = line := by
    simpa [lineDevice, lineRecv] using received
  exact ⟨rfl, rfl, (Incoming.signals_take n c.line.incoming) ▸ .refl _⟩

theorem Expecting.bound {b : Backend} {msgType : MsgType} {msg : List Byte} {n : Nat} {step : Step}
    (expecting : Expecting b msgType msg n step) : msg.length + n ≤ 260 := by
  have header : b.headerLength ≤ 7 := by cases b <;> simp
  cases step with
  | stepFunction =>
      have := expecting.2
      omega
  | stepMeta =>
      have short : ∀ f, computeMetaLengthAfterFunction f msgType ≤ 9 := by
        intro f
        unfold computeMetaLengthAfterFunction
        split <;> split_ifs <;> omega
      have := short (ofBytes msg b.headerLength).toNat
      have total := expecting.2.2
      rw [headLength] at total
      omega
  | stepData =>
      have fits := expecting.2.fits
      have : b.maxAduLength ≤ 260 := by cases b <;> simp [rtuMaxAduLength, tcpMaxAduLength]
      omega

theorem receiveLoop_drawn (msgType : MsgType) (fuel : Nat) (step : Step) (n : Nat) (msg : List Byte)
    (c : Conn (Line π)) (unrecovered : c.ctx.linkRecovery = false)
    (expecting : Expecting c.ctx.backend msgType msg n step) (enough : 260 < fuel + msg.length) :
    let done := receiveLoop (lineDevice react) msgType fuel step n msg c
    ∃ bytes, done.2.1 = msg ++ bytes ∧ c.Drawn bytes done.2.2 ∧
      (done.1 = .error .hang → done.2.2.line.incoming.signals = []) ∧
      done.1 ≠ .error .undefined := by
  induction fuel generalizing step n msg c with
  | zero =>
      have := expecting.bound
      omega
  | succ fuel ih =>
      intro done
      have round := receiveLoop_does (lineDevice react) msgType fuel step n msg c
      change LoopRound (lineDevice react) msgType fuel step n msg c done at round
      generalize done = outcome at round
      -- What was read in this round, and then the rest of the loop.
      have goes_on : ∀ {line line' : Line π} {bytes : { bytes : List Byte // bytes.length ≤ n }}
          {step' : Step} {n' : Nat},
          (lineDevice react).select n c.line = (.ok (), line) →
          (lineDevice react).recv n line = (.ok bytes, line') → bytes.val ≠ [] →
          Expecting c.ctx.backend msgType (msg ++ bytes.val) n' step' →
          let later := receiveLoop (lineDevice react) msgType fuel step' n' (msg ++ bytes.val)
            { c with line := line' }
          ∃ bytes, later.2.1 = msg ++ bytes ∧ c.Drawn bytes later.2.2 ∧
            (later.1 = .error .hang → later.2.2.line.incoming.signals = []) ∧
            later.1 ≠ .error .undefined := by
        intro line line' bytes step' n' selected received some expecting' later
        have positive := List.length_pos_of_ne_nil some
        obtain ⟨more, stored, drawn, endless⟩ := ih step' n' (msg ++ bytes.val)
          { c with line := line' } unrecovered expecting' (by rw [List.length_append]; omega)
        refine ⟨bytes.val ++ more, by rw [stored, List.append_assoc], ?_, endless⟩
        have selecting := (lineSelect_drawn react selected).1
        have receiving := lineRecv_drawn react (c := { c with line }) received
        exact (selecting.trans receiving).trans drawn
      cases round with
      | done finished =>
          exact ⟨[], (List.append_nil _).symm, .refl c, fun hung => (by cases hung), by simp⟩
      | @unready e line selected =>
          obtain ⟨drawn, endless⟩ := lineSelect_drawn react selected
          rw [recoverSelect_off _ _ (c := { c with line }) unrecovered]
          refine ⟨[], (List.append_nil _).symm, drawn, fun hung => ?_, fun undefined => ?_⟩
          · obtain rfl := Except.error.inj hung
            exact endless.1 rfl
          · exact endless.2 (congrArg _ (Except.error.inj undefined))
      | @unread e line line' selected received => cases (Prod.mk.inj received).1
      | @closed line line' bytes selected received =>
          rw [recoverRead_off _ _ (c := { c with line := line' }) unrecovered]
          refine ⟨[], (List.append_nil _).symm, ?_, fun hung => (by cases hung), by simp⟩
          have receiving := lineRecv_drawn react (c := { c with line }) received
          exact ((lineSelect_drawn react selected).1.trans receiving).forget
      | @more line line' bytes selected received some remaining =>
          exact goes_on selected received some (expecting.append remaining)
      | @refused e line line' bytes selected received next =>
          refine ⟨bytes.val, rfl, ?_, fun hung => (by cases hung), by simp⟩
          exact (lineSelect_drawn react selected).1.trans
            (lineRecv_drawn react (c := { c with line }) received)
      | @next step' n' line line' bytes selected received some complete next =>
          rw [← complete] at expecting
          exact goes_on selected received some (nextStep_expecting expecting next)

theorem modbusReceive_drawn (c : Conn (Line π)) (buffer : Buffer) (tcp : c.ctx.backend = .tcp)
    (unrecovered : c.ctx.linkRecovery = false) :
    let done := modbusReceive (lineDevice react) c buffer
    ∃ bytes, c.Drawn bytes done.2.2 ∧
      (∀ n, done.1 = .ok n → n = bytes.length ∧ done.2.1 = overlay buffer bytes ∧
        Delimits .tcp .indication (ofBytes bytes) bytes.length) ∧
      (done.1 = .error .hang → done.2.2.line.incoming.signals = []) ∧
      done.1 ≠ .error .undefined := by
  intro done
  have run : modbusReceive (lineDevice react) c buffer = done := rfl
  rw [modbusReceive, tcp] at run
  simp only [modbusTcpReceive, modbusReceiveMsg] at run
  by_cases connected : c.ctx.isConnected
  · rw [if_neg (not_not.mpr connected)] at run
    have expecting := start_expecting c.ctx.backend .indication
    obtain ⟨bytes, stored, drawn, endless, defined⟩ := receiveLoop_drawn react .indication receiveFuel
      .stepFunction (c.ctx.backend.headerLength + 1) [] c unrecovered expecting (by simp [receiveFuel])
    cases looped : receiveLoop (lineDevice react) .indication receiveFuel .stepFunction
        (c.ctx.backend.headerLength + 1) [] c with
    | mk result rest =>
        rw [looped] at run stored drawn endless defined
        obtain ⟨msg, c'⟩ := rest
        obtain rfl : msg = bytes := stored
        cases result with
        | error e =>
            simp only at run
            rw [← run]
            refine ⟨msg, drawn, fun n ok => (by cases ok), fun hung => ?_, fun undefined => ?_⟩
            · exact endless (congrArg _ (Except.error.inj hung))
            · exact defined (congrArg _ (Except.error.inj undefined))
        | ok _ =>
            obtain ⟨same, delimits⟩ := receiveLoop_delimits (lineDevice react) .indication receiveFuel
              .stepFunction _ [] msg c c' expecting looped
            have checked : checkIntegrity (lineDevice react) c' msg = (.ok msg.length, c') := by
              rw [checkIntegrity, same, tcp]
            simp only [checked] at run
            rw [← run]
            rw [tcp] at delimits
            refine ⟨msg, drawn, fun n ok => ⟨(Except.ok.inj ok).symm, rfl, delimits⟩,
              fun hung => (by cases hung), by simp⟩
  · rw [if_pos connected] at run
    rw [← run]
    exact ⟨[], .refl c, fun n ok => (by cases ok), fun hung => (by cases hung), by simp⟩

end ModbusNet
