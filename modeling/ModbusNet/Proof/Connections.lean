import ModbusNet.Model.Client
import ModbusNet.Model.Reply
import ModbusNet.Proof.Framing

namespace ModbusNet

/-- Contexts that differ in the descriptor and the recovery mode only. -/
def Ctx.Alike (ctx ctx' : Ctx) : Prop := ∃ s errorRecovery, ctx' = { ctx with s, errorRecovery }

theorem Ctx.Alike.refl (ctx : Ctx) : ctx.Alike ctx := ⟨ctx.s, ctx.errorRecovery, rfl⟩

theorem Ctx.Alike.trans {ctx ctx' ctx'' : Ctx} (first : ctx.Alike ctx') (second : ctx'.Alike ctx'') :
    ctx.Alike ctx'' := by
  obtain ⟨s, errorRecovery, rfl⟩ := first
  obtain ⟨s', errorRecovery', rfl⟩ := second
  exact ⟨s', errorRecovery', rfl⟩

namespace Ctx.Alike
variable {ctx ctx' : Ctx}

theorem backend (alike : ctx.Alike ctx') : ctx'.backend = ctx.backend := by
  obtain ⟨s, errorRecovery, rfl⟩ := alike
  rfl

theorem slave (alike : ctx.Alike ctx') : ctx'.slave = ctx.slave := by
  obtain ⟨s, errorRecovery, rfl⟩ := alike
  rfl

theorem quirks (alike : ctx.Alike ctx') : ctx'.quirks = ctx.quirks := by
  obtain ⟨s, errorRecovery, rfl⟩ := alike
  rfl

end Ctx.Alike

variable {σ : Type}

structure Device.Keeps (dev : Device σ) (P : σ → Prop) : Prop where
  select : ∀ n l, P l → P (dev.select n l).2
  recv : ∀ n l, P l → P (dev.recv n l).2
  recvDontwait : ∀ n l, P l → P (dev.recvDontwait n l).2
  tcflush : ∀ l, P l → P (dev.tcflush l)
  sleep : ∀ l, P l → P (dev.sleep l)
  close : ∀ l, P l → P (dev.close l)
  connect : ∀ l, P l → P (dev.connect l).2

def Conn.Keeps (P : σ → Prop) (c c' : Conn σ) : Prop := c.ctx.Alike c'.ctx ∧ (P c.line → P c'.line)

theorem Conn.Keeps.refl {P : σ → Prop} (c : Conn σ) : c.Keeps P c := ⟨.refl _, id⟩

theorem Conn.Keeps.trans {P : σ → Prop} {c c' c'' : Conn σ} (first : c.Keeps P c')
    (second : c'.Keeps P c'') : c.Keeps P c'' :=
  ⟨first.1.trans second.1, second.2 ∘ first.2⟩

theorem Conn.Keeps.line {P : σ → Prop} (c : Conn σ) {line : σ} (kept : P c.line → P line) :
    c.Keeps P { c with line } := ⟨.refl _, kept⟩

/-- A property of the line that holds between the reads: it is kept by a select that fails, and by a
select and a read of the same length. -/
structure Device.KeepsPairs (dev : Device σ) (P : σ → Prop) : Prop where
  unready : ∀ n l e after, dev.select n l = (.error e, after) → P l → P after
  pair : ∀ n l after, dev.select n l = (.ok (), after) → P l → P (dev.recv n after).2
  recvDontwait : ∀ n l, P l → P (dev.recvDontwait n l).2
  tcflush : ∀ l, P l → P (dev.tcflush l)
  sleep : ∀ l, P l → P (dev.sleep l)
  close : ∀ l, P l → P (dev.close l)
  connect : ∀ l, P l → P (dev.connect l).2

theorem Device.Keeps.pairs {dev : Device σ} {P : σ → Prop} (keeps : dev.Keeps P) :
    dev.KeepsPairs P where
  unready := by
    intro n l e after selected held
    have kept := keeps.select n l held
    rwa [selected] at kept
  pair := by
    intro n l after selected held
    have kept := keeps.select n l held
    rw [selected] at kept
    exact keeps.recv n after kept
  recvDontwait := keeps.recvDontwait
  tcflush := keeps.tcflush
  sleep := keeps.sleep
  close := keeps.close
  connect := keeps.connect

/-- What holds of a connection, and is kept by each step the library takes with it besides sending. A
connection is closed and connected only when its link is recovered. -/
structure Device.Preserves (dev : Device σ) (Q : Conn σ → Prop) : Prop where
  unready : ∀ c n e line, dev.select n c.line = (.error e, line) → Q c → Q { c with line }
  pair : ∀ c n line, dev.select n c.line = (.ok (), line) → Q c →
    Q { c with line := (dev.recv n line).2 }
  recvDontwait : ∀ c n, Q c → Q { c with line := (dev.recvDontwait n c.line).2 }
  tcflush : ∀ c, Q c → Q { c with line := dev.tcflush c.line }
  sleep : ∀ c, Q c → Q { c with line := dev.sleep c.line }
  overflow : ∀ c, Q c → Q { c with ctx := { c.ctx with errorRecovery := errorRecoveryProtocol } }
  close : ∀ c, c.ctx.linkRecovery → Q c → Q (modbusClose dev c)
  connect : ∀ c, c.ctx.linkRecovery → c.ctx.isConnected = false → Q c → Q (modbusConnect dev c)

theorem modbusClose_closed (dev : Device σ) (c : Conn σ) :
    (modbusClose dev c).ctx.isConnected = false ∧
      (modbusClose dev c).ctx.linkRecovery = c.ctx.linkRecovery := by
  rw [modbusClose]
  split
  · exact ⟨rfl, rfl⟩
  · rename_i closed
    exact ⟨by simpa using closed, rfl⟩

section
variable {dev : Device σ} {Q : Conn σ → Prop} (preserves : dev.Preserves Q)
include preserves

theorem modbusTcpFlushLoop_preserves (fuel rcSum : Nat) (c : Conn σ) (held : Q c) :
    Q (modbusTcpFlushLoop dev fuel rcSum c).2 := by
  induction fuel generalizing rcSum c with
  | zero => exact held
  | succ fuel ih =>
      have kept := preserves.recvDontwait c tcpMaxAduLength held
      rw [modbusTcpFlushLoop]
      cases received : dev.recvDontwait tcpMaxAduLength c.line with
      | mk result line =>
          rw [received] at kept
          cases result with
          | error e => exact kept
          | ok bytes =>
              simp only
              split
              · exact preserves.overflow _ kept
              · split
                · exact ih _ _ kept
                · exact kept

theorem modbusFlush_preserves (c : Conn σ) (held : Q c) : Q (modbusFlush dev c).2 := by
  rw [modbusFlush]
  split
  · exact preserves.tcflush _ held
  · exact modbusTcpFlushLoop_preserves preserves _ _ _ held

theorem sleepAndFlush_preserves (c : Conn σ) (held : Q c) : Q (sleepAndFlush dev c) :=
  modbusFlush_preserves preserves _ (preserves.sleep _ held)

theorem reconnect_preserves (c : Conn σ) (on : c.ctx.linkRecovery) (held : Q c) :
    Q (modbusConnect dev (modbusClose dev c)) := by
  obtain ⟨closed, same⟩ := modbusClose_closed dev c
  exact preserves.connect _ (by rw [same]; exact on) closed (preserves.close _ on held)

theorem recoverProtocol_preserves (c : Conn σ) (held : Q c) : Q (recoverProtocol dev c) := by
  rw [recoverProtocol]
  split
  · exact sleepAndFlush_preserves preserves c held
  · exact held

theorem recoverSend_preserves (e : Errno) (c : Conn σ) (on : c.ctx.linkRecovery) (held : Q c) :
    Q (recoverSend dev e c) := by
  rw [recoverSend]
  split
  · obtain ⟨closed, same⟩ := modbusClose_closed dev c
    have slept := preserves.sleep _ (preserves.close _ on held)
    rw [← same] at on
    exact preserves.connect (sleepResponseTimeout dev (modbusClose dev c)) on closed slept
  · exact sleepAndFlush_preserves preserves c held

theorem recoverSelect_preserves (e : Failure) (c : Conn σ) (held : Q c) : Q (recoverSelect dev e c) := by
  unfold recoverSelect
  split
  · rename_i on
    split
    · exact sleepAndFlush_preserves preserves c held
    · exact reconnect_preserves preserves c on held
    · exact held
  · exact held

theorem recoverRead_preserves (e : Errno) (c : Conn σ) (held : Q c) : Q (recoverRead dev e c) := by
  rw [recoverRead]
  split
  · rename_i on
    exact reconnect_preserves preserves c on.1 held
  · exact held

theorem receiveLoop_preserves (msgType : MsgType) (fuel : Nat) (step : Step) (n : Nat)
    (msg : List Byte) (c : Conn σ) (held : Q c) : Q (receiveLoop dev msgType fuel step n msg c).2.2 := by
  induction fuel generalizing step n msg c with
  | zero => exact held
  | succ fuel ih =>
      have round := receiveLoop_does dev msgType fuel step n msg c
      have read : ∀ {result line line'}, dev.select n c.line = (.ok (), line) →
          dev.recv n line = (result, line') → Q { c with line := line' } := by
        intro result line line' selected received
        have kept := preserves.pair c n line selected held
        rwa [received] at kept
      generalize receiveLoop dev msgType (fuel + 1) step n msg c = outcome at round
      cases round with
      | done => exact held
      | unready selected =>
          exact recoverSelect_preserves preserves _ _ (preserves.unready c n _ _ selected held)
      | unread selected received => exact recoverRead_preserves preserves _ _ (read selected received)
      | closed selected received => exact recoverRead_preserves preserves _ _ (read selected received)
      | refused selected received => exact read selected received
      | more selected received => exact ih _ _ _ _ (read selected received)
      | next selected received => exact ih _ _ _ _ (read selected received)

theorem checkIntegrity_preserves (c : Conn σ) (msg : List Byte) (held : Q c) :
    Q (checkIntegrity dev c msg).2 := by
  rw [checkIntegrity]
  split
  · simp only [modbusRtuCheckIntegrity]
    split
    · exact held
    · split
      · exact held
      · split
        · exact preserves.tcflush _ held
        · exact held
  · exact held

theorem modbusReceiveMsg_preserves (msgType : MsgType) (c : Conn σ) (held : Q c) :
    Q (modbusReceiveMsg dev msgType c).2.2 := by
  rw [modbusReceiveMsg]
  split
  · exact held
  · have looped := receiveLoop_preserves preserves msgType receiveFuel .stepFunction
      (c.ctx.backend.headerLength + 1) [] c held
    cases run : receiveLoop dev msgType receiveFuel .stepFunction (c.ctx.backend.headerLength + 1)
        [] c with
    | mk result rest =>
        rw [run] at looped
        cases result with
        | error e => exact looped
        | ok _ => exact checkIntegrity_preserves preserves _ _ looped

theorem checkConfirmation_preserves (c : Conn σ) (req rsp : Buffer) (n : Int) (held : Q c) :
    Q (checkConfirmation dev c req rsp n).2 := by
  rw [checkConfirmation]
  split
  · exact held
  · simp only
    split
    · exact recoverProtocol_preserves preserves c held
    · exact held

theorem exchange_preserves (c : Conn σ) (req : List Byte)
    (sent : Q (sendFrame dev (sendMsgPre c.ctx.backend req) c).2) : Q (exchange dev c req).2 := by
  rw [exchange]
  cases transmitted : sendFrame dev (sendMsgPre c.ctx.backend req) c with
  | mk result c₁ =>
      rw [transmitted] at sent
      cases result with
      | error e => exact sent
      | ok rc =>
          simp only
          split
          · have receiving := modbusReceiveMsg_preserves preserves .confirmation c₁ sent
            cases received : modbusReceiveMsg dev .confirmation c₁ with
            | mk result rest =>
                obtain ⟨msg, c₂⟩ := rest
                rw [received] at receiving
                cases result with
                | error e => exact receiving
                | ok rc =>
                    have checking := checkConfirmation_preserves preserves c₂
                      (ofBytes (sendMsgPre c.ctx.backend req)) (overlay c₂.ctx.uninit msg) rc receiving
                    simp only
                    split
                    · rename_i checked
                      rw [checked] at checking
                      exact checking
                    · rename_i checked
                      rw [checked] at checking
                      exact checking
          · exact sent

theorem modbusReceive_preserves
    (ignores : ∀ c flag, Q c → Q { c with ctx := { c.ctx with confirmationToIgnore := flag } })
    (c : Conn σ) (req : Buffer) (held : Q c) : Q (modbusReceive dev c req).2.2 := by
  have indication := modbusReceiveMsg_preserves preserves .indication c held
  have confirmation := modbusReceiveMsg_preserves preserves .confirmation c held
  rw [modbusReceive]
  split
  · rw [modbusRtuReceive]
    split
    · split
      · rename_i received
        rw [received] at confirmation
        exact confirmation
      · rename_i received
        rw [received] at confirmation
        exact ignores _ false confirmation
    · split
      · rename_i received
        rw [received] at indication
        exact ignores _ true indication
      · rename_i received
        rw [received] at indication
        exact indication
  · exact indication

/-! ## Calls that send -/

variable (sends : ∀ c msg, Q c → Q { c with line := (dev.send msg c.line).2 })
include sends

theorem sendLoop_preserves (msg : List Byte) (fuel : Nat) (c : Conn σ) (held : Q c) :
    Q (sendLoop dev msg fuel c).2 := by
  induction fuel generalizing c with
  | zero => exact held
  | succ fuel ih =>
      have kept := sends c msg held
      rw [sendLoop]
      cases sent : dev.send msg c.line with
      | mk result line =>
          rw [sent] at kept
          cases result with
          | ok n => exact kept
          | error e =>
              have recovered : Q (if c.ctx.linkRecovery then recoverSend dev e { c with line } else
                  { c with line }) := by
                split
                · rename_i on
                  exact recoverSend_preserves preserves e { c with line } on kept
                · exact kept
              simp only
              generalize (if c.ctx.linkRecovery then recoverSend dev e { c with line } else
                { c with line }) = c' at recovered ⊢
              split
              · exact ih _ recovered
              · exact recovered

theorem sendFrame_preserves (msg : List Byte) (c : Conn σ) (held : Q c) :
    Q (sendFrame dev msg c).2 := by
  have kept := sendLoop_preserves preserves sends msg (dev.retries + 1) c held
  rw [sendFrame]
  split
  · rename_i rc c' sent
    rw [sent] at kept
    split <;> exact kept
  · rename_i e c' sent
    rw [sent] at kept
    exact kept

theorem sendMsg_preserves (c : Conn σ) (msg : List Byte) (held : Q c) : Q (sendMsg dev c msg).2 :=
  sendFrame_preserves preserves sends _ c held

theorem modbusReply_preserves (c : Conn σ) (req : Buffer) (n : Int) (mb : ModbusMapping) (held : Q c) :
    Q (modbusReply dev c req n mb).2.2 := by
  rw [modbusReply]
  split
  · exact held
  · rename_i answer mb' _
    have flushed : Q (if answer.toFlush then sleepAndFlush dev c else c) := by
      split
      · exact sleepAndFlush_preserves preserves c held
      · exact held
    simp only [sendAnswer]
    generalize (if answer.toFlush then sleepAndFlush dev c else c) = c' at flushed ⊢
    split
    · exact flushed
    · exact sendMsg_preserves preserves sends c' _ flushed

end

/-! ## Properties of the line -/

theorem Device.KeepsPairs.preserves {dev : Device σ} {P : σ → Prop} (keeps : dev.KeepsPairs P)
    (c : Conn σ) : dev.Preserves (c.Keeps P) where
  unready := fun c' n e line selected kept => kept.trans (.line c' (keeps.unready n _ e line selected))
  pair := fun c' n line selected kept => kept.trans (.line c' (keeps.pair n _ line selected))
  recvDontwait := fun c' n kept => kept.trans (.line c' (keeps.recvDontwait n _))
  tcflush := fun c' kept => kept.trans (.line c' (keeps.tcflush _))
  sleep := fun c' kept => kept.trans (.line c' (keeps.sleep _))
  overflow := fun c' kept => kept.trans ⟨⟨c'.ctx.s, errorRecoveryProtocol, rfl⟩, id⟩
  close := by
    intro c' _ kept
    rw [modbusClose]
    split
    · exact kept.trans ⟨⟨-1, c'.ctx.errorRecovery, rfl⟩, keeps.close _⟩
    · exact kept
  connect := by
    intro c' _ _ kept
    have connecting := keeps.connect c'.line
    rw [modbusConnect]
    cases connected : dev.connect c'.line with
    | mk result line =>
        rw [connected] at connecting
        cases result with
        | ok s => exact kept.trans ⟨⟨s, c'.ctx.errorRecovery, rfl⟩, connecting⟩
        | error e => exact kept.trans ⟨⟨-1, c'.ctx.errorRecovery, rfl⟩, connecting⟩

theorem Device.Keeps.preserves {dev : Device σ} {P : σ → Prop} (keeps : dev.Keeps P) (c : Conn σ) :
    dev.Preserves (c.Keeps P) := keeps.pairs.preserves c

theorem Device.keeps_true (dev : Device σ) : dev.KeepsPairs fun _ => True :=
  ⟨fun _ _ _ _ _ h => h, fun _ _ _ _ h => h, fun _ _ h => h, fun _ h => h, fun _ h => h, fun _ h => h,
    fun _ h => h⟩

theorem sleepAndFlush_alike (dev : Device σ) (c : Conn σ) : c.ctx.Alike (sleepAndFlush dev c).ctx :=
  (sleepAndFlush_preserves (dev.keeps_true.preserves c) c (.refl c)).1

theorem sendFrame_alike (dev : Device σ) (msg : List Byte) (c : Conn σ) :
    c.ctx.Alike (sendFrame dev msg c).2.ctx :=
  (sendFrame_preserves (dev.keeps_true.preserves c) (fun c' _ kept => kept.trans (.line c' id)) msg c
    (.refl c)).1

end ModbusNet
