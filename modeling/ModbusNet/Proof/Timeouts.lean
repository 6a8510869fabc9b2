import ModbusNet.Model.Timeouts
import ModbusNet.Proof.ClientReads
import ModbusNet.Proof.Completions
import ModbusNet.Proof.Intake
import ModbusNet.Proof.RequestStream
import ModbusNet.Proof.Splitting

namespace ModbusNet

variable {σ : Type}

/-! ## One wait -/

theorem selectLoop_waits (sel : Selecting σ) (fuel : Nat) (l : Timed σ) (t : Nat)
    (armed : l.tv = some t) :
    let done := selectLoop sel fuel l
    ∃ t', done.2.tv = some t' ∧ done.2.elapsed + t' = l.elapsed + t ∧
      (done.1 = .error (.errno .etimedout) → t' = 0) := by
  induction fuel generalizing l t with
  | zero => exact ⟨t, armed, rfl, fun expired => (by cases expired)⟩
  | succ fuel ih =>
      intro done
      have run : selectLoop sel (fuel + 1) l = done := rfl
      rw [selectLoop, armed] at run
      have within := sel.within t l.line
      have expired := sel.expired t l.line
      have other := sel.other (some t) l.line
      cases waited : sel.select (some t) l.line with
      | mk selected rest =>
          obtain ⟨time, line⟩ := rest
          rw [waited] at within expired other run
          simp only at within expired
          have sum : l.elapsed + time + (t - time) = l.elapsed + t := by omega
          cases selected with
          | ready =>
              rw [← run]
              exact ⟨_, rfl, sum, fun timeout => (by cases timeout)⟩
          | expired =>
              rw [← run]
              have all : t - time = 0 := by
                rw [expired rfl, Nat.sub_self]
              exact ⟨_, rfl, sum, fun _ => all⟩
          | interrupted =>
              obtain ⟨t', armed', total, left⟩ := ih ⟨line, some (t - time), l.elapsed + time⟩ _ rfl
              rw [← run]
              exact ⟨t', armed', total.trans sum, left⟩
          | failed e =>
              rw [← run]
              refine ⟨_, rfl, sum, fun timeout => ?_⟩
              cases timeout
              exact absurd rfl other

theorem selectLoop_ends (sel : Selecting σ) (fuel : Nat) (l : Timed σ)
    (enough : sel.signals l.line < fuel) :
    (selectLoop sel fuel l).1 = .ok () ∨ ∃ e, (selectLoop sel fuel l).1 = .error (.errno e) := by
  induction fuel generalizing l with
  | zero => exact absurd enough (Nat.not_lt_zero _)
  | succ fuel ih =>
      have fewer := sel.fewer l.tv l.line
      rw [selectLoop]
      cases waited : sel.select l.tv l.line with
      | mk selected rest =>
          rw [waited] at fewer
          cases selected with
          | ready => exact .inl rfl
          | expired => exact .inr ⟨.etimedout, rfl⟩
          | failed e => exact .inr ⟨e, rfl⟩
          | interrupted =>
              have left := fewer rfl
              exact ih _ (by simp only at left ⊢; omega)

/-! ## The receive loop -/

/-- The same but for `tv`, which is of no use when nothing is waited for. -/
def Conn.disarmed (c : Conn (Timed σ)) : Conn (Timed σ) :=
  { c with line := { c.line with tv := none } }

section
variable (dev : Device σ) (send : List Byte → σ → Except Errno Nat × σ)
  (recv : (n : Nat) → σ → Except Errno { bytes : List Byte // bytes.length ≤ n } × σ)

theorem modbusTcpFlushLoop_with (fuel rcSum : Nat) (c : Conn σ) :
    modbusTcpFlushLoop { dev with send, recv } fuel rcSum c = modbusTcpFlushLoop dev fuel rcSum c := by
  induction fuel generalizing rcSum c with
  | zero => rfl
  | succ fuel ih => simp only [modbusTcpFlushLoop, ih]

theorem recoverSelect_with (e : Failure) (c : Conn σ) :
    recoverSelect { dev with send, recv } e c = recoverSelect dev e c := by
  unfold recoverSelect
  simp only [sleepAndFlush, modbusFlush, modbusTcpFlush, modbusRtuFlush, modbusTcpFlushLoop_with]
  rfl

theorem recoverRead_with (e : Errno) (c : Conn σ) :
    recoverRead { dev with send, recv } e c = recoverRead dev e c := rfl

end

section
variable (dev : Device σ) (sel : Selecting σ) (timeouts : Timeouts)

theorem receiveLoop_zero (dev : Device σ) (msgType : MsgType) (fuel : Nat) (step : Step)
    (msg : List Byte) (c : Conn σ) :
    receiveLoop dev msgType fuel step 0 msg c =
      (if fuel = 0 then .error .hang else .ok (), msg, c) := by
  cases fuel <;> rfl

theorem timedReceiveLoop_zero (dev : Device (Timed σ)) (msgType : MsgType) (fuel : Nat) (step : Step)
    (msg : List Byte) (c : Conn (Timed σ)) :
    timedReceiveLoop dev timeouts msgType fuel step 0 msg c =
      (if fuel = 0 then .error .hang else .ok (), msg, c) := by
  cases fuel <;> rfl

theorem disarmed_rearm (ctx : Ctx) (l : Timed σ) :
    Conn.disarmed ⟨ctx, l.rearm timeouts⟩ = Conn.disarmed ⟨ctx, l⟩ := by
  unfold Timed.rearm
  split <;> rfl

theorem timedReceiveLoop_armed (msgType : MsgType) (fuel : Nat) (step : Step) (n : Nat)
    (msg : List Byte) (c : Conn (Timed σ)) :
    let timed := timedReceiveLoop (timedDevice dev sel timeouts) timeouts msgType fuel step n
      msg c
    let armed := receiveLoop (armedDevice dev sel timeouts) msgType fuel step n msg c
    armed.1 = timed.1 ∧ armed.2.1 = timed.2.1 ∧ armed.2.2.disarmed = timed.2.2.disarmed := by
  induction fuel generalizing step n msg c with
  | zero => exact ⟨rfl, rfl, rfl⟩
  | succ fuel ih =>
      rw [receiveLoop, timedReceiveLoop]
      split
      · exact ⟨rfl, rfl, rfl⟩
      · rw [show (armedDevice dev sel timeouts).select n c.line =
          (timedDevice dev sel timeouts).select n c.line from rfl]
        cases selected : (timedDevice dev sel timeouts).select n c.line with
        | mk ready line =>
            cases ready with
            | error e =>
                simp only [armedDevice, recoverSelect_with, and_self]
            | ok _ =>
                cases received : dev.recv n line.line with
                | mk result inner =>
                    set after : Timed σ := { line with line := inner }
                    have timed_ : (timedDevice dev sel timeouts).recv n line =
                        (result, after) := by
                      simp only [timedDevice, received, after]
                    simp only
                    rw [timed_]
                    cases result with
                    | error e =>
                        have armed_ : (armedDevice dev sel timeouts).recv n line =
                            (.error e, after) := by
                          simp only [armedDevice, received, after]
                        rw [armed_]
                        exact ⟨rfl, rfl, rfl⟩
                    | ok bytes =>
                        obtain ⟨bytes, short⟩ := bytes
                        cases bytes with
                        | nil =>
                            have armed_ : (armedDevice dev sel timeouts).recv n line =
                                (.ok ⟨[], short⟩, after) := by
                              simp only [armedDevice, received, after]
                            rw [armed_]
                            exact ⟨rfl, rfl, rfl⟩
                        | cons b bytes =>
                            have armed_ : (armedDevice dev sel timeouts).recv n line =
                                (.ok ⟨b :: bytes, short⟩, after.rearm timeouts) := by
                              simp only [armedDevice, received, after]
                            rw [armed_]
                            simp only [List.cons_ne_nil, if_false]
                            set left := n - (b :: bytes).length
                            by_cases complete : left = 0
                            · simp only [complete, ne_eq, not_true_eq_false, if_false, if_true]
                              cases next : nextStep c.ctx.backend msgType step (msg ++ b :: bytes) with
                              | error e => exact ⟨rfl, rfl, disarmed_rearm timeouts c.ctx after⟩
                              | ok due =>
                                  obtain ⟨step', n'⟩ := due
                                  simp only
                                  by_cases last : n' = 0
                                  · rw [last, if_neg (lt_irrefl 0), receiveLoop_zero,
                                      timedReceiveLoop_zero]
                                    exact ⟨rfl, rfl, disarmed_rearm timeouts c.ctx after⟩
                                  · rw [if_pos (Nat.pos_of_ne_zero last)]
                                    exact ih _ _ _ ⟨c.ctx, after.rearm timeouts⟩
                            · simp only [complete, ne_eq, not_false_eq_true, if_false, if_true]
                              rw [if_pos (Nat.pos_of_ne_zero complete)]
                              exact ih _ _ _ ⟨c.ctx, after.rearm timeouts⟩

/-! ## Bounds -/

theorem modbusTcpFlushLoop_elapsed (fuel rcSum : Nat) (c : Conn (Timed σ)) :
    (modbusTcpFlushLoop (timedDevice dev sel timeouts) fuel rcSum c).2.line.elapsed =
      c.line.elapsed := by
  induction fuel generalizing rcSum c with
  | zero => rfl
  | succ fuel ih =>
      rw [modbusTcpFlushLoop]
      cases received : (timedDevice dev sel timeouts).recvDontwait tcpMaxAduLength c.line with
      | mk result line =>
          have same : line.elapsed = c.line.elapsed := by
            obtain ⟨-, rfl⟩ := Prod.mk.inj received
            rfl
          cases result with
          | error e => exact same
          | ok bytes =>
              simp only
              split
              · exact same
              · split
                · rw [ih]
                  exact same
                · exact same

theorem sleepAndFlush_elapsed (c : Conn (Timed σ)) :
    (sleepAndFlush (timedDevice dev sel timeouts) c).line.elapsed =
      c.line.elapsed + timeouts.response.micros := by
  rw [sleepAndFlush, modbusFlush]
  split
  · rfl
  · exact modbusTcpFlushLoop_elapsed dev sel timeouts _ _ _

theorem reconnect_elapsed (c : Conn (Timed σ)) :
    (modbusConnect (timedDevice dev sel timeouts)
      (modbusClose (timedDevice dev sel timeouts) c)).line.elapsed ≤ c.line.elapsed + sel.reconnect := by
  have closed : (modbusClose (timedDevice dev sel timeouts) c).line.elapsed =
      c.line.elapsed := by
    rw [modbusClose]
    split <;> rfl
  have quick := sel.connected (modbusClose (timedDevice dev sel timeouts) c).line.line
  rw [← closed, modbusConnect]
  split <;> rename_i connected <;> rw [← (Prod.mk.inj connected).2]
  all_goals exact Nat.add_le_add_left quick _

def recoverySleep (ctx : Ctx) : Nat := if ctx.linkRecovery then timeouts.response.micros else 0

def recoveryTime (ctx : Ctx) : Nat :=
  if ctx.linkRecovery then max timeouts.response.micros sel.reconnect else 0

theorem recoverySleep_le (ctx : Ctx) : recoverySleep timeouts ctx ≤ recoveryTime sel timeouts ctx := by
  rw [recoverySleep, recoveryTime]
  split
  · exact Nat.le_max_left _ _
  · exact le_refl 0

theorem recoverSelect_expired (c : Conn (Timed σ)) :
    (recoverSelect (armedDevice dev sel timeouts) (.errno .etimedout) c).line.elapsed =
      c.line.elapsed + recoverySleep timeouts c.ctx := by
  rw [armedDevice, recoverSelect_with, recoverySleep]
  unfold recoverSelect
  split
  · exact sleepAndFlush_elapsed dev sel timeouts c
  · rfl

theorem recoverSelect_elapsed (e : Failure) (c : Conn (Timed σ)) :
    (recoverSelect (armedDevice dev sel timeouts) e c).line.elapsed ≤
      c.line.elapsed + recoveryTime sel timeouts c.ctx := by
  by_cases expired : e = .errno .etimedout
  · rw [expired, recoverSelect_expired]
    exact Nat.add_le_add_left (recoverySleep_le sel timeouts c.ctx) _
  · rw [armedDevice, recoverSelect_with, recoveryTime]
    unfold recoverSelect
    split
    · split
      · exact absurd rfl expired
      · exact (reconnect_elapsed dev sel timeouts c).trans (Nat.add_le_add_left (Nat.le_max_right _ _) _)
      · exact Nat.le_add_right _ _
    · exact Nat.le_add_right _ _

theorem recoverRead_elapsed (e : Errno) (c : Conn (Timed σ)) :
    (recoverRead (armedDevice dev sel timeouts) e c).line.elapsed ≤
      c.line.elapsed + recoveryTime sel timeouts c.ctx := by
  rw [armedDevice, recoverRead_with, recoverRead, recoveryTime]
  split
  · rename_i recovers
    rw [if_pos recovers.1]
    exact (reconnect_elapsed dev sel timeouts c).trans (Nat.add_le_add_left (Nat.le_max_right _ _) _)
  · exact Nat.le_add_right _ _

def Device.UntimedReads (dev : Device σ) : Prop := ∀ n l, (dev.recv n l).1 ≠ .error .etimedout

/-- A run that starts with `tv = t` and the bytes `msg`: what it stores, and how long it waits. It
waits for `t` at first, and for the byte timeout after each read. -/
structure Waited (c : Conn (Timed σ)) (msg : List Byte) (t : Nat)
    (done : Except Failure Unit × List Byte × Conn (Timed σ)) : Prop where
  stored : msg.length ≤ done.2.1.length
  fits : done.2.1.length ≤ maxMessageLength
  bounded : done.2.2.line.elapsed ≤ c.line.elapsed + t +
    (done.2.1.length - msg.length) * timeouts.byte.micros + recoveryTime sel timeouts c.ctx
  expires : dev.UntimedReads → done.1 = .error (.errno .etimedout) →
    timeouts.byte.micros = 0 ∨ done.2.1.length = msg.length →
    done.2.2.line.elapsed = c.line.elapsed + t + recoverySleep timeouts c.ctx

theorem Waited.read {c : Conn (Timed σ)} {msg bytes : List Byte} {t t' : Nat} {line : Timed σ}
    {done : Except Failure Unit × List Byte × Conn (Timed σ)} (some : bytes ≠ [])
    (waits : line.elapsed + t' = c.line.elapsed + t)
    (rest : Waited dev sel timeouts { c with line } (msg ++ bytes)
      (if timeouts.byte.micros = 0 then t' else timeouts.byte.micros) done) :
    Waited dev sel timeouts c msg t done := by
  obtain ⟨stored, fits, bounded, expires⟩ := rest
  have positive := List.length_pos_iff.mpr some
  rw [List.length_append] at stored bounded expires
  refine ⟨by omega, fits, ?_, ?_⟩
  · by_cases none : timeouts.byte.micros = 0
    · simp only [none, if_true, Nat.mul_zero] at bounded ⊢
      omega
    · rw [if_neg none] at bounded
      have once : timeouts.byte.micros +
          (done.2.1.length - (msg.length + bytes.length)) * timeouts.byte.micros ≤
          (done.2.1.length - msg.length) * timeouts.byte.micros := by
        rw [Nat.add_comm, ← Nat.succ_mul]
        apply Nat.mul_le_mul_right
        omega
      simp only at bounded
      omega
  · intro untimed timeout exact_
    have none : timeouts.byte.micros = 0 := by
      rcases exact_ with none | nothing
      · exact none
      · omega
    have total := expires untimed timeout (.inl none)
    rw [if_pos none] at total
    simp only at total
    omega

theorem Waited.ended {c c' : Conn (Timed σ)} {msg msg' : List Byte} {t : Nat}
    {result : Except Failure Unit} (longer : msg.length ≤ msg'.length)
    (fits : msg'.length ≤ maxMessageLength)
    (waits : c'.line.elapsed ≤ c.line.elapsed + t + recoveryTime sel timeouts c.ctx)
    (unexpired : dev.UntimedReads → result ≠ .error (.errno .etimedout)) :
    Waited dev sel timeouts c msg t (result, msg', c') := by
  refine ⟨longer, fits, ?_, fun untimed timeout => absurd timeout (unexpired untimed)⟩
  simp only
  omega

theorem Timed.rearm_tv (l : Timed σ) {t : Nat} (armed : l.tv = some t) :
    (l.rearm timeouts).tv =
      some (if timeouts.byte.micros = 0 then t else timeouts.byte.micros) := by
  unfold rearm Timeval.micros
  split
  · rw [if_neg (by omega)]
  · rw [if_pos (by omega)]
    exact armed

theorem Timed.rearm_elapsed (l : Timed σ) : (l.rearm timeouts).elapsed = l.elapsed := by
  unfold rearm
  split <;> rfl

theorem armedDevice_recv {n : Nat} {l l' : Timed σ} {t : Nat} (armed : l.tv = some t)
    {result : Except Errno { bytes : List Byte // bytes.length ≤ n }}
    (received : (armedDevice dev sel timeouts).recv n l = (result, l')) :
    (dev.recv n l.line).1 = result ∧ l'.elapsed = l.elapsed ∧
      ∀ bytes, result = .ok bytes → bytes.val ≠ [] →
        l'.tv = some (if timeouts.byte.micros = 0 then t else timeouts.byte.micros) := by
  cases read : dev.recv n l.line with
  | mk answer line =>
      cases answer with
      | error e =>
          simp only [armedDevice, read, Prod.mk.injEq] at received
          obtain ⟨rfl, rfl⟩ := received
          exact ⟨rfl, rfl, fun _ ok => (by cases ok)⟩
      | ok bytes =>
          obtain ⟨bytes, short⟩ := bytes
          cases bytes with
          | nil =>
              simp only [armedDevice, read, Prod.mk.injEq] at received
              obtain ⟨rfl, rfl⟩ := received
              refine ⟨rfl, rfl, fun bytes ok some => ?_⟩
              cases ok
              exact absurd rfl some
          | cons b bytes =>
              simp only [armedDevice, read, Prod.mk.injEq] at received
              obtain ⟨rfl, rfl⟩ := received
              exact ⟨rfl, Timed.rearm_elapsed timeouts _, fun _ _ _ => Timed.rearm_tv timeouts _ armed⟩

theorem nextStep_refusal {b : Backend} {msgType : MsgType} {step : Step} {msg : List Byte} {e : Errno}
    (next : nextStep b msgType step msg = .error e) : e = .embbaddata := by
  have refusal : ∀ {msg}, metaArm b msgType msg = .error e → e = .embbaddata := by
    intro msg refused
    simp only [metaArm] at refused
    split at refused
    · exact (Except.error.inj refused).symm
    · cases refused
  cases step with
  | stepFunction =>
      simp only [nextStep] at next
      split at next
      · cases next
      · exact refusal next
  | stepMeta => exact refusal next
  | stepData => cases next

theorem receiveLoop_waits (msgType : MsgType) (fuel : Nat) (step : Step) (n : Nat) (msg : List Byte)
    (c : Conn (Timed σ)) (expecting : Expecting c.ctx.backend msgType msg n step) (t : Nat)
    (armed : c.line.tv = some t) :
    Waited dev sel timeouts c msg t
      (receiveLoop (armedDevice dev sel timeouts) msgType fuel step n msg c) := by
  induction fuel generalizing step n msg c t with
  | zero =>
      have fits := expecting.bound
      exact Waited.ended dev sel timeouts (le_refl _) (by simp only [maxMessageLength]; omega)
        (by omega) (by simp)
  | succ fuel ih =>
      have fits := expecting.bound
      have round := receiveLoop_does (armedDevice dev sel timeouts) msgType fuel step n msg c
      have waits := selectLoop_waits sel (sel.signals c.line.line + 1) c.line t armed
      have short : msg.length ≤ maxMessageLength := by
        simp only [maxMessageLength]
        omega
      have read : ∀ {line line' : Timed σ} {result},
          (armedDevice dev sel timeouts).select n c.line = (.ok (), line) →
          (armedDevice dev sel timeouts).recv n line = (result, line') →
          ∃ t', line'.elapsed + t' = c.line.elapsed + t ∧
            (dev.UntimedReads → result ≠ .error .etimedout) ∧
            ∀ bytes, result = .ok bytes → bytes.val ≠ [] →
              line'.tv = some (if timeouts.byte.micros = 0 then t' else timeouts.byte.micros) := by
        intro line line' result selected received
        have selected' : selectLoop sel (sel.signals c.line.line + 1) c.line = (.ok (), line) := selected
        rw [selected'] at waits
        obtain ⟨t', left, total, -⟩ := waits
        obtain ⟨answer, same, rearmed⟩ :=
          armedDevice_recv dev sel timeouts left received
        refine ⟨t', ?_, fun untimed => ?_, rearmed⟩
        · rw [same]
          exact total
        · rw [← answer]
          exact untimed n line.line
      generalize receiveLoop (armedDevice dev sel timeouts) msgType (fuel + 1) step n msg c =
        done at round
      cases round with
      | done finished => exact Waited.ended dev sel timeouts (le_refl _) short (by omega) (by simp)
      | @unready e line selected =>
          have selected' : selectLoop sel (sel.signals c.line.line + 1) c.line = (.error e, line) :=
            selected
          rw [selected'] at waits
          obtain ⟨t', -, total, expired⟩ := waits
          simp only at total expired
          refine ⟨le_refl _, short, ?_, fun _ timeout _ => ?_⟩
          · have recovered := recoverSelect_elapsed dev sel timeouts e { c with line }
            simp only at recovered ⊢
            omega
          · obtain rfl : e = .errno .etimedout := Except.error.inj timeout
            have none := expired rfl
            have slept := recoverSelect_expired dev sel timeouts { c with line }
            simp only [slept]
            omega
      | @unread e line line' selected received =>
          obtain ⟨t', total, untimed, -⟩ := read selected received
          have recovered := recoverRead_elapsed dev sel timeouts e { c with line := line' }
          apply Waited.ended dev sel timeouts (le_refl _) short
          · simp only at recovered ⊢
            omega
          · intro reads timeout
            cases timeout
            exact untimed reads rfl
      | @closed line line' empty selected received =>
          obtain ⟨t', total, -⟩ := read selected received
          have recovered := recoverRead_elapsed dev sel timeouts .econnreset { c with line := line' }
          apply Waited.ended dev sel timeouts (le_refl _) short
          · simp only at recovered ⊢
            omega
          · simp
      | @more line line' bytes selected received some remaining =>
          obtain ⟨t', total, -, rearmed⟩ := read selected received
          exact (ih _ _ _ { c with line := line' } (expecting.append remaining) _
            (rearmed _ rfl some)).read dev sel timeouts some total
      | @refused e line line' bytes selected received next =>
          obtain ⟨t', total, -⟩ := read selected received
          have bound := bytes.property
          apply Waited.ended dev sel timeouts
          · rw [List.length_append]
            omega
          · rw [List.length_append]
            simp only [maxMessageLength]
            omega
          · simp only
            omega
          · intro _ timeout
            cases timeout
            have refused := nextStep_refusal next
            cases refused
      | @next step' n' line line' bytes selected received some complete next =>
          obtain ⟨t', total, -, rearmed⟩ := read selected received
          rw [← complete] at expecting
          exact (ih _ _ _ { c with line := line' } (nextStep_expecting expecting next) _
            (rearmed _ rfl some)).read dev sel timeouts some total

/-! ## One message -/

theorem integrity_unexpired (ctx : Ctx) (msg : List Byte) :
    integrity ctx msg ≠ .error (.errno .etimedout) := by
  rw [integrity]
  cases ctx.backend with
  | tcp => simp
  | rtu =>
      simp only
      split
      · simp
      · split <;> simp

theorem checkIntegrity_snd {τ : Type} (dev : Device τ) (c : Conn τ) (msg : List Byte) :
    (checkIntegrity dev c msg).2 =
      if integrity c.ctx msg = .error (.errno .embbadcrc) ∧ c.ctx.protocolRecovery then
        { c with line := dev.tcflush c.line }
      else c := by
  rw [checkIntegrity, integrity]
  cases c.ctx.backend with
  | tcp => simp
  | rtu =>
      simp only [modbusRtuCheckIntegrity]
      split
      · simp
      · split
        · simp
        · simp only [true_and]
          split <;> rfl

theorem checkIntegrity_armed {c c' : Conn (Timed σ)} (same : c.disarmed = c'.disarmed)
    (msg : List Byte) :
    let armed := checkIntegrity (armedDevice dev sel timeouts) c msg
    let timed := checkIntegrity (timedDevice dev sel timeouts) c' msg
    armed.1 = timed.1 ∧ armed.2.disarmed = timed.2.disarmed := by
  obtain ⟨ctx, line⟩ := c
  obtain ⟨ctx', line'⟩ := c'
  simp only [Conn.disarmed, Conn.mk.injEq, Timed.mk.injEq] at same
  obtain ⟨rfl, lines, -, times⟩ := same
  intro armed timed
  constructor
  · rw [show armed.1 = integrity ctx msg from checkIntegrity_fst _ _ _,
      show timed.1 = integrity ctx msg from checkIntegrity_fst _ _ _]
  · rw [show armed.2 = _ from checkIntegrity_snd _ _ _, show timed.2 = _ from checkIntegrity_snd _ _ _]
    split
    · simp only [Conn.disarmed, armedDevice, timedDevice, lines, times]
    · simp only [Conn.disarmed, lines, times]

theorem checkIntegrity_elapsed (c : Conn (Timed σ)) (msg : List Byte) :
    (checkIntegrity (armedDevice dev sel timeouts) c msg).2.line.elapsed = c.line.elapsed := by
  rw [checkIntegrity_snd]
  split <;> rfl

theorem timedReceiveMsg_armed (msgType : MsgType) (c : Conn (Timed σ))
    (armed : c.line.tv = firstTimeout timeouts msgType) :
    let timed := timedReceiveMsg (timedDevice dev sel timeouts) timeouts msgType c
    let armed := modbusReceiveMsg (armedDevice dev sel timeouts) msgType c
    armed.1 = timed.1 ∧ armed.2.1 = timed.2.1 ∧ armed.2.2.disarmed = timed.2.2.disarmed := by
  have started : ({ c with line := { c.line with tv := firstTimeout timeouts msgType } } :
      Conn (Timed σ)) = c := by
    rw [← armed]
  rw [modbusReceiveMsg, timedReceiveMsg, started]
  split
  · exact ⟨rfl, rfl, rfl⟩
  · have looped := timedReceiveLoop_armed dev sel timeouts msgType receiveFuel .stepFunction
      (c.ctx.backend.headerLength + 1) [] c
    cases armedRun : receiveLoop (armedDevice dev sel timeouts) msgType receiveFuel
        .stepFunction (c.ctx.backend.headerLength + 1) [] c with
    | mk result rest =>
        obtain ⟨msg, c₁⟩ := rest
        cases timedRun : timedReceiveLoop (timedDevice dev sel timeouts) timeouts msgType
            receiveFuel .stepFunction (c.ctx.backend.headerLength + 1) [] c with
        | mk result' rest' =>
            obtain ⟨msg', c₁'⟩ := rest'
            rw [armedRun, timedRun] at looped
            obtain ⟨results, stored, conns⟩ := looped
            obtain rfl : result = result' := results
            obtain rfl : msg = msg' := stored
            simp only
            rw [timedRun]
            cases result with
            | error e => exact ⟨rfl, rfl, conns⟩
            | ok _ =>
                obtain ⟨checked, checked'⟩ := checkIntegrity_armed dev sel timeouts conns msg
                exact ⟨checked, rfl, checked'⟩

theorem modbusReceiveMsg_waits (msgType : MsgType) (c : Conn (Timed σ)) (t : Nat)
    (armed : c.line.tv = some t) :
    let done := modbusReceiveMsg (armedDevice dev sel timeouts) msgType c
    done.2.1.length ≤ maxMessageLength ∧
      done.2.2.line.elapsed ≤ c.line.elapsed + t + done.2.1.length * timeouts.byte.micros +
        recoveryTime sel timeouts c.ctx ∧
      (dev.UntimedReads → done.1 = .error (.errno .etimedout) →
        timeouts.byte.micros = 0 ∨ done.2.1 = [] →
        done.2.2.line.elapsed = c.line.elapsed + t + recoverySleep timeouts c.ctx) := by
  rw [modbusReceiveMsg]
  split
  · exact ⟨Nat.zero_le _, by simp only; omega, fun _ timeout => (by cases timeout)⟩
  · have looped := receiveLoop_waits dev sel timeouts msgType receiveFuel .stepFunction
      (c.ctx.backend.headerLength + 1) [] c (start_expecting _ _) t armed
    cases run : receiveLoop (armedDevice dev sel timeouts) msgType receiveFuel .stepFunction
        (c.ctx.backend.headerLength + 1) [] c with
    | mk result rest =>
        obtain ⟨msg, c₁⟩ := rest
        rw [run] at looped
        obtain ⟨-, fits, bounded, expires⟩ := looped
        cases result with
        | error e =>
            refine ⟨fits, bounded, fun untimed timeout exact_ => expires untimed ?_ ?_⟩
            · exact congrArg Except.error (Except.error.inj timeout)
            · exact exact_.imp_right List.length_eq_zero_iff.mpr
        | ok _ =>
            have same := checkIntegrity_elapsed dev sel timeouts c₁ msg
            refine ⟨fits, ?_, fun _ timeout => ?_⟩
            · simp only [same]
              exact bounded
            · have judged : integrity c₁.ctx msg = .error (.errno .etimedout) := by
                rw [← checkIntegrity_fst (armedDevice dev sel timeouts)]
                exact timeout
              exact absurd judged (integrity_unexpired _ _)

/-- `_modbus_receive_msg` waits for its first timeout and once for the byte timeout after each read at
most; with recovery of the link it may then sleep for the response timeout or reconnect. Without a byte
timeout, or when nothing arrives, it reports a timeout after the first one and that sleep exactly. -/
theorem timedReceiveMsg_waits (msgType : MsgType) (c : Conn (Timed σ)) (t : Nat)
    (first : firstTimeout timeouts msgType = some t) :
    let done := timedReceiveMsg (timedDevice dev sel timeouts) timeouts msgType c
    done.2.1.length ≤ maxMessageLength ∧
      done.2.2.line.elapsed ≤ c.line.elapsed + t + done.2.1.length * timeouts.byte.micros +
        recoveryTime sel timeouts c.ctx ∧
      (dev.UntimedReads → done.1 = .error (.errno .etimedout) →
        timeouts.byte.micros = 0 ∨ done.2.1 = [] →
        done.2.2.line.elapsed = c.line.elapsed + t + recoverySleep timeouts c.ctx) := by
  by_cases connected : c.ctx.isConnected
  · set c₀ : Conn (Timed σ) := { c with line := { c.line with tv := firstTimeout timeouts msgType } }
    have start : timedReceiveMsg (timedDevice dev sel timeouts) timeouts msgType c =
        timedReceiveMsg (timedDevice dev sel timeouts) timeouts msgType c₀ := by
      rw [timedReceiveMsg, timedReceiveMsg, if_neg (not_not.mpr connected),
        if_neg (not_not.mpr (show c₀.ctx.isConnected from connected))]
    have waits := modbusReceiveMsg_waits dev sel timeouts msgType c₀ t first
    obtain ⟨results, stored, conns⟩ := timedReceiveMsg_armed dev sel timeouts msgType c₀ rfl
    have elapsed := congrArg (fun c : Conn (Timed σ) => c.line.elapsed) conns
    simp only [Conn.disarmed] at elapsed
    simp only [results, stored, elapsed] at waits
    rw [start]
    exact waits
  · rw [timedReceiveMsg, if_pos connected]
    exact ⟨Nat.zero_le _, by simp only; omega, fun _ timeout => (by cases timeout)⟩

/-! ## A client function -/

theorem checkConfirmation_elapsed (c : Conn (Timed σ)) (req rsp : Buffer) (n : Int) :
    (checkConfirmation (armedDevice dev sel timeouts) c req rsp n).2.line.elapsed ≤
      c.line.elapsed + if c.ctx.protocolRecovery then timeouts.response.micros else 0 := by
  rw [checkConfirmation]
  split
  · exact Nat.le_add_right _ _
  · simp only
    split
    · rw [recoverProtocol]
      split
      · have slept := sleepAndFlush_elapsed dev sel timeouts c
        have same : sleepAndFlush (armedDevice dev sel timeouts) c =
            sleepAndFlush (timedDevice dev sel timeouts) c := by
          simp only [armedDevice, sleepAndFlush, modbusFlush, modbusTcpFlush, modbusRtuFlush,
            modbusTcpFlushLoop_with]
          rfl
        rw [same, slept]
      · exact Nat.le_add_right _ _
    · exact Nat.le_add_right _ _

theorem received_waits {c c' : Conn (Timed σ)} {result : Except Failure Int} {msg : List Byte}
    (received : modbusReceiveMsg (armedDevice dev sel timeouts) .confirmation c = (result, msg, c'))
    (off : c.ctx.linkRecovery = false) (armed : c.line.tv = some timeouts.response.micros) :
    c'.line.elapsed ≤
      c.line.elapsed + timeouts.response.micros + maxMessageLength * timeouts.byte.micros := by
  obtain ⟨fits, bounded, -⟩ :=
    modbusReceiveMsg_waits dev sel timeouts .confirmation c _ armed
  have awake : recoveryTime sel timeouts c.ctx = 0 := by
    rw [recoveryTime, if_neg (by simp [off])]
  rw [received, awake, Nat.add_zero] at bounded
  rw [received] at fits
  exact bounded.trans (Nat.add_le_add_left (Nat.mul_le_mul_right timeouts.byte.micros fits) _)

theorem armedDevice_timely : (armedDevice dev sel timeouts).Timely :=
  fun _ l => selectLoop_ends sel _ l (Nat.lt_succ_self _)

theorem checkConfirmation_errno {c c' : Conn (Timed σ)} {req rsp : Buffer} {n : Int} {e : Failure}
    (failed : checkConfirmation (armedDevice dev sel timeouts) c req rsp n = (.error e, c')) :
    ∃ errno, e = .errno errno := by
  rw [checkConfirmation] at failed
  split at failed
  · cases failed
  · exact ⟨_, (Except.error.inj (congrArg Prod.fst failed)).symm⟩

def Returns {α : Type} (result : Except Failure α) : Prop :=
  (∃ a, result = .ok a) ∨ ∃ e, result = .error (.errno e)

def callTime (ctx : Ctx) (reqLength : Nat) : Nat :=
  timeouts.sendSleep reqLength + timeouts.response.micros +
    maxMessageLength * timeouts.byte.micros +
      if ctx.protocolRecovery then timeouts.response.micros else 0

theorem exchange_waits (c : Conn (Timed σ)) (req : List Byte) (off : c.ctx.linkRecovery = false) :
    let done := exchange (armedDevice dev sel timeouts) c req
    Returns done.1 ∧ done.2.line.elapsed ≤
      c.line.elapsed + callTime timeouts c.ctx (sendMsgPre c.ctx.backend req).length := by
  intro done
  have run : exchange (armedDevice dev sel timeouts) c req = done := rfl
  clear_value done
  set armed := armedDevice dev sel timeouts with armed_def
  set frame := sendMsgPre c.ctx.backend req with frame_def
  have once := @ClientOp.sendFrame_once (Timed σ) armed c frame off
  have sent : ∀ {result line}, armed.send frame c.line = (result, line) →
      line.elapsed = c.line.elapsed + timeouts.sendSleep frame.length ∧
        line.tv = some timeouts.response.micros := by
    intro result line sent
    obtain ⟨-, rfl⟩ := Prod.mk.inj sent
    exact ⟨rfl, rfl⟩
  rw [exchange, ← frame_def, once] at run
  rw [callTime]
  cases sending : armed.send frame c.line with
  | mk result line =>
      obtain ⟨slept, tv⟩ := sent sending
      rw [sending] at run
      cases result with
      | error e =>
          rw [← run]
          exact ⟨.inr ⟨e, rfl⟩, by simp only [slept]; omega⟩
      | ok n =>
          by_cases short : 0 < n ∧ n ≠ frame.length
          · simp only [if_pos short] at run
            rw [← run]
            exact ⟨.inr ⟨_, rfl⟩, by simp only [slept]; omega⟩
          · simp only [if_neg short] at run
            by_cases some : (0 : Int) < n
            · rw [if_pos some] at run
              cases received : modbusReceiveMsg armed .confirmation { c with line } with
              | mk result rest =>
                  obtain ⟨msg, c'⟩ := rest
                  have inTime := received_waits dev sel timeouts received off tv
                  simp only [slept] at inTime
                  rw [received] at run
                  cases result with
                  | error e =>
                      obtain ⟨errno, rfl⟩ := modbusReceiveMsg_ends (armedDevice_timely dev sel timeouts)
                        .confirmation _ (congrArg Prod.fst received)
                      rw [← run]
                      exact ⟨.inr ⟨errno, rfl⟩, by simp only; omega⟩
                  | ok rc =>
                      have ctx : c'.ctx = c.ctx := (modbusReceiveMsg_ok armed received).1
                      have checked := checkConfirmation_elapsed dev sel timeouts c'
                        (ofBytes frame) (overlay c'.ctx.uninit msg) rc
                      rw [← armed_def, congrArg Ctx.protocolRecovery ctx] at checked
                      simp only at run
                      cases judged : checkConfirmation armed c' (ofBytes frame)
                          (overlay c'.ctx.uninit msg) rc with
                      | mk result c'' =>
                          rw [judged] at checked run
                          simp only at checked
                          cases result with
                          | error e =>
                              obtain ⟨errno, rfl⟩ := checkConfirmation_errno dev sel timeouts judged
                              rw [← run]
                              exact ⟨.inr ⟨errno, rfl⟩, by simp only; omega⟩
                          | ok k =>
                              rw [← run]
                              exact ⟨.inl ⟨_, rfl⟩, by simp only; omega⟩
            · rw [if_neg some] at run
              rw [← run]
              exact ⟨.inl ⟨_, rfl⟩, by simp only [slept]; omega⟩

theorem ClientOp.finish_returns (op : ClientOp) {τ : Type}
    {done : Except Failure (Int × Option Buffer) × Conn τ} (returned : Returns done.1) :
    Returns (op.finish done).1 := by
  obtain ⟨result, c⟩ := done
  rcases returned with ⟨⟨rc, rsp⟩, ok⟩ | ⟨e, failed⟩
  · obtain rfl : result = .ok (rc, rsp) := ok
    cases rsp with
    | none => exact .inl ⟨_, rfl⟩
    | some rsp => exact .inl ⟨_, rfl⟩
  · obtain rfl : result = .error (.errno e) := failed
    exact .inr ⟨e, rfl⟩

/-- Without recovery of the link, a call of a client function returns, after no more than the sleeps
around the writing of its frame, the response timeout, the byte timeout once for each byte that a
message can have, and the response timeout when the protocol is recovered. -/
theorem ClientOp.run_waits (op : ClientOp) (c : Conn (Timed σ)) (off : c.ctx.linkRecovery = false) :
    let done := op.run (armedDevice dev sel timeouts) c
    Returns done.1 ∧
      done.2.2.line.elapsed ≤ c.line.elapsed + callTime timeouts c.ctx (op.sentFrame c.ctx).length := by
  have numbered : c.ctx.nextRequest.errorRecovery = c.ctx.errorRecovery :=
    nextRequest_errorRecovery c.ctx
  rcases op.run_sends (armedDevice dev sel timeouts) c with ⟨e, -, refused⟩ | ⟨-, sent⟩
  · rw [refused]
    exact ⟨.inr ⟨e, rfl⟩, Nat.le_add_right _ _⟩
  · obtain ⟨returned, waits⟩ := exchange_waits dev sel timeouts { c with ctx := c.ctx.nextRequest }
      (requestHeader c.ctx.nextRequest ++ op.pdu)
      (by simp only [Ctx.linkRecovery, numbered]; exact off)
    simp only [callTime, Ctx.protocolRecovery, numbered, nextRequest_backend] at waits
    intro done
    rw [show done = _ from sent, finish_conn]
    exact ⟨op.finish_returns returned, waits⟩

end

/-! ## An example -/

abbrev Schedule := List (Nat × List Byte)

def Schedule.select : Option Nat → Schedule → Selected × Nat × Schedule
  | none, [] => (.failed .ebadf, 0, [])
  | some t, [] => (.expired, t, [])
  | none, (time, []) :: rest => (.interrupted, time, rest)
  | none, (time, bytes) :: rest => (.ready, time, (0, bytes) :: rest)
  | some t, (time, bytes) :: rest =>
      if t < time then (.expired, t, (time - t, bytes) :: rest)
      else if bytes = [] then (.interrupted, time, rest)
      else (.ready, time, (0, bytes) :: rest)

def Schedule.selecting : Selecting Schedule where
  select := Schedule.select
  signals := List.length
  connecting _ := 0
  reconnect := 0
  within := by
    intro t l
    cases l with
    | nil => exact le_refl t
    | cons event rest =>
        simp only [Schedule.select]
        split
        · exact le_refl t
        · split <;> simp only <;> omega
  expired := by
    intro t l expired
    cases l with
    | nil => rfl
    | cons event rest =>
        simp only [Schedule.select] at expired ⊢
        split
        · rfl
        · rename_i inTime
          rw [if_neg inTime] at expired
          split at expired <;> cases expired
  other := by
    intro tv l failed
    cases tv with
    | none =>
        cases l with
        | nil => cases failed
        | cons event rest =>
            obtain ⟨time, bytes⟩ := event
            cases bytes <;> cases failed
    | some t =>
        cases l with
        | nil => cases failed
        | cons event rest =>
            simp only [Schedule.select] at failed
            split at failed
            · cases failed
            · split at failed <;> cases failed

  fewer := by
    intro tv l interrupted
    cases l with
    | nil => cases tv <;> cases interrupted
    | cons event rest =>
        obtain ⟨time, bytes⟩ := event
        cases tv with
        | none =>
            cases bytes with
            | nil => exact Nat.lt_succ_self _
            | cons => cases interrupted
        | some t =>
            simp only [Schedule.select] at interrupted ⊢
            split at interrupted
            · cases interrupted
            · rename_i inTime
              rw [if_neg inTime]
              split at interrupted
              · rename_i none
                rw [if_pos none]
                exact Nat.lt_succ_self _
              · cases interrupted
  connected _ := le_refl 0

def Schedule.device : Device Schedule where
  send msg l := (.ok msg.length, l)
  select _ l := (.ok (), l)
  recv n l :=
    match l with
    | [] => (.ok ⟨[], Nat.zero_le n⟩, [])
    | (time, bytes) :: rest =>
        (.ok ⟨bytes.take n, List.length_take_le n bytes⟩,
          if n < bytes.length then (time, bytes.drop n) :: rest else rest)
  recvDontwait n l := (.ok ⟨[], Nat.zero_le n⟩, l)
  tcflush l := l
  sleep l := l
  close l := l
  connect l := (.error .econnrefused, l)
  retries := 0

theorem Schedule.device_reads (n : Nat) (l : Schedule) :
    (Schedule.device.recv n l).1 ≠ .error .etimedout := by
  cases l <;> simp [Schedule.device]

def defaultTimeouts : Timeouts := ⟨⟨0, 500000⟩, ⟨0, 500000⟩, ⟨0, 0⟩, none⟩

def signalsAndBytes : Schedule := [(100000, []), (150000, []), (50000, [0, 1, 0, 0]), (1000000, [0])]

def withoutByteTimeout : Timeouts := { defaultTimeouts with byte := ⟨0, 0⟩ }

def waitedSignals : Except Failure Int × List Byte × Conn (Timed Schedule) :=
  timedReceiveMsg (timedDevice Schedule.device Schedule.selecting withoutByteTimeout)
    withoutByteTimeout .confirmation ⟨{ newTcp with s := 3 }, ⟨signalsAndBytes, none, 0⟩⟩

theorem timedReceiveMsg_waits_signals :
    waitedSignals.1 = .error (.errno .etimedout) ∧ waitedSignals.2.1 = [0, 1, 0, 0] ∧
      waitedSignals.2.2.line.elapsed = 500000 := by
  have expired : waitedSignals.1 = .error (.errno .etimedout) := by decide +kernel
  have waits := timedReceiveMsg_waits Schedule.device Schedule.selecting withoutByteTimeout
    .confirmation ⟨{ newTcp with s := 3 }, ⟨signalsAndBytes, none, 0⟩⟩ 500000 rfl
  have total := waits.2.2 Schedule.device_reads expired (.inl rfl)
  exact ⟨expired, by decide +kernel, total⟩

def rtsTimeouts : Timeouts := { defaultTimeouts with rts := some ⟨100, 86⟩ }

theorem run_waits_signals :
    ((ClientOp.readRegisters 0 1 fun _ => 0).run
      (armedDevice Schedule.device Schedule.selecting rtsTimeouts)
      ⟨{ newRtu 1 with s := 3 }, ⟨signalsAndBytes, none, 0⟩⟩).2.2.line.elapsed ≤ 130500888 :=
  ((ClientOp.readRegisters 0 1 fun _ => 0).run_waits Schedule.device Schedule.selecting
    rtsTimeouts ⟨{ newRtu 1 with s := 3 }, ⟨signalsAndBytes, none, 0⟩⟩ rfl).2

end ModbusNet
