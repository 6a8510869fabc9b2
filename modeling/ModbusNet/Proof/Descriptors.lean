import ModbusNet.Model.Loopback
import ModbusNet.Proof.RequestStream

namespace ModbusNet

variable {σ : Type}

/-- A property of the device that depends on whether the context holds a descriptor, and that every
call but `send` keeps which the library makes in that case. -/
structure Device.Maintains (dev : Device σ) (J : Bool → σ → Prop) : Prop where
  select : ∀ n b l, J b l → J b (dev.select n l).2
  recv : ∀ n b l, J b l → J b (dev.recv n l).2
  recvDontwait : ∀ n b l, J b l → J b (dev.recvDontwait n l).2
  tcflush : ∀ b l, J b l → J b (dev.tcflush l)
  sleep : ∀ b l, J b l → J b (dev.sleep l)
  close : ∀ l, J true l → J false (dev.close l)
  connected : ∀ l s l', J false l → dev.connect l = (.ok s, l') → 0 ≤ s ∧ J true l'
  unconnected : ∀ l e l', J false l → dev.connect l = (.error e, l') → J false l'

def Conn.Has (J : Bool → σ → Prop) (c : Conn σ) : Prop := J c.ctx.isConnected c.line

section
variable {dev : Device σ} {J : Bool → σ → Prop} (maintains : dev.Maintains J)
include maintains

theorem modbusClose_has (c : Conn σ) (held : c.Has J) : (modbusClose dev c).Has J := by
  rw [modbusClose]
  split
  · rename_i connected
    rw [Conn.Has, connected] at held
    exact maintains.close _ held
  · exact held

theorem modbusConnect_has (c : Conn σ) (closed : c.ctx.isConnected = false) (held : c.Has J) :
    (modbusConnect dev c).Has J := by
  rw [Conn.Has, closed] at held
  rw [modbusConnect]
  cases connected : dev.connect c.line with
  | mk result line =>
      cases result with
      | ok s =>
          obtain ⟨valid, now⟩ := maintains.connected _ _ _ held connected
          have true_ : ({ c.ctx with s } : Ctx).isConnected = true := decide_eq_true valid
          simp only [Conn.Has, true_]
          exact now
      | error e => exact maintains.unconnected _ _ _ held connected

theorem Device.Maintains.preserves : dev.Preserves (Conn.Has J) where
  unready := by
    intro c n e line selected held
    have waited := maintains.select n _ c.line held
    rwa [selected] at waited
  pair := by
    intro c n line selected held
    have waited := maintains.select n _ c.line held
    rw [selected] at waited
    exact maintains.recv n _ line waited
  recvDontwait := fun c n held => maintains.recvDontwait n _ c.line held
  tcflush := fun c held => maintains.tcflush _ c.line held
  sleep := fun c held => maintains.sleep _ c.line held
  overflow := fun _ held => held
  close := fun c _ held => modbusClose_has maintains c held
  connect := fun c _ closed held => modbusConnect_has maintains c closed held

theorem ClientOp.run_has (sends : ∀ msg b l, J b l → J b (dev.send msg l).2) (op : ClientOp)
    (c : Conn σ) (held : c.Has J) : (op.run dev c).2.2.Has J := by
  rcases op.run_sends dev c with ⟨e, -, refused⟩ | ⟨-, sent⟩
  · rw [refused]
    exact held
  · have numbered : Conn.Has J { c with ctx := c.ctx.nextRequest } := by
      have same : c.ctx.nextRequest.isConnected = c.ctx.isConnected := by
        unfold Ctx.nextRequest
        split <;> rfl
      rw [Conn.Has, same]
      exact held
    rw [sent, finish_conn]
    exact exchange_preserves maintains.preserves _ _
      (sendFrame_preserves maintains.preserves (fun c msg held => sends msg _ c.line held) _ _ numbered)

end

/-- A device with the number of its descriptors that are open; none once a descriptor was closed
that was not open. -/
def Device.counting (dev : Device σ) : Device (σ × Option Nat) where
  send msg l := ((dev.send msg l.1).1, (dev.send msg l.1).2, l.2)
  select n l := ((dev.select n l.1).1, (dev.select n l.1).2, l.2)
  recv n l := ((dev.recv n l.1).1, (dev.recv n l.1).2, l.2)
  recvDontwait n l := ((dev.recvDontwait n l.1).1, (dev.recvDontwait n l.1).2, l.2)
  tcflush l := (dev.tcflush l.1, l.2)
  sleep l := (dev.sleep l.1, l.2)
  close l := (dev.close l.1, l.2.bind fun open_ => if open_ = 0 then none else some (open_ - 1))
  connect l :=
    ((dev.connect l.1).1, (dev.connect l.1).2,
      match (dev.connect l.1).1 with
      | .ok _ => l.2.map (· + 1)
      | .error _ => l.2)
  retries := dev.retries

inductive Session (dev : Device σ) (c : Conn σ) : Conn σ → Prop
  | start : Session dev c c
  | connect {c' : Conn σ} (before : Session dev c c') (closed : c'.ctx.isConnected = false) :
      Session dev c (modbusConnect dev c')
  | close {c' : Conn σ} (before : Session dev c c') : Session dev c (modbusClose dev c')
  | flush {c' : Conn σ} (before : Session dev c c') : Session dev c (modbusFlush dev c').2
  | client {c' : Conn σ} (before : Session dev c c') (op : ClientOp) :
      Session dev c (op.run dev c').2.2
  | receive {c' : Conn σ} (before : Session dev c c') (req : Buffer) :
      Session dev c (modbusReceive dev c' req).2.2
  | reply {c' : Conn σ} (before : Session dev c c') (req : Buffer) (n : Int) (mb : ModbusMapping) :
      Session dev c (modbusReply dev c' req n mb).2.2
  | replyException {c' : Conn σ} (before : Session dev c c') (req : Buffer) (exceptionCode : Nat) :
      Session dev c (modbusReplyException dev c' req exceptionCode).2

theorem Session.has {dev : Device σ} {J : Bool → σ → Prop} (maintains : dev.Maintains J)
    (sends : ∀ msg b l, J b l → J b (dev.send msg l).2) {c c' : Conn σ}
    (session : Session dev c c') (held : c.Has J) : c'.Has J := by
  have preserves : dev.Preserves (Conn.Has J) := maintains.preserves
  have sending : ∀ (c : Conn σ) msg, c.Has J → Conn.Has J { c with line := (dev.send msg c.line).2 } :=
    fun c msg held => sends msg _ c.line held
  induction session with
  | start => exact held
  | connect _ closed ih => exact modbusConnect_has maintains _ closed ih
  | close _ ih => exact modbusClose_has maintains _ ih
  | flush _ ih => exact modbusFlush_preserves preserves _ ih
  | client _ op ih => exact op.run_has maintains sends _ ih
  | receive _ req ih => exact modbusReceive_preserves preserves (fun _ _ held => held) _ req ih
  | reply _ req n mb ih => exact modbusReply_preserves preserves sending _ req n mb ih
  | replyException _ req exceptionCode ih =>
      rw [modbusReplyException]
      split
      · exact sendMsg_preserves preserves sending _ _ ih
      · exact ih

theorem counting_maintains (dev : Device σ)
    (valid : ∀ l s l', dev.connect l = (.ok s, l') → 0 ≤ s) :
    dev.counting.Maintains fun connected l => l.2 = some (if connected then 1 else 0) where
  select := fun _ _ _ held => held
  recv := fun _ _ _ held => held
  recvDontwait := fun _ _ _ held => held
  tcflush := fun _ _ held => held
  sleep := fun _ _ held => held
  close := by
    intro l held
    simp only [Device.counting, held]
    rfl
  connected := by
    intro l s l' held connected
    cases opened : dev.connect l.1 with
    | mk result line =>
        simp only [Device.counting, opened, Prod.mk.injEq] at connected
        obtain ⟨rfl, rfl⟩ := connected
        refine ⟨valid _ _ _ opened, ?_⟩
        simp only [held]
        rfl
  unconnected := by
    intro l e l' held refused
    cases opened : dev.connect l.1 with
    | mk result line =>
        simp only [Device.counting, opened, Prod.mk.injEq] at refused
        obtain ⟨rfl, rfl⟩ := refused
        exact held

/-- Whatever the device does and whatever is recovered, a program that connects its context only
when it is not connected has one open descriptor when the context is connected and none otherwise,
and never closes one that is not open. -/
theorem session_descriptors (dev : Device σ)
    (valid : ∀ l s l', dev.connect l = (.ok s, l') → 0 ≤ s) (ctx : Ctx) (line : σ)
    (fresh : ctx.isConnected = false) (c : Conn (σ × Option Nat))
    (session : Session dev.counting ⟨ctx, (line, some 0)⟩ c) :
    c.line.2 = some (if c.ctx.isConnected then 1 else 0) := by
  apply session.has (counting_maintains dev valid) fun _ _ _ held => held
  rw [Conn.Has, fresh]
  rfl

def flakyDevice : Device Nat where
  send msg resets := if resets = 0 then (.ok msg.length, 0) else (.error .econnreset, resets - 1)
  select _ resets := (.error (.errno .ebadf), resets)
  recv _ resets := (.ok ⟨[], Nat.zero_le _⟩, resets)
  recvDontwait _ resets := (.ok ⟨[], Nat.zero_le _⟩, resets)
  tcflush resets := resets
  sleep resets := resets
  close resets := resets
  connect resets := (.ok 5, resets)
  retries := 4

theorem session_descriptors_flaky :
    let recovering : Ctx := { newTcp with s := -1, errorRecovery := errorRecoveryLink }
    let c := modbusConnect flakyDevice.counting ⟨recovering, (2, some 0)⟩
    let read := (ClientOp.readRegisters 0 1 fun _ => 0).run flakyDevice.counting c
    read.1 = .error (.errno .ebadf) ∧
      read.2.2.line.2 = some (if read.2.2.ctx.isConnected then 1 else 0) := by
  intro recovering c read
  refine ⟨by decide +kernel, ?_⟩
  apply session_descriptors flakyDevice _ recovering 2 rfl read.2.2 (.client (.connect .start rfl) _)
  intro l s l' connected
  obtain rfl : 5 = s := Except.ok.inj (Prod.mk.inj connected).1
  decide

end ModbusNet
