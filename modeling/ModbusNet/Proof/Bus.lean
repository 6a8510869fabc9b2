import ModbusNet.Model.Loopback
import ModbusNet.Proof.RequestStream

namespace ModbusNet

section
variable {π : Type} (react : React π) (ctx : Ctx)

theorem whole_rtu_delimits {msgType : MsgType} (slave : Byte) {pdu : List Byte}
    (whole : Whole msgType pdu) :
    Delimits .rtu msgType (ofBytes (modbusRtuSendMsgPre (slave :: pdu)))
      (modbusRtuSendMsgPre (slave :: pdu)).length :=
  Carries.delimits ⟨[slave], _, rfl, rfl, rfl⟩ whole

/-- A slave ignores the request to another slave, and then the response from it. -/
theorem takes_foreign (ignoring : Bool) (slave : Byte) (pdu : List Byte) (connected : ctx.isConnected)
    (rtu : ctx.backend = .rtu) (foreign : (slave.toNat : Int) ≠ ctx.slave)
    (unicast : slave.toNat ≠ broadcastAddress)
    (whole : Whole (if ignoring then .confirmation else .indication) pdu) :
    Takes react ctx ignoring (.ignored (modbusRtuSendMsgPre (slave :: pdu))) !ignoring := by
  intro c buffer rest same next
  obtain ⟨incoming, rest', run⟩ := modbusReceiveMsg_frame react _
    (modbusRtuSendMsgPre (slave :: pdu)) rest c (by rw [same]; exact connected)
    (by rw [same, rtu]; exact whole_rtu_delimits slave whole) next
  have ignored := checkIntegrity_foreign (lineDevice react) (c.withIncoming incoming) slave
    (modbusRtuSendMsgPre (slave :: pdu)).tail (by rw [withIncoming_ctx, same]; exact rtu)
    (by rw [withIncoming_ctx, same]; exact foreign) unicast
  change checkIntegrity _ _ (modbusRtuSendMsgPre (slave :: pdu)) = _ at ignored
  rw [ignored] at run
  refine ⟨.ok 0, overlay buffer (modbusRtuSendMsgPre (slave :: pdu)), incoming, rest', ?_, rfl⟩
  have backend : c.ctx.backend = .rtu := by rw [same]; exact rtu
  have flag : c.ctx.confirmationToIgnore = ignoring := by rw [same]
  cases ignoring <;>
    · simp only [Bool.false_eq_true, if_false, if_true] at run
      simp only [modbusReceive, backend, modbusRtuReceive, flag, run, Bool.false_eq_true, if_false,
        if_true]
      rfl

theorem takes_noResponse (connected : ctx.isConnected) (rtu : ctx.backend = .rtu) :
    Takes react ctx true ⟨[.silence], none⟩ false := by
  intro c buffer rest same next
  obtain ⟨incoming, rest', run⟩ := modbusReceiveMsg_silence react .confirmation rest c
    (by rw [same]; exact connected) next
  refine ⟨.ok 0, overlay buffer [], incoming, rest', ?_, rfl⟩
  have backend : c.ctx.backend = .rtu := by rw [same]; exact rtu
  have waiting : c.ctx.confirmationToIgnore = true := by rw [same]
  simp only [modbusReceive, backend, modbusRtuReceive, waiting, run, if_true]
  rfl

theorem takes_addressed (slave : Byte) (pdu : List Byte) (connected : ctx.isConnected)
    (rtu : ctx.backend = .rtu)
    (addressed : (slave.toNat : Int) = ctx.slave ∨ slave.toNat = broadcastAddress)
    (whole : Whole .indication pdu) :
    Takes react ctx false (.accepted (modbusRtuSendMsgPre (slave :: pdu))) false :=
  takes_accepted react ctx _ connected (by rw [rtu]; exact whole_rtu_delimits slave whole)
    (fun _ => rtuAccepts_send ctx slave pdu addressed) (List.cons_ne_nil _ _)

end

inductive Transaction
  | answered (slave : Byte) (r : Request) (response : Response)
  | silent (slave : Byte) (r : Request)
  | own (r : Request)
  | broadcast (r : Request)

structure Request.Valid (r : Request) : Prop where
  known : r.function ∈ knownFunctions
  encodable : r.Encodable
  fits : r.encode.length ≤ maxPduLength

def Foreign (slave : Byte) (own : Int) : Prop :=
  (slave.toNat : Int) ≠ own ∧ slave.toNat ≠ broadcastAddress

namespace Transaction

def Valid (own : Int) : Transaction → Prop
  | .answered slave r response => Foreign slave own ∧ r.Valid ∧ r.Answer response
  | .silent slave r => Foreign slave own ∧ r.Valid
  | .own r => r.Valid
  | .broadcast r => r.Valid

def messages (own : Int) : Transaction → List Message
  | .answered slave r response =>
      [.ignored (modbusRtuSendMsgPre (slave :: r.encode)),
        .ignored (modbusRtuSendMsgPre (slave :: response.encode))]
  | .silent slave r => [.ignored (modbusRtuSendMsgPre (slave :: r.encode)), ⟨[.silence], none⟩]
  | .own r => [.accepted (modbusRtuSendMsgPre (loByte own :: r.encode))]
  | .broadcast r => [.accepted (modbusRtuSendMsgPre (loByte broadcastAddress :: r.encode))]

theorem takes {π : Type} (react : React π) (ctx : Ctx) (connected : ctx.isConnected)
    (rtu : ctx.backend = .rtu) (slave : SlaveInRange ctx.slave) (t : Transaction)
    (valid : t.Valid ctx.slave) : TakesAll react ctx false (t.messages ctx.slave) false := by
  cases t with
  | answered other r response =>
      obtain ⟨⟨foreign, unicast⟩, request, answer⟩ := valid
      exact .cons (takes_foreign react ctx false other r.encode connected rtu foreign unicast
          (r.whole request.encodable request.fits))
        (.cons (takes_foreign react ctx true other response.encode connected rtu foreign unicast
          (answer.whole (known_small request.known))) (.nil false))
  | silent other r =>
      obtain ⟨⟨foreign, unicast⟩, request⟩ := valid
      exact .cons (takes_foreign react ctx false other r.encode connected rtu foreign unicast
          (r.whole request.encodable request.fits))
        (.cons (takes_noResponse react ctx connected rtu) (.nil false))
  | own r =>
      exact .cons (takes_addressed react ctx (loByte ctx.slave) r.encode connected rtu
        (.inl slave.loByte) (r.whole valid.encodable valid.fits)) (.nil false)
  | broadcast r =>
      exact .cons (takes_addressed react ctx (loByte broadcastAddress) r.encode connected rtu
        (.inr rfl) (r.whole valid.encodable valid.fits)) (.nil false)

end Transaction

/-- Whatever happens on the bus, each call begins at the first byte of a message, and the calls
return exactly the requests to this slave and the broadcasts. -/
theorem receptions_bus {π : Type} (react : React π) (transactions : List Transaction)
    (rest : List (Signal Byte)) (c : Conn (Line π)) (buffer : Buffer)
    (connected : c.ctx.isConnected) (rtu : c.ctx.backend = .rtu)
    (slave : 1 ≤ c.ctx.slave ∧ c.ctx.slave ≤ 247)
    (listening : c.ctx.confirmationToIgnore = false)
    (valid : ∀ t ∈ transactions, t.Valid c.ctx.slave)
    (stream : c.line.incoming.signals =
      (transactions.flatMap (Transaction.messages c.ctx.slave)).flatMap Message.signals ++ rest) :
    let messages := transactions.flatMap (Transaction.messages c.ctx.slave)
    Follow rest messages (receptions react messages.length c buffer).1 ∧
      (receptions react messages.length c buffer).2.line.incoming.signals = rest := by
  have inRange : SlaveInRange c.ctx.slave := ⟨by omega, by omega⟩
  have taken : ∀ ts : List Transaction, (∀ t ∈ ts, t.Valid c.ctx.slave) →
      TakesAll react c.ctx false (ts.flatMap (Transaction.messages c.ctx.slave)) false := by
    intro ts
    induction ts with
    | nil => exact fun _ => .nil false
    | cons t ts ih =>
        intro all
        rw [List.flatMap_cons]
        exact (t.takes react c.ctx connected rtu inRange (all t List.mem_cons_self)).append react
          (ih fun t' member => all t' (List.mem_cons_of_mem _ member))
  exact receptions_follow react (taken transactions valid) c buffer rest (by rw [← listening]) stream

def everyTransaction : List Transaction :=
  [.answered 2 (.readRegisters false 0 1) (.values 0x03 [0, 7]), .silent 3 (.writeSingleRegister 0 5),
    .own (.maskWriteRegister 0 1 2), .broadcast (.writeSingleCoil 0 0xFF00)]

def everyMessage : List Message := everyTransaction.flatMap (Transaction.messages 17)

def everyListener : Conn (Line Log) :=
  (Conn.established (newRtu 17) []).hear ((everyMessage.flatMap Message.signals).map Signal.arrival)

theorem receptions_bus_everyTransaction :
    Follow [] everyMessage (receptions logReact everyMessage.length everyListener fun _ => 0).1 ∧
      (receptions logReact everyMessage.length everyListener fun _ => 0).2.line.incoming.signals =
        [] := by
  have valid : ∀ t ∈ everyTransaction, t.Valid 17 := by
    simp only [everyTransaction, List.forall_mem_cons, List.not_mem_nil, false_imp_iff, implies_true,
      and_true]
    refine ⟨⟨⟨by decide, by decide⟩, ?_, rfl, by decide, trivial⟩, ⟨⟨by decide, by decide⟩, ?_⟩, ?_,
      ?_⟩
    all_goals exact ⟨by decide, trivial, by decide⟩
  have stream : everyListener.line.incoming.signals = everyMessage.flatMap Message.signals ++ [] := by
    rw [List.append_nil]
    exact arrivals_signals _
  exact receptions_bus logReact everyTransaction [] everyListener (fun _ => 0) rfl rfl
    ⟨by decide, by decide⟩ rfl valid stream

end ModbusNet
