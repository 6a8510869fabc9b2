import ModbusNet.Model.Controller
import ModbusNet.Proof.EndToEnd
import ModbusNet.Proof.Ledger

namespace ModbusNet

/-! ## One write -/

structure Attached (c : Conn (Line ControllerLink)) : Prop where
  connected : c.ctx.isConnected
  backend : c.ctx.backend = .tcp
  noRecovery : c.ctx.linkRecovery = false
  silent : c.line.incoming.signals = []
  ready : c.line.peer.controller.conn.Ready .tcp c.ctx.slave
  serving : c.line.peer.controller.serving = true
  valid : c.line.peer.controller.mapping.WellFormed
  binary : c.line.peer.controller.mapping.Binary
  start : c.line.peer.controller.mapping.startRegisters = 0
  size : c.line.peer.controller.mapping.tabRegisters.length = controllerNumRegisters

abbrev ControllerLink.registers (l : ControllerLink) : List Word :=
  l.controller.mapping.tabRegisters

theorem modbusWriteRegister_run {σ : Type} (dev : Device σ) (c : Conn σ) (addr : Int) (value : Word)
    {rc : Except Failure Int} {dest : Dest} {c' : Conn σ}
    (run : (ClientOp.writeRegister addr value).run dev c = (rc, dest, c')) :
    modbusWriteRegister dev c addr value = (rc, c') := by
  rw [ClientOp.run] at run
  simp only [Prod.mk.injEq] at run
  exact Prod.ext run.1 run.2.2

theorem writeRegister_effect (version : VersionString) {mb : ModbusMapping}
    (start : mb.startRegisters = 0) (size : mb.tabRegisters.length = controllerNumRegisters) (valid : mb.WellFormed) {a : Nat}
    (inside : a < controllerNumRegisters) (value : Word) :
    (ClientOp.writeRegister a value).effect version mb =
      ⟨.ok 1, .none, { mb with tabRegisters := mb.tabRegisters.set a value }⟩ := by
  have covers : mb.holdingRegisters.Covers (a : Int).toNat (1 : Int).toNat := by
    refine ⟨?_, ?_⟩
    · rw [show mb.holdingRegisters.start = 0 from start]
      omega
    · rw [show mb.holdingRegisters.start = 0 from start,
        show mb.holdingRegisters.size = mb.tabRegisters.length from valid.nbRegisters, size]
      omega
  have index : mb.holdingRegisters.index (a : Int).toNat = a := by
    rw [Table.index, show mb.holdingRegisters.start = 0 from start]
    omega
  have stored : mb.holdingRegisters.replaced (a : Int).toNat [value] = mb.tabRegisters.set a value := by
    rw [Table.replaced, index]
    exact store_single mb.tabRegisters a value (by rw [size]; exact inside)
  simp only [ClientOp.effect]
  rw [if_pos covers, stored]

theorem Controller.serve_answers (k : Controller) (tId : Word) (slave : Int) (r : Request)
    (ready : k.conn.Ready .tcp slave) (serving : k.serving = true) (encodable : r.Encodable)
    (fits : r.encode.length ≤ maxPduLength) (arrivals : List (Arrival Byte))
    (carried : arrivals.flatMap Arrival.signals = (adu .tcp tId (loByte slave) r.encode).map .item)
    (response : Response) (mapping : ModbusMapping)
    (served : r.serve k.conn.ctx.version k.mapping = .ok ⟨response, false, mapping⟩) :
    ∃ conn query, ({ k with conn := k.conn.hear arrivals } : Controller).serve =
        { conn, query, mapping, printed := printRegisters mapping, serving := true } ∧
      conn.line.peer = [adu .tcp tId (loByte slave) response.encode] ∧ conn.Ready .tcp slave := by
  obtain ⟨n, n', query, conn, conn', positive, received, replied, sent, ready', -⟩ :=
    k.conn.answers k.query k.mapping .tcp tId slave r ready (fun absurd => by cases absurd) encodable
      fits arrivals carried response mapping served
  refine ⟨conn', query, ?_, sent, ready'⟩
  rw [serve, if_pos serving]
  simp only [received, replied, serving]

section
variable (fate : Nat → Fate) {toController toMeter : Carrier} (outward : Lossless toController)
  (homeward : Lossless toMeter)
include outward homeward

theorem write_delivered (c : Conn (Line ControllerLink)) (attached : Attached c)
    (delivered : fate c.line.peer.attempts = .delivered) {a : Nat}
    (inside : a < controllerNumRegisters) (value : Word) :
    ∃ c', modbusWriteRegister (lineDevice (controllerReact fate toController toMeter)) c a value =
        (.ok 1, c') ∧ Attached c' ∧ c'.line.peer.attempts = c.line.peer.attempts + 1 ∧
      c'.line.peer.registers = c.line.peer.registers.set a value ∧
      c'.line.peer.controller.printed = printRegisters c'.line.peer.controller.mapping := by
  obtain ⟨connected, backend, noRecovery, silent, ready, serving, valid, binary, start, size⟩ := attached
  set l := c.line.peer
  set op := ClientOp.writeRegister a value with op_def
  have inRange : op.InRange := by
    simp only [controllerNumRegisters] at inside
    exact ⟨by omega, by omega⟩
  have effect := writeRegister_effect l.controller.conn.ctx.version start size valid inside value
  set mapping : ModbusMapping :=
    { l.controller.mapping with tabRegisters := l.controller.mapping.tabRegisters.set a value }
  obtain ⟨response, served, expected, concludes⟩ :=
    op.served l.controller.conn.ctx.version inRange valid fun _ => binary
  have valid' := op.effect_wellFormed l.controller.conn.ctx.version inRange valid
    fun _ => binary
  have binary' := op.effect_binary l.controller.conn.ctx.version binary
  rw [effect] at served concludes valid' binary'
  have numbered := nextRequest_tcp backend
  set ctx : Ctx := { c.ctx with tId := c.ctx.tId + 1 } with ctx_def
  have tcp : ctx.backend = .tcp := backend
  have framed := op.frame_adu c.ctx
  rw [ClientOp.frame, backend, numbered] at framed
  set request := adu .tcp ctx.tId (loByte ctx.slave) op.request.encode
  obtain ⟨conn, query, answered, sent, ready'⟩ := l.controller.serve_answers ctx.tId
    c.ctx.slave op.request ready serving (op.request_encodable inRange) (op.request_fits inRange)
    (toController l.attempts request) (outward _ _) response mapping served
  set l' : ControllerLink := ⟨⟨conn, query, mapping, printRegisters mapping, true⟩, l.attempts + 1⟩
  have reacts : controllerReact fate toController toMeter request l =
      (.ok request.length, conn.line.peer.flatMap (toMeter l.attempts), l') := by
    simp only [controllerReact, delivered, answered]
    rfl
  obtain ⟨rsp, incoming, contains, silent', exchanged⟩ := exchange_confirms _
    ⟨ctx, c.line⟩ ctx.tId op.request response connected silent
    (fun rtu => absurd (tcp.symm.trans rtu) (by decide)) op.request_known expected
    (op.request.serve_answer _ _ _ served) (requestHeader ctx ++ op.request.encode)
    (by rw [tcp]; exact framed) (by rw [tcp]; exact reacts)
    (by rw [tcp, sent, List.flatMap_singleton]; exact homeward l.attempts _)
  refine ⟨⟨ctx, ⟨incoming, l'⟩⟩, ?_, ⟨connected, backend, noRecovery, silent', ready', rfl, valid',
    binary', start, (List.length_set ..).trans size⟩, rfl, rfl, rfl⟩
  have concluded := concludes ctx.backend rsp contains
  have run := op.run_eq (lineDevice (controllerReact fate toController toMeter)) c inRange
  rw [numbered, exchanged] at run
  cases judged : response.judged op.request with
  | error failed =>
      rw [judged] at concluded
      exact absurd concluded.1 (by simp)
  | ok n =>
      rw [judged] at concluded run
      have returned : op.returned n = 1 := (Except.ok.inj concluded.1).symm
      simp only [ClientOp.finish, returned] at run
      exact modbusWriteRegister_run _ c a value run

end

theorem write_undelivered (fate : Nat → Fate) (toController toMeter : Carrier)
    (c : Conn (Line ControllerLink)) (attached : Attached c)
    (undelivered : fate c.line.peer.attempts ≠ .delivered) {a : Nat}
    (inside : a < controllerNumRegisters) (value : Word) :
    ∃ e c', modbusWriteRegister (lineDevice (controllerReact fate toController toMeter)) c a value =
        (.error (.errno e), c') ∧ Attached c' ∧ c'.line.peer.attempts = c.line.peer.attempts + 1 ∧
      c'.line.peer.controller = c.line.peer.controller := by
  obtain ⟨connected, backend, noRecovery, silent, ready, serving, valid, binary, start, size⟩ := attached
  set op := ClientOp.writeRegister a value with op_def
  have inRange : op.InRange := by
    simp only [controllerNumRegisters] at inside
    exact ⟨by omega, by omega⟩
  have numbered := nextRequest_tcp backend
  set ctx : Ctx := { c.ctx with tId := c.ctx.tId + 1 } with ctx_def
  have tcp : ctx.backend = .tcp := backend
  have run := op.run_eq (lineDevice (controllerReact fate toController toMeter)) c inRange
  rw [numbered] at run
  set req := requestHeader ctx ++ op.request.encode
  set l' : ControllerLink := ⟨c.line.peer.controller, c.line.peer.attempts + 1⟩
  have attached' : ∀ incoming : Incoming Byte, incoming.signals = [] →
      Attached ⟨ctx, ⟨incoming, l'⟩⟩ := fun incoming silent' =>
    ⟨connected, backend, noRecovery, silent', ready, serving, valid, binary, start, size⟩
  have framed := op.frame_adu c.ctx
  rw [ClientOp.frame, backend, numbered] at framed
  have nonempty : sendMsgPre ctx.backend req ≠ [] := by
    rw [tcp, framed]
    exact (adu_carries _ _ _ _).nonempty
  cases kind : fate c.line.peer.attempts with
  | delivered => exact absurd kind undelivered
  | unsent e =>
      have reacts : controllerReact fate toController toMeter (sendMsgPre ctx.backend req) c.line.peer =
          (.error e, [], l') := by rw [controllerReact, kind]
      rw [exchange_unsent _ ⟨ctx, c.line⟩ req noRecovery reacts] at run
      refine ⟨e, _, modbusWriteRegister_run _ c a value run, attached' _ ?_, rfl, rfl⟩
      simpa using silent
  | lost =>
      have reacts : controllerReact fate toController toMeter (sendMsgPre ctx.backend req) c.line.peer =
          (.ok (sendMsgPre ctx.backend req).length, [.silence], l') := by rw [controllerReact, kind]
      obtain ⟨incoming, silent', exchanged⟩ :=
        exchange_silence _ ⟨ctx, c.line⟩ req connected silent nonempty reacts rfl
      rw [exchanged] at run
      exact ⟨.etimedout, _, modbusWriteRegister_run _ c a value run, attached' incoming silent', rfl,
        rfl⟩

/-! ## What has been written -/

def lastValue (a : Nat) (notices : List Notice) : Binary32 :=
  ((notices.filter fun n => n.address = (a : Int)).getLast?.map Notice.value).getD 0

def deliveredNotices (notices : List Notice) : List Notice := notices.filter Notice.notified

theorem lastValue_concat (a : Nat) (notices : List Notice) (n : Notice) :
    lastValue a (notices ++ [n]) = if n.address = a then n.value else lastValue a notices := by
  unfold lastValue
  rw [List.filter_append]
  by_cases same : n.address = a
  · simp [same]
  · simp [same]

/-- The last of the writes to each register carried the value in the list. -/
structure Held (values : List Binary32) (notices : List Notice) : Prop where
  length : values.length = meterNumRegisters
  last : ∀ a < meterNumRegisters, values[a]? = some (lastValue a notices)

theorem Held.write {values : List Binary32} {notices : List Notice} (held : Held values notices)
    {a : Nat} (inside : a < meterNumRegisters) (value : Binary32) (notified : Bool) :
    Held (values.set a value) (notices ++ [⟨a, value, notified⟩]) where
  length := by rw [List.length_set, held.length]
  last := by
    intro b inside'
    rw [lastValue_concat]
    by_cases same : a = b
    · subst same
      rw [List.getElem?_set_self (by rw [held.length]; exact inside)]
      simp
    · rw [List.getElem?_set_ne same, held.last b inside']
      simp [same]

def Fate.isDelivered : Fate → Bool
  | .delivered => true
  | .unsent _ | .lost => false

/-- What is printed about writes of which the first is attempt number `first`. -/
def noticesOf (fate : Nat → Fate) (first : Nat) (issues : List Issue) : List Notice :=
  issues.mapIdx fun i issue => ⟨issue.address, issue.value, (fate (first + i)).isDelivered⟩

theorem noticesOf_concat (fate : Nat → Fate) (first : Nat) (issues : List Issue) (i : Issue) :
    noticesOf fate first (issues ++ [i]) = noticesOf fate first issues ++
      [⟨i.address, i.value, (fate (first + issues.length)).isDelivered⟩] := List.mapIdx_concat

structure Stored (l : ControllerLink) (notices : List Notice) : Prop where
  registers : ∀ a < controllerNumRegisters,
    (lastValue a (deliveredNotices notices)).toUint16 = l.registers[a]?
  printed : deliveredNotices notices ≠ [] →
    l.controller.printed = printRegisters l.controller.mapping
  unprinted : deliveredNotices notices = [] → l.controller.printed = []

section
variable (fate : Nat → Fate) {toController toMeter : Carrier} (outward : Lossless toController)
  (homeward : Lossless toMeter)
include outward homeward

theorem write_stored (c : Conn (Line ControllerLink)) (attached : Attached c) {notices : List Notice}
    (stored : Stored c.line.peer notices) {a : Nat} (inside : a < controllerNumRegisters)
    {value : Binary32} {word : Word} (converted : value.toUint16 = some word) :
    let notified := (fate c.line.peer.attempts).isDelivered
    ∃ rc c', modbusWriteRegister (lineDevice (controllerReact fate toController toMeter)) c a word =
        (rc, c') ∧ (if notified then ∃ n, rc = .ok n else ∃ e, rc = .error (.errno e)) ∧
      Attached c' ∧ c'.line.peer.attempts = c.line.peer.attempts + 1 ∧
      Stored c'.line.peer (notices ++ [⟨a, value, notified⟩]) := by
  by_cases kind : fate c.line.peer.attempts = .delivered
  · obtain ⟨c', written, attached', attempts, registers, printed⟩ :=
      write_delivered fate outward homeward c attached kind inside word
    have log : deliveredNotices (notices ++ [⟨a, value, true⟩]) =
        deliveredNotices notices ++ [⟨a, value, true⟩] := by
      simp [deliveredNotices]
    rw [kind]
    refine ⟨.ok 1, c', written, ⟨1, rfl⟩, attached', attempts, ?_, fun _ => printed, ?_⟩
    · intro b inside'
      rw [Fate.isDelivered, log, lastValue_concat, registers]
      by_cases same : a = b
      · subst same
        rw [List.getElem?_set_self (by rw [attached.size]; exact inside)]
        simpa using converted
      · rw [List.getElem?_set_ne same, ← stored.registers b inside']
        simp [same]
    · rw [Fate.isDelivered, log]
      simp
  · obtain ⟨e, c', written, attached', attempts, controller⟩ := write_undelivered fate toController
      toMeter c attached kind inside word
    have log : deliveredNotices (notices ++ [⟨a, value, false⟩]) = deliveredNotices notices := by
      simp [deliveredNotices]
    have undelivered : (fate c.line.peer.attempts).isDelivered = false := by
      cases fated : fate c.line.peer.attempts with
      | delivered => exact absurd fated kind
      | unsent e => rfl
      | lost => rfl
    rw [undelivered]
    refine ⟨.error (.errno e), c', written, ⟨e, rfl⟩, attached', attempts, ?_, ?_, ?_⟩
    · rw [log, ControllerLink.registers, controller]
      exact stored.registers
    · rw [log, controller]
      exact stored.printed
    · rw [log, controller]
      exact stored.unprinted

end

/-! ## Runs -/

/-- A controller that has had these writes, and nothing else since its first attempt. -/
def writesSent (fate : Nat → Fate) (first : Nat) : MeterLink (Conn (Line ControllerLink)) :=
  fun ctx notices issues => notices = noticesOf fate first issues ∧ ∃ c, ctx = some c ∧ Attached c ∧
    c.line.peer.attempts = first + issues.length ∧ Stored c.line.peer notices

theorem writesSent_keeps (fate : Nat → Fate) (first : Nat) {toController toMeter : Carrier}
    (outward : Lossless toController) (homeward : Lossless toMeter) :
    Keeps (modbusWriteRegister (lineDevice (controllerReact fate toController toMeter)))
      (writesSent fate first) := by
  intro c notices issues a value word sent inside converted
  obtain ⟨rfl, c', same, attached, attempts, stored⟩ := sent
  obtain rfl : c = c' := Option.some.inj same
  obtain ⟨rc, c', written, outcome, attached', attempts', stored'⟩ :=
    write_stored fate outward homeward c attached stored inside converted
  rw [attempts] at attempts' outcome stored'
  refine ⟨rc, c', _, written, outcome, ?_, c', rfl, attached', ?_, stored'⟩
  · rw [noticesOf_concat]
  · rw [attempts', List.length_append, List.length_singleton, add_assoc]

def IssueHeld (fate : Nat → Fate) (first : Nat) (l : Ledger) (issues : List Issue) : Prop :=
  Held l.values (noticesOf fate first issues)

structure TotalsHeld (fate : Nat → Fate) (first : Nat) (l : Ledger) (issues : List Issue) : Prop where
  held : IssueHeld fate first l issues
  current : l.totalCurrent = lastValue 10 (noticesOf fate first issues)
  voltage : l.totalVoltage = lastValue 26 (noticesOf fate first issues)

section
variable (fate : Nat → Fate) (first : Nat)

theorem recordTotals_steps :
    Steps (IssueHeld fate first) (TotalsHeld fate first) (Ledger.recordTotals true) := by
  intro l issues held
  have both : issues ++ (l.recordTotals true).issues =
      issues ++ [⟨10, l.totalCurrent⟩] ++ [⟨26, l.totalVoltage⟩] := by
    rw [List.append_assoc]
    rfl
  rw [both]
  refine ⟨?_, ?_, ?_⟩
  · rw [IssueHeld, noticesOf_concat, noticesOf_concat]
    exact (held.write (by decide) _ _).write (by decide) _ _
  · rw [noticesOf_concat, noticesOf_concat, lastValue_concat, lastValue_concat]
    rfl
  · rw [noticesOf_concat, lastValue_concat]
    rfl

theorem enter_steps {e : Entry} (inside : InArray e.address) (change : Binary32 → Binary32) :
    Steps (IssueHeld fate first) (IssueHeld fate first) fun l =>
      ⟨l.enter e change, Ledger.issue true e.address.toNat e.value⟩ := by
  intro l issues held
  rw [IssueHeld, show Ledger.issue true e.address.toNat e.value = [⟨e.address.toNat, e.value⟩] from rfl,
    noticesOf_concat]
  obtain ⟨low, high⟩ := inside
  exact held.write ((Int.toNat_lt low).mpr high) _ _

theorem check_steps (imExPort : Nat) {e : Entry} (inside : InArray e.address) :
    Steps (TotalsHeld fate first) (TotalsHeld fate first) (Ledger.check true imExPort e) := by
  intro l issues before
  rw [Ledger.check]
  simp only
  split
  · exact (enter_steps fate first inside _).andThen (recordTotals_steps fate first) l issues before.held
  · exact Steps.nothing _ l issues before

theorem run_held {start : RegisterFiles} {rounds : List RegisterFiles}
    (inside : ∀ files ∈ start :: rounds, files.Inside) :
    TotalsHeld fate first (Ledger.run true start rounds).ledger
      (Ledger.run true start rounds).issues := by
  refine Ledger.run_steps (R := IssueHeld fate first) ⟨rfl, fun a inside => ?_⟩
    (fun port e inside => enter_steps fate first inside _) (recordTotals_steps fate first)
    (fun port e => check_steps fate first port) inside
  rw [Ledger.zero, List.getElem?_replicate, if_pos inside]
  rfl

end

structure NewController (c : Conn (Line ControllerLink)) : Prop extends Attached c where
  mapping : c.line.peer.controller.mapping = Controller.initialMapping
  unprinted : c.line.peer.controller.printed = []

theorem NewController.writesSent {c : Conn (Line ControllerLink)} (new : NewController c)
    (fate : Nat → Fate) : writesSent fate c.line.peer.attempts (some c) [] [] := by
  refine ⟨rfl, c, rfl, new.toAttached, rfl, ?_, fun delivered => absurd rfl delivered,
    fun _ => new.unprinted⟩
  intro a inside
  have zero : (lastValue a (deliveredNotices [])).toUint16 = some 0 := by
    exact_mod_cast Binary32.toUint16_intCast 0
  have cells : Controller.initialMapping.tabRegisters = List.replicate controllerNumRegisters 0 := rfl
  rw [zero, ControllerLink.registers, new.mapping, cells, List.getElem?_replicate, if_pos inside]

/-- The meter holds what its last writes carried, and the controller the last of them that were
delivered. -/
structure Synchronized (m : Meter (Conn (Line ControllerLink))) : Prop where
  linked : ∃ c, m.ctx = some c ∧ Stored c.line.peer m.notices
  held : Held m.prevValues m.notices
  current : m.totalCurrent = lastValue 10 m.notices
  voltage : m.totalVoltage = lastValue 26 m.notices

theorem run_synchronized (fate : Nat → Fate) {toController toMeter : Carrier}
    (outward : Lossless toController) (homeward : Lossless toMeter) {c : Conn (Line ControllerLink)}
    (new : NewController c) {start : RegisterFiles} {rounds : List RegisterFiles}
    (inside : ∀ files ∈ start :: rounds, files.Inside)
    (convertible : (Ledger.run true start rounds).Convertible) :
    ∃ m, Meter.run (modbusWriteRegister (lineDevice (controllerReact fate toController toMeter)))
        (some c) start rounds = .ok m ∧
      m.ledger = (Ledger.run true start rounds).ledger ∧
      m.notices = noticesOf fate c.line.peer.attempts (Ledger.run true start rounds).issues ∧
      Synchronized m := by
  obtain ⟨m, run, ledger, -, -, notices, c', ctx, -, -, stored⟩ :=
    Meter.run_posts (writesSent_keeps fate c.line.peer.attempts outward homeward) (some c)
      (new.writesSent fate) start rounds inside convertible
  have held := run_held fate c.line.peer.attempts inside
  rw [List.nil_append] at notices
  replace notices : m.notices = noticesOf fate c.line.peer.attempts
    (Ledger.run true start rounds).issues := notices
  replace ledger : m.ledger = (Ledger.run true start rounds).ledger := ledger
  obtain ⟨held, current, voltage⟩ := held
  rw [IssueHeld, ← notices, ← ledger] at held
  rw [← notices, ← ledger] at current voltage
  exact ⟨m, run, ledger, notices, ⟨c', ctx, stored⟩, held, current, voltage⟩

/-! ## What is printed -/

def RegisterFiles.Present (files : RegisterFiles) (a : Nat) : Prop :=
  ∃ feed, ∃ e ∈ entries (files.get feed), e.address = a

theorem RegisterFiles.Inside.present {files : RegisterFiles} (inside : files.Inside) {a : Nat}
    (present : files.Present a) : a < meterNumRegisters := by
  obtain ⟨feed, e, member, address⟩ := present
  have high := (inside feed e member).2
  rw [address] at high
  exact Int.ofNat_lt.mp high

def PrintsValues (files : RegisterFiles) (m : Meter (Conn (Line ControllerLink))) : Prop :=
  ∃ c, m.ctx = some c ∧
    (∀ a, files.Present a → ∃ x : Int, m.prevValues[a]? = some (.finite x) ∧
      c.line.peer.controller.printed[a]? = some x) ∧
    (∃ x : Int, m.totalCurrent = .finite x ∧ c.line.peer.controller.printed[10]? = some x) ∧
    ∃ x : Int, m.totalVoltage = .finite x ∧ c.line.peer.controller.printed[26]? = some x

def Binary32.IsInt16 (value : Binary32) : Prop :=
  ∃ x : Int, value = .finite x ∧ -32768 ≤ x ∧ x ≤ 32767

theorem Binary32.IsInt16.convertible {value : Binary32} (range : value.IsInt16) :
    value.toUint16.isSome := by
  obtain ⟨x, rfl, -, -⟩ := range
  rw [Binary32.toUint16_intCast]
  rfl

theorem printedValue_ofInt {x : Int} (low : -32768 ≤ x) (high : x ≤ 32767) :
    printedValue (BitVec.ofInt 16 x) = if x = -32768 then 32768 else x := by
  simp only [printedValue, BitVec.toNat_ofInt]
  split_ifs <;> omega

theorem lastValue_isInt16 {notices : List Notice} (range : ∀ n ∈ notices, n.value.IsInt16) (a : Nat) :
    (lastValue a notices).IsInt16 := by
  unfold lastValue
  cases last : (notices.filter fun n => n.address = (a : Int)).getLast? with
  | none => exact ⟨0, by simp; rfl, by omega, by omega⟩
  | some n => exact range n (List.mem_of_mem_filter (List.mem_of_getLast? last))

theorem noticesOf_isInt16 {issues : List Issue} (range : ∀ i ∈ issues, i.value.IsInt16)
    (fate : Nat → Fate) (first : Nat) : ∀ n ∈ noticesOf fate first issues, n.value.IsInt16 := by
  intro n member
  obtain ⟨i, bound, rfl⟩ := List.mem_mapIdx.mp member
  exact range _ (List.getElem_mem bound)

theorem Stored.printedAt {l : ControllerLink} {notices : List Notice} (stored : Stored l notices)
    (delivered : deliveredNotices notices ≠ []) {a : Nat} (inside : a < controllerNumRegisters) {x : Int}
    (value : lastValue a (deliveredNotices notices) = .finite x) :
    l.controller.printed[a]? = some (printedValue (BitVec.ofInt 16 x)) := by
  have register : l.registers[a]? = some (BitVec.ofInt 16 x) := by
    rw [← stored.registers a inside, value, Binary32.toUint16_intCast]
  rw [stored.printed delivered, printRegisters, List.getElem?_map, List.getElem?_take_of_lt inside,
    register]
  rfl

theorem Stored.printedAt_iff {l : ControllerLink} {notices : List Notice} (stored : Stored l notices)
    (delivered : deliveredNotices notices ≠ []) (range : ∀ n ∈ notices, n.value.IsInt16) {a : Nat}
    (inside : a < controllerNumRegisters) :
    (∃ x : Int, lastValue a notices = .finite x ∧ l.controller.printed[a]? = some x) ↔
      lastValue a (deliveredNotices notices) = lastValue a notices ∧
        lastValue a notices ≠ .finite (-32768) := by
  obtain ⟨x, issued, low, high⟩ := lastValue_isInt16 range a
  have range' : ∀ n ∈ deliveredNotices notices, n.value.IsInt16 :=
    fun n found => range n (List.mem_of_mem_filter found)
  obtain ⟨y, arrived, low', high'⟩ := lastValue_isInt16 range' a
  have shown := stored.printedAt delivered inside arrived
  rw [printedValue_ofInt low' high'] at shown
  rw [issued, shown]
  have same : ∀ u v : Int, Binary32.finite u = Binary32.finite v ↔ u = v := fun u v => by
    rw [Binary32.finite.injEq, Int.cast_inj]
  have least : Binary32.finite (-32768) = Binary32.finite ((-32768 : Int) : ℚ) := by norm_num
  rw [arrived, least]
  simp only [same, ne_eq, Option.some.injEq]
  constructor
  · rintro ⟨z, rfl, printed⟩
    split_ifs at printed <;> omega
  · rintro ⟨rfl, above⟩
    exact ⟨y, rfl, if_neg above⟩

theorem Synchronized.printsValues_iff {m : Meter (Conn (Line ControllerLink))} (synced : Synchronized m)
    (range : ∀ n ∈ m.notices, n.value.IsInt16) {files : RegisterFiles} (inside : files.Inside) :
    PrintsValues files m ↔ deliveredNotices m.notices ≠ [] ∧
      ∀ a, (files.Present a ∨ a = 10 ∨ a = 26) →
        lastValue a (deliveredNotices m.notices) = lastValue a m.notices ∧
          lastValue a m.notices ≠ .finite (-32768) := by
  obtain ⟨⟨c, ctx, stored⟩, held, current, voltage⟩ := synced
  constructor
  · rintro ⟨c', ctx', values, totalCurrent, totalVoltage⟩
    obtain rfl : c = c' := by
      rw [ctx] at ctx'
      exact Option.some.inj ctx'
    have delivered : deliveredNotices m.notices ≠ [] := by
      intro none
      obtain ⟨x, -, printed⟩ := totalCurrent
      rw [stored.unprinted none] at printed
      simp at printed
    refine ⟨delivered, ?_⟩
    rintro a (present | rfl | rfl)
    · have bound := inside.present present
      obtain ⟨x, value, printed⟩ := values a present
      rw [held.last a bound] at value
      exact (stored.printedAt_iff delivered range bound).1 ⟨x, Option.some.inj value, printed⟩
    · exact (stored.printedAt_iff delivered range (by decide)).1 (current ▸ totalCurrent)
    · exact (stored.printedAt_iff delivered range (by decide)).1 (voltage ▸ totalVoltage)
  · rintro ⟨delivered, agree⟩
    have shown := fun a (bound : a < meterNumRegisters) asked =>
      (stored.printedAt_iff delivered range bound).2 (agree a asked)
    refine ⟨c, ctx, fun a present => ?_, ?_, ?_⟩
    · have bound := inside.present present
      obtain ⟨x, value, printed⟩ := shown a bound (.inl present)
      exact ⟨x, by rw [held.last a bound, value], printed⟩
    · rw [current]
      exact shown 10 (by decide) (.inr (.inl rfl))
    · rw [voltage]
      exact shown 26 (by decide) (.inr (.inr rfl))

/-- After any number of rounds the controller prints what the meter holds if and only if, of the
writes that these files call for, one is delivered, and the last one to each register in the files and
to 10 and 26 is delivered or carries what the last delivered one did, which is not the least integer
of 16 bits. -/
theorem run_printed_iff {fate : Nat → Fate} {toController toMeter : Carrier}
    (outward : Lossless toController) (homeward : Lossless toMeter) {c : Conn (Line ControllerLink)}
    (new : NewController c) (start : RegisterFiles) (rounds : List RegisterFiles)
    (inside : ∀ files ∈ start :: rounds, files.Inside)
    (range : ∀ i ∈ (Ledger.run true start rounds).issues, i.value.IsInt16) :
    let last := rounds.getLastD start
    let notices := noticesOf fate c.line.peer.attempts (Ledger.run true start rounds).issues
    ∃ m, Meter.run (modbusWriteRegister (lineDevice (controllerReact fate toController toMeter)))
        (some c) start rounds = .ok m ∧
      (PrintsValues last m ↔ deliveredNotices notices ≠ [] ∧
        ∀ a, (last.Present a ∨ a = 10 ∨ a = 26) →
          lastValue a (deliveredNotices notices) = lastValue a notices ∧
            lastValue a notices ≠ .finite (-32768)) := by
  obtain ⟨m, run, -, notices, synced⟩ := run_synchronized fate outward homeward new inside
    fun i member => (range i member).convertible
  have member : rounds.getLastD start ∈ start :: rounds := by
    rw [List.getLastD_eq_getLast?]
    cases last : rounds.getLast? with
    | none => exact List.mem_cons_self
    | some files => exact List.mem_cons_of_mem _ (List.mem_of_getLast? last)
  refine ⟨m, run, ?_⟩
  rw [← notices]
  exact synced.printsValues_iff (notices ▸ noticesOf_isInt16 range fate _) (inside _ member)

def newMeterLine : Conn (Line ControllerLink) :=
  .established newTcp
    { controller :=
        { conn := .established newTcp []
          query := fun _ => 0
          mapping := Controller.initialMapping
          printed := []
          serving := true }
      attempts := 0 }

theorem newMeterLine_new : NewController newMeterLine where
  connected := rfl
  backend := rfl
  noRecovery := rfl
  silent := rfl
  ready := ⟨rfl, rfl, rfl, rfl, fun absurd => by cases absurd⟩
  serving := rfl
  valid := modbusMappingNewStartAddress_wellFormed 0 0 0 0 0 30 0 0 (by simp [FitsInt])
  binary := by decide
  start := rfl
  size := rfl
  mapping := rfl
  unprinted := rfl

def inverterFile (value : String) : RegisterFile :=
  some ("Current Register\n0x3002    ".toList ++ value.toList ++ ['\n'])

def chargerFile (value : String) : RegisterFile :=
  some ("Current Register\n0x3003    ".toList ++ value.toList ++ ['\n'])

def firstFiles : RegisterFiles := ⟨inverterFile "10.0", chargerFile "4.0", none⟩
def laterFiles : RegisterFiles := ⟨inverterFile "25.0", chargerFile "4.0", none⟩
def lastChange : RegisterFiles := ⟨inverterFile "25.0", chargerFile "5.0", none⟩

def changingRun (fate : Nat → Fate) : Except Failure (Meter (Conn (Line ControllerLink))) :=
  Meter.run (modbusWriteRegister (lineDevice (controllerReact fate carryWhole carryWhole)))
    (some newMeterLine) firstFiles [laterFiles, lastChange]

theorem run_printed_iff_delivered :
    ∃ m, changingRun (fun _ => .delivered) = .ok m ∧ PrintsValues lastChange m := by
  have inside : ∀ files ∈ [firstFiles, laterFiles, lastChange], files.Inside := by
    have all : ∀ files ∈ [firstFiles, laterFiles, lastChange], ∀ file ∈ [files.pv, files.ev, files.hp],
        ∀ e ∈ entries file, 0 ≤ e.address ∧ e.address < meterNumRegisters := by decide +kernel
    intro files member feed
    cases feed <;> exact all files member _ (by simp [RegisterFiles.get])
  have issues : (Ledger.run true firstFiles [laterFiles, lastChange]).issues =
      [⟨2, .finite 10⟩, ⟨3, .finite 4⟩, ⟨10, .finite 6⟩, ⟨26, 0⟩, ⟨2, .finite 25⟩, ⟨10, .finite 21⟩,
        ⟨26, 0⟩, ⟨3, .finite 5⟩, ⟨10, .finite 20⟩, ⟨26, 0⟩] := by decide +kernel
  obtain ⟨m, run, printed⟩ : ∃ m, changingRun (fun _ => .delivered) = .ok m ∧ (_ ↔ _) :=
    run_printed_iff carryWhole_lossless carryWhole_lossless newMeterLine_new firstFiles
      [laterFiles, lastChange] inside (by
        rw [issues]
        simp only [List.forall_mem_cons, List.not_mem_nil, false_imp_iff, implies_true, and_true]
        exact ⟨⟨10, by simp⟩, ⟨4, by simp⟩, ⟨6, by simp⟩, ⟨0, by simp; rfl⟩, ⟨25, by simp⟩,
          ⟨21, by simp⟩, ⟨0, by simp; rfl⟩, ⟨5, by simp⟩, ⟨20, by simp⟩, ⟨0, by simp; rfl⟩⟩)
  have all : ∀ a < meterNumRegisters,
      let notices := noticesOf (fun _ => .delivered) 0
        (Ledger.run true firstFiles [laterFiles, lastChange]).issues
      lastValue a (deliveredNotices notices) = lastValue a notices ∧
        lastValue a notices ≠ .finite (-32768) := by decide +kernel
  refine ⟨m, run, printed.2 ⟨by rw [issues]; decide +kernel, fun a asked => all a ?_⟩⟩
  rcases asked with present | rfl | rfl
  · exact (inside lastChange (by simp)).present present
  · decide
  · decide

theorem update_lost :
    (changingRun fun attempt => if attempt = 4 then .unsent .epipe else .delivered).map (fun m =>
      (m.notices.map Notice.notified, m.prevValues[2]?,
        m.ctx.bind fun c => c.line.peer.controller.printed[2]?)) =
      .ok ([true, true, true, true, false, true, true, true, true, true], some (.finite 25),
        some 10) := by
  decide +kernel

end ModbusNet
