import ModbusNet.Model.SerialBus
import ModbusNet.Proof.Bus
import ModbusNet.Proof.EndToEnd

namespace ModbusNet

theorem modbusReply_suppressed (c : Conn (Line Log)) (tId : Word) (slave : Byte) (r : Request)
    (req : Buffer) (mb : ModbusMapping)
    (holds : AgreeBelow (adu c.ctx.backend tId slave r.encode).length
      (ofBytes (adu c.ctx.backend tId slave r.encode)) req)
    (whole : Whole .indication r.encode) (encodable : r.Encodable)
    (silenced : suppressed c.ctx req = true) (response : Response) (mapping : ModbusMapping)
    (served : r.serve c.ctx.version mb = .ok ⟨response, false, mapping⟩) :
    modbusReply logDevice c req (adu c.ctx.backend tId slave r.encode).length mb =
      (.ok 0, mapping, c) := by
  obtain ⟨header, checksum, header_length, checksum_length, frame⟩ :=
    adu_carries c.ctx.backend tId slave r.encode
  rw [frame] at holds ⊢
  obtain ⟨received, decoded⟩ :=
    received_frame c.ctx.backend header r.encode checksum req whole header_length checksum_length holds
  rw [modbusReply, replySwitch_received c.ctx req _ mb received, decoded,
    Request.decode_ofBytes r encodable, served]
  simp only [Except.map, sendAnswer, silenced, Bool.false_eq_true, if_false, if_true]

theorem Server.serve_received {s : Server} {n : Int} {query : Buffer} {conn : Conn (Line Log)}
    (received : modbusReceive logDevice s.conn s.query = (.ok n, query, conn)) (positive : 0 < n) :
    s.serve =
      { conn := (modbusReply logDevice conn query n s.mapping).2.2
        query
        mapping := (modbusReply logDevice conn query n s.mapping).2.1
        turn := s.turn + 1 } := by
  rw [Server.serve, received]
  exact if_pos positive

theorem Server.serve_ignored {s : Server} {query : Buffer} {conn : Conn (Line Log)}
    (received : modbusReceive logDevice s.conn s.query = (.ok 0, query, conn)) :
    s.serve = { s with conn, query, turn := s.turn + 1 } := by
  rw [Server.serve, received]
  rfl

/-! ## What a slave does -/

structure Server.Became (s s' : Server) (waiting : Bool) (mapping : ModbusMapping)
    (sent : List (List Byte)) : Prop where
  ctx : s'.conn.ctx = { s.conn.ctx with confirmationToIgnore := waiting }
  silent : s'.conn.line.incoming.signals = []
  mapping : s'.mapping = mapping
  sent : s'.conn.line.peer = sent

structure Server.Idle (s : Server) : Prop where
  ready : s.conn.Ready .rtu s.conn.ctx.slave
  address : 1 ≤ s.conn.ctx.slave ∧ s.conn.ctx.slave ≤ 247
  quiet : s.conn.ctx.replyToBroadcast = false

section
variable {s : Server} (idle : s.Idle)
include idle

theorem Server.Idle.listening :
    s.conn.ctx = { s.conn.ctx with confirmationToIgnore := false } := by
  rw [← idle.ready.listening]

theorem Server.Idle.heard {arrivals : List (Arrival Byte)} {frame : List Byte}
    (carried : arrivals.flatMap Arrival.signals = frame.map .item) :
    (s.hear arrivals).conn.line.incoming.signals = frame.map .item ++ [] := by
  rw [Server.hear, Conn.hear_signals, idle.ready.silent, carried, List.append_nil, List.nil_append]

theorem Server.Idle.became {s' : Server} {mapping : ModbusMapping} {sent : List (List Byte)}
    (became : s.Became s' false mapping sent) : s'.Idle := by
  have same : s'.conn.ctx = s.conn.ctx := became.ctx.trans idle.listening.symm
  exact
    { ready :=
        { connected := by rw [same]; exact idle.ready.connected
          backend := by rw [same]; exact idle.ready.backend
          listening := by rw [same]; exact idle.ready.listening
          silent := became.silent
          slave := fun _ => rfl }
      address := by rw [same]; exact idle.address
      quiet := by rw [same]; exact idle.quiet }

theorem Server.attend_accepted (w : Wiring) (lossless : ∀ a, Lossless (w.toSlave a)) (tId : Word)
    (address : Byte) (r : Request) (encodable : r.Encodable) (fits : r.encode.length ≤ maxPduLength)
    (addressed : (address.toNat : Int) = s.conn.ctx.slave ∨ address.toNat = broadcastAddress)
    (response : Response) (mapping : ModbusMapping)
    (served : r.serve s.conn.ctx.version s.mapping = .ok ⟨response, false, mapping⟩) :
    s.Became (s.attend w (adu .rtu tId address r.encode)) false mapping
      (if address.toNat = broadcastAddress then [] else [adu .rtu tId address response.encode]) := by
  set frame := adu .rtu tId address r.encode with frame_def
  set heard := s.hear (w.toSlave s.conn.ctx.slave s.turn frame) with heard_def
  have carries : Carries .rtu frame r.encode := adu_carries _ _ _ _
  have whole := r.whole encodable fits
  have rtu : heard.conn.ctx.backend = .rtu := idle.ready.backend
  obtain ⟨incoming, silent, received⟩ := modbusReceive_accepts logReact heard.conn s.query frame []
    idle.ready.connected idle.ready.listening (by rw [rtu]; exact carries.delimits whole)
    (fun _ => rtuAccepts_send _ address r.encode addressed) carries.nonempty
    (idle.heard (lossless _ _ _))
  have positive : (0 : Int) < frame.length := by
    have := List.length_pos_iff.mpr carries.nonempty
    omega
  have holds : AgreeBelow frame.length (ofBytes frame) (overlay s.query frame) :=
    fun i bound => (overlay_agree s.query frame i bound).symm
  have first : overlay s.query frame 0 = address :=
    (holds 0 (by exact_mod_cast positive)).symm
  have quiet : (heard.conn.withIncoming incoming).ctx.replyToBroadcast = false := idle.quiet
  have silenced : suppressed (heard.conn.withIncoming incoming).ctx (overlay s.query frame) =
      decide (address.toNat = broadcastAddress) := by
    rw [suppressed, show (heard.conn.withIncoming incoming).ctx.backend = .rtu from rtu, quiet]
    simp only [beq_self_eq_true, Bool.true_and, Bool.not_false, Bool.and_true, Backend.headerLength_rtu,
      Nat.sub_self, first]
    rfl
  have backend : (heard.conn.withIncoming incoming).ctx.backend = .rtu := rtu
  have same : heard.mapping = s.mapping := rfl
  rw [Server.attend, ← heard_def, Server.serve_received received positive, same]
  by_cases broadcast : address.toNat = broadcastAddress
  · rw [decide_eq_true broadcast] at silenced
    have replied := modbusReply_suppressed (heard.conn.withIncoming incoming) tId address r
      (overlay s.query frame) s.mapping (by rw [backend]; exact holds) whole encodable silenced response
      mapping served
    rw [backend, ← frame_def] at replied
    rw [if_pos broadcast, replied]
    exact ⟨idle.listening, silent, rfl, rfl⟩
  · rw [decide_eq_false broadcast] at silenced
    have empty := List.map_eq_nil_iff.mp (List.append_eq_nil_iff.mp silent).1
    have replied := modbusReply_adu (heard.conn.withIncoming incoming) tId address r
      (overlay s.query frame) s.mapping (by rw [backend]; exact holds) whole encodable silenced empty
      response mapping served
    rw [backend, ← frame_def] at replied
    rw [if_neg broadcast, replied]
    exact ⟨idle.listening, silent, rfl, rfl⟩

theorem Server.attend_foreign (w : Wiring) (lossless : ∀ a, Lossless (w.toSlave a)) (tId : Word)
    (address : Byte) (r : Request) (encodable : r.Encodable) (fits : r.encode.length ≤ maxPduLength)
    (foreign : Foreign address s.conn.ctx.slave) :
    s.Became (s.attend w (adu .rtu tId address r.encode)) true s.mapping [] := by
  set frame := adu .rtu tId address r.encode with frame_def
  set heard := s.hear (w.toSlave s.conn.ctx.slave s.turn frame) with heard_def
  have takes := takes_foreign logReact s.conn.ctx false address r.encode idle.ready.connected
    idle.ready.backend foreign.1 foreign.2 (r.whole encodable fits)
  obtain ⟨rc, query, incoming, silent, received, matches_⟩ := takes heard.conn s.query [] idle.listening
    (idle.heard (lossless _ _ _))
  obtain rfl : rc = .ok 0 := matches_
  have same : heard.query = s.query := rfl
  rw [Server.attend, ← heard_def, Server.serve_ignored received]
  exact ⟨rfl, silent, rfl, rfl⟩

end

section
variable {s s₁ : Server}

theorem Server.Became.settled {mapping : ModbusMapping} {sent : List (List Byte)}
    (became : s.Became s₁ false mapping sent) (w : Wiring) : s₁.settle w [] = s₁ := by
  rw [Server.settle, if_neg (not_not.mpr rfl), became.ctx]
  exact if_neg fun waits => Bool.false_ne_true waits.1

theorem Server.Became.takes {mapping : ModbusMapping} {sent : List (List Byte)} {m : Message}
    (became : s.Became s₁ true mapping sent) (ignored : m.returned = none)
    (takes : Takes logReact s.conn.ctx true m false) {arrivals : List (Arrival Byte)}
    (carried : arrivals.flatMap Arrival.signals = m.signals) :
    s.Became (s₁.hear arrivals).serve false mapping [] := by
  have signals : (s₁.hear arrivals).conn.line.incoming.signals = m.signals ++ [] := by
    rw [Server.hear, Conn.hear_signals, became.silent, carried, List.append_nil, List.nil_append]
  obtain ⟨rc, query, incoming, silent, received, matches_⟩ :=
    takes (s₁.hear arrivals).conn (s₁.hear arrivals).query [] became.ctx signals
  rw [Reception.Matches, ignored] at matches_
  obtain rfl : rc = .ok 0 := matches_
  rw [Server.serve_ignored received]
  refine ⟨?_, silent, became.mapping, rfl⟩
  simp only [Conn.withFlag, withIncoming_ctx, Server.hear, Conn.hear, became.ctx]

theorem Server.Became.overhears (idle : s.Idle) {mapping : ModbusMapping} {sent : List (List Byte)}
    (became : s.Became s₁ true mapping sent) (w : Wiring) (lossless : ∀ a, Lossless (w.toSlave a))
    (tId : Word) (address : Byte) (pdu : List Byte) (foreign : Foreign address s.conn.ctx.slave)
    (whole : Whole .confirmation pdu) :
    s.Became (s₁.settle w [adu .rtu tId address pdu]) false mapping [] := by
  rw [Server.settle, if_pos (List.cons_ne_nil _ _), List.flatMap_singleton]
  exact became.takes rfl (takes_foreign logReact s.conn.ctx true address pdu idle.ready.connected
    idle.ready.backend foreign.1 foreign.2 whole) (lossless _ _ _)

theorem Server.Became.outlasts (idle : s.Idle) {mapping : ModbusMapping} {sent : List (List Byte)}
    (became : s.Became s₁ true mapping sent) (w : Wiring) (ends : ∀ a turn, w.waitEnds a turn) :
    s.Became (s₁.settle w []) false mapping [] := by
  rw [Server.settle, if_neg (not_not.mpr rfl), if_pos ⟨by rw [became.ctx], ends _ _⟩]
  exact became.takes rfl (takes_noResponse logReact s.conn.ctx idle.ready.connected
    idle.ready.backend) rfl

end

/-! ## What is expected -/

structure SlaveTables where
  address : Int
  version : VersionString
  mapping : ModbusMapping

def Server.tables (s : Server) : SlaveTables := ⟨s.conn.ctx.slave, s.conn.ctx.version, s.mapping⟩

def SlaveTables.execute (op : ClientOp) (t : SlaveTables) : SlaveTables :=
  { t with mapping := (op.effect t.version t.mapping).mapping }

def BusCall.result (slaves : List SlaveTables) (call : BusCall) : Except Failure Int × Dest :=
  match slaves.find? fun t => t.address = call.slave with
  | none => (.error (.errno .etimedout), call.op.dest)
  | some t =>
      let effect := call.op.effect t.version t.mapping
      (effect.rc, effect.dest)

def BusCall.after (slaves : List SlaveTables) (call : BusCall) : List SlaveTables :=
  slaves.map fun t => if call.slave = 0 ∨ t.address = call.slave then t.execute call.op else t

def BusCall.expected (quirks : Nat) (slaves : List SlaveTables) (call : BusCall) :
    Except Errno (Except Failure Int × Dest) × List SlaveTables :=
  if 0 ≤ call.slave ∧ call.slave ≤ (if quirks &&& quirkMaxSlave != 0 then 255 else 247) then
    (.ok (call.result slaves), call.after slaves)
  else (.error .einval, slaves)

def expectedBusCalls (quirks : Nat) :
    List BusCall → List SlaveTables →
      List (Except Errno (Except Failure Int × Dest)) × List SlaveTables
  | [], slaves => ([], slaves)
  | call :: calls, slaves =>
      let (result, slaves) := call.expected quirks slaves
      let (more, slaves) := expectedBusCalls quirks calls slaves
      (result :: more, slaves)

/-! ## One request on the bus -/

section
variable {α β κ : Type} [DecidableEq κ] (key : α → κ) (f : α → List β) (k : κ) (l : List α)
variable (distinct : (l.map key).Nodup) (others : ∀ x ∈ l, key x ≠ k → f x = [])
include distinct others

theorem flatMap_unique : l.flatMap f = ((l.find? fun x => key x = k).map f).getD [] := by
  induction l with
  | nil => rfl
  | cons x l ih =>
      obtain ⟨fresh, distinct'⟩ := List.nodup_cons.mp distinct
      rw [List.flatMap_cons, List.find?_cons]
      by_cases found : key x = k
      · have rest : l.flatMap f = [] := by
          apply List.flatMap_eq_nil_iff.mpr
          intro y member
          apply others y (List.mem_cons_of_mem x member)
          rintro rfl
          exact fresh (found ▸ List.mem_map_of_mem member)
        rw [rest, List.append_nil, decide_eq_true found]
        rfl
      · rw [others x List.mem_cons_self found, List.nil_append, decide_eq_false found]
        exact ih distinct' fun y member => others y (List.mem_cons_of_mem x member)

theorem flatMap_eraseIdx (i : Nat) (inside : i < l.length) :
    (l.eraseIdx i).flatMap f = if key l[i] = k then [] else l.flatMap f := by
  by_cases same : key l[i] = k
  · rw [if_pos same]
    apply List.flatMap_eq_nil_iff.mpr
    intro y member
    obtain ⟨j, bound, apart, rfl⟩ := List.mem_eraseIdx_iff_getElem.mp member
    apply others _ (List.getElem_mem bound)
    intro same'
    have bound' : j < (l.map key).length := by simpa using bound
    have inside' : i < (l.map key).length := by simpa using inside
    have equal : (l.map key)[j] = (l.map key)[i] := by
      rw [List.getElem_map, List.getElem_map, same', same]
    exact apart (distinct.getElem_inj_iff.mp equal)
  · have split : l = l.take i ++ l[i] :: l.drop (i + 1) := by
      rw [← List.drop_eq_getElem_cons inside, List.take_append_drop]
    rw [if_neg same, List.eraseIdx_eq_take_drop_succ]
    conv_rhs => rw [split]
    rw [List.flatMap_append, List.flatMap_append, List.flatMap_cons,
      others _ (List.getElem_mem inside) same, List.nil_append]

end

structure Server.Sound (s : Server) : Prop where
  idle : s.Idle
  wellFormed : s.mapping.WellFormed
  binary : s.mapping.Binary

theorem Server.Became.tables {s s' : Server} {waiting : Bool} {mapping : ModbusMapping}
    {sent : List (List Byte)} (became : s.Became s' waiting mapping sent) :
    s'.tables = { s.tables with mapping } := by
  rw [Server.tables, became.ctx, became.mapping]
  rfl

theorem Server.Sound.became {s s' : Server} {mapping : ModbusMapping} {sent : List (List Byte)}
    (sound : s.Sound) (became : s.Became s' false mapping sent) (wellFormed : mapping.WellFormed)
    (binary : mapping.Binary) : s'.Sound where
  idle := sound.idle.became became
  wellFormed := by
    rw [became.mapping]
    exact wellFormed
  binary := by
    rw [became.mapping]
    exact binary

section
variable {w : Wiring} (lossless : ∀ a, Lossless (w.toSlave a)) (ends : ∀ a turn, w.waitEnds a turn)
variable {op : ClientOp} (inRange : op.InRange) {slave : Int} (valid : SlaveInRange slave) {tId : Word}

inductive Attended (op : ClientOp) (slave : Int) (tId : Word) (s s' : Server) : Prop
  | addressed (same : s.conn.ctx.slave = slave) (response : Response)
      (served : op.request.serve s.conn.ctx.version s.mapping =
        .ok ⟨response, false, (op.effect s.conn.ctx.version s.mapping).mapping⟩)
      (became : s.Became s' false (op.effect s.conn.ctx.version s.mapping).mapping
        [adu .rtu tId (loByte slave) response.encode])
  | foreign (foreign : Foreign (loByte slave) s.conn.ctx.slave) (became : s.Became s' true s.mapping [])
  | broadcast (all : slave = 0)
      (became : s.Became s' false (op.effect s.conn.ctx.version s.mapping).mapping [])

theorem Attended.silent {s s' : Server} (attended : Attended op slave tId s s')
    (other : s.conn.ctx.slave ≠ slave) : s'.conn.line.peer = [] := by
  cases attended with
  | addressed same => exact absurd same other
  | foreign _ became => exact became.sent
  | broadcast _ became => exact became.sent

include valid in
theorem Attended.answers {s s' : Server} (attended : Attended op slave tId s s') (sound : s.Sound)
    (same : s.conn.ctx.slave = slave) :
    ∃ response, op.request.serve s.conn.ctx.version s.mapping =
        .ok ⟨response, false, (op.effect s.conn.ctx.version s.mapping).mapping⟩ ∧
      s'.conn.line.peer = [adu .rtu tId (loByte slave) response.encode] := by
  cases attended with
  | addressed _ response served became => exact ⟨response, served, became.sent⟩
  | foreign foreign _ => exact absurd (valid.loByte.trans same.symm) foreign.1
  | broadcast all _ =>
      have := sound.idle.address
      omega

include lossless inRange valid

theorem Server.Sound.attend {s : Server} (sound : s.Sound) :
    Attended op slave tId s (s.attend w (adu .rtu tId (loByte slave) op.request.encode)) := by
  obtain ⟨response, served, -⟩ :=
    op.served s.conn.ctx.version inRange sound.wellFormed fun _ => sound.binary
  have address : ((loByte slave).toNat : Int) = slave := valid.loByte
  have encodable := op.request_encodable inRange
  have fits := op.request_fits inRange
  by_cases all : slave = 0
  · have broadcast : (loByte slave).toNat = broadcastAddress := by
      rw [all]
      rfl
    have became := Server.attend_accepted sound.idle w lossless tId (loByte slave) op.request
      encodable fits (.inr broadcast) response _ served
    rw [if_pos broadcast] at became
    exact .broadcast all became
  · have unicast : (loByte slave).toNat ≠ broadcastAddress := by
      simp only [broadcastAddress]
      omega
    by_cases same : s.conn.ctx.slave = slave
    · have became := Server.attend_accepted sound.idle w lossless tId (loByte slave) op.request
        encodable fits (.inl (address.trans same.symm)) response _ served
      rw [if_neg unicast] at became
      exact .addressed same response served became
    · have foreign : Foreign (loByte slave) s.conn.ctx.slave :=
        ⟨fun equal => same (equal.symm.trans address), unicast⟩
      exact .foreign foreign (Server.attend_foreign sound.idle w lossless tId (loByte slave) op.request
        encodable fits foreign)

include ends in
theorem Attended.settles {s s' : Server} (attended : Attended op slave tId s s') (sound : s.Sound)
    {others : List (List Byte)}
    (heard : others = [] ∨ s.conn.ctx.slave ≠ slave ∧ slave ≠ 0 ∧
      ∃ pdu, Whole .confirmation pdu ∧ others = [adu .rtu tId (loByte slave) pdu]) :
    (s'.settle w others).Sound ∧ (s'.settle w others).tables =
      if slave = 0 ∨ s.tables.address = slave then s.tables.execute op else s.tables := by
  have executed : ∀ {sent : List (List Byte)}, others = [] →
      s.Became s' false (op.effect s.conn.ctx.version s.mapping).mapping sent →
        (s'.settle w others).Sound ∧ (s'.settle w others).tables = s.tables.execute op := by
    rintro sent rfl became
    rw [became.settled]
    exact ⟨sound.became became
      (op.effect_wellFormed _ inRange sound.wellFormed fun _ => sound.binary)
      (op.effect_binary _ sound.binary), became.tables⟩
  cases attended with
  | addressed same response served became =>
      rw [if_pos (.inr same)]
      exact executed (heard.resolve_right fun other => other.1 same) became
  | broadcast all became =>
      rw [if_pos (.inl all)]
      exact executed (heard.resolve_right fun other => other.2.1 all) became
  | foreign foreign became =>
      have address : ((loByte slave).toNat : Int) = slave := valid.loByte
      obtain ⟨other, unicast⟩ := foreign
      simp only [broadcastAddress] at unicast
      have passed : s.Became (s'.settle w others) false s.mapping [] := by
        rcases heard with rfl | ⟨-, -, pdu, whole, rfl⟩
        · exact became.outlasts sound.idle w ends
        · exact became.overhears sound.idle w lossless tId (loByte slave) pdu ⟨other, unicast⟩ whole
      rw [if_neg (by
        rintro (all | same)
        · omega
        · exact other (address.trans same.symm))]
      exact ⟨sound.became passed sound.wellFormed sound.binary, passed.tables⟩

section
variable (tId) {slaves : List Server} (sound : ∀ s ∈ slaves, s.Sound)
variable (distinct : (slaves.map fun s => s.conn.ctx.slave).Nodup)
include sound distinct

theorem sentBy_attended :
    let responses := sentBy
      (slaves.map (Server.attend w (adu .rtu tId (loByte slave) op.request.encode)))
    ((slaves.find? fun s => s.conn.ctx.slave = slave) = none → responses = []) ∧
      ∀ s, (slaves.find? fun s => s.conn.ctx.slave = slave) = some s → slave ≠ 0 ∧
        ∃ response, op.request.serve s.conn.ctx.version s.mapping =
            .ok ⟨response, false, (op.effect s.conn.ctx.version s.mapping).mapping⟩ ∧
          responses = [adu .rtu tId (loByte slave) response.encode] := by
  intro responses
  set request := adu .rtu tId (loByte slave) op.request.encode
  have attended : ∀ s ∈ slaves, Attended op slave tId s (s.attend w request) :=
    fun s member => (sound s member).attend lossless inRange valid
  have unique : responses = ((slaves.find? fun s => s.conn.ctx.slave = slave).map
      fun s => (s.attend w request).conn.line.peer).getD [] := by
    simp only [responses, sentBy, List.flatMap_map]
    exact flatMap_unique _ _ slave _ distinct fun s member other => (attended s member).silent other
  rw [unique]
  refine ⟨fun absent => by rw [absent]; rfl, fun s found => ?_⟩
  have member := List.mem_of_find?_eq_some found
  have same : s.conn.ctx.slave = slave := by simpa using List.find?_some found
  have address := (sound s member).idle.address
  rw [found, Option.map_some, Option.getD_some]
  exact ⟨by omega, (attended s member).answers valid (sound s member) same⟩

include ends in
theorem settle_attended (i : Nat) (inside : i < slaves.length) :
    let attended := slaves.map (Server.attend w (adu .rtu tId (loByte slave) op.request.encode))
    let s' := (slaves[i].attend w (adu .rtu tId (loByte slave) op.request.encode)).settle w
      (sentBy (attended.eraseIdx i))
    s'.Sound ∧ s'.tables = if slave = 0 ∨ slaves[i].tables.address = slave then
      slaves[i].tables.execute op else slaves[i].tables := by
  intro attended s'
  set request := adu .rtu tId (loByte slave) op.request.encode
  have member := List.getElem_mem inside
  have attends : ∀ s ∈ slaves, Attended op slave tId s (s.attend w request) :=
    fun s member => (sound s member).attend lossless inRange valid
  apply (attends _ member).settles lossless ends inRange valid (sound _ member)
  have others : sentBy (attended.eraseIdx i) =
      if slaves[i].conn.ctx.slave = slave then [] else sentBy attended := by
    simp only [attended, sentBy, List.eraseIdx_map, List.flatMap_map]
    exact flatMap_eraseIdx _ _ slave _ distinct (fun s member other => (attends s member).silent other)
      i inside
  obtain ⟨absent, present⟩ := sentBy_attended lossless inRange valid tId sound distinct
  rw [others]
  by_cases same : slaves[i].conn.ctx.slave = slave
  · exact .inl (if_pos same)
  · rw [if_neg same]
    cases found : slaves.find? fun s => s.conn.ctx.slave = slave with
    | none => exact .inl (absent found)
    | some s =>
        obtain ⟨unicast, response, served, sent⟩ := present s found
        exact .inr ⟨same, unicast, response.encode, (op.request.serve_answer _ _ _ served).whole
          (known_small op.request_known), sent⟩

end

include ends in
theorem busReact_served (tId : Word) (bus : Bus) (sound : ∀ s ∈ bus.slaves, s.Sound)
    (distinct : (bus.slaves.map fun s => s.conn.ctx.slave).Nodup) :
    ∃ arrivals bus', busReact w (adu .rtu tId (loByte slave) op.request.encode) bus =
        (.ok (adu .rtu tId (loByte slave) op.request.encode).length, arrivals, bus') ∧
      (∀ s ∈ bus'.slaves, s.Sound) ∧
      bus'.slaves.map Server.tables = (bus.slaves.map Server.tables).map (fun t =>
        if slave = 0 ∨ t.address = slave then t.execute op else t) ∧
      ((bus.slaves.find? fun s => s.conn.ctx.slave = slave) = none → arrivals = [.silence]) ∧
      ∀ s, (bus.slaves.find? fun s => s.conn.ctx.slave = slave) = some s →
        ∃ response, op.request.serve s.conn.ctx.version s.mapping =
            .ok ⟨response, false, (op.effect s.conn.ctx.version s.mapping).mapping⟩ ∧
          arrivals = w.toMaster bus.turn (adu .rtu tId (loByte slave) response.encode) := by
  have settled := settle_attended lossless ends inRange valid tId sound distinct
  obtain ⟨absent, present⟩ := sentBy_attended lossless inRange valid tId sound distinct
  refine ⟨_, _, rfl, ?_, ?_, ?_, ?_⟩
  · intro s' member
    obtain ⟨i, inside, rfl⟩ := List.mem_mapIdx.mp member
    rw [List.getElem_map]
    exact (settled i (by simpa using inside)).1
  · apply List.ext_getElem
    · simp
    · intro i bound _
      rw [List.getElem_map, List.getElem_mapIdx, List.getElem_map, List.getElem_map, List.getElem_map]
      exact (settled i (by simpa using bound)).2
  · intro missing
    exact if_pos (absent missing)
  · intro s found
    obtain ⟨-, response, served, sent⟩ := present s found
    refine ⟨response, served, ?_⟩
    rw [sent]
    exact (if_neg (List.cons_ne_nil _ _)).trans (List.flatMap_singleton _ _)

end

/-! ## Calls of the master -/

structure BusIdle (c : Conn (Line Bus)) : Prop where
  connected : c.ctx.isConnected
  rtu : c.ctx.backend = .rtu
  silent : c.line.incoming.signals = []
  sound : ∀ s ∈ c.line.peer.slaves, s.Sound
  distinct : (c.line.peer.slaves.map fun s => s.conn.ctx.slave).Nodup

theorem modbusSetSlave_rtu (ctx : Ctx) (slave : Int) (rtu : ctx.backend = .rtu) :
    modbusSetSlave ctx slave =
      if 0 ≤ slave ∧ slave ≤ (if ctx.quirks &&& quirkMaxSlave != 0 then 255 else 247) then
        .ok { ctx with slave } else .error .einval := by
  rw [modbusSetSlave, rtu]

theorem BusCall.after_addresses (slaves : List SlaveTables) (call : BusCall) :
    (call.after slaves).map SlaveTables.address = slaves.map SlaveTables.address := by
  rw [after, List.map_map]
  apply List.map_congr_left
  intro t _
  simp only [Function.comp_apply]
  split <;> rfl

theorem tables_addresses (slaves : List Server) :
    (slaves.map Server.tables).map SlaveTables.address = slaves.map fun s => s.conn.ctx.slave := by
  rw [List.map_map]
  rfl

theorem BusCall.result_absent {slaves : List Server} {call : BusCall}
    (absent : (slaves.find? fun s => s.conn.ctx.slave = call.slave) = none) :
    call.result (slaves.map Server.tables) = (.error (.errno .etimedout), call.op.dest) := by
  have none' : (slaves.map Server.tables).find? (fun t => t.address = call.slave) = none := by
    rw [List.find?_map]
    exact Option.map_eq_none_iff.mpr absent
  rw [result, none']

theorem BusCall.result_found {slaves : List Server} {call : BusCall} {s : Server}
    (found : (slaves.find? fun s => s.conn.ctx.slave = call.slave) = some s) :
    call.result (slaves.map Server.tables) = ((call.op.effect s.conn.ctx.version s.mapping).rc,
      (call.op.effect s.conn.ctx.version s.mapping).dest) := by
  have some' : (slaves.map Server.tables).find? (fun t => t.address = call.slave) = some s.tables := by
    rw [List.find?_map]
    exact Option.map_eq_some_iff.mpr ⟨s, found, rfl⟩
  rw [result, some']
  rfl

section
variable {w : Wiring} (lossless : ∀ a, Lossless (w.toSlave a)) (ends : ∀ a turn, w.waitEnds a turn)
  (homeward : Lossless w.toMaster)
include lossless ends homeward

theorem BusCall.op_run (call : BusCall) (inRange : call.op.InRange) (c : Conn (Line Bus))
    (idle : BusIdle c) (addressed : c.ctx.slave = call.slave) (valid : SlaveInRange call.slave) :
    ∃ c', call.op.run (lineDevice (busReact w)) c =
        ((call.result (c.line.peer.slaves.map Server.tables)).1,
          (call.result (c.line.peer.slaves.map Server.tables)).2, c') ∧
      c'.ctx = c.ctx ∧ BusIdle c' ∧
      c'.line.peer.slaves.map Server.tables = call.after (c.line.peer.slaves.map Server.tables) := by
  set tId := c.ctx.tId
  obtain ⟨arrivals, bus', reacts, sound, tables, absent, present⟩ :=
    busReact_served lossless ends inRange valid tId c.line.peer idle.sound idle.distinct
  set request := adu .rtu tId (loByte call.slave) call.op.request.encode with request_def
  have same : c.ctx.nextRequest = c.ctx := by
    rw [Ctx.nextRequest, idle.rtu]
  have framed : sendMsgPre c.ctx.backend (requestHeader c.ctx ++ call.op.request.encode) = request := by
    have frame := call.op.frame_adu c.ctx
    rw [ClientOp.frame, same] at frame
    rw [frame, idle.rtu, addressed]
  have kept : (bus'.slaves.map fun s => s.conn.ctx.slave) =
      c.line.peer.slaves.map fun s => s.conn.ctx.slave := by
    rw [← tables_addresses, tables]
    exact (call.after_addresses _).trans (tables_addresses _)
  have idle' : ∀ incoming : Incoming Byte, incoming.signals = [] →
      BusIdle { c with line := ⟨incoming, bus'⟩ } := by
    intro incoming silent
    exact ⟨idle.connected, idle.rtu, silent, sound, by rw [kept]; exact idle.distinct⟩
  rw [call.op.run_eq _ _ inRange, same]
  cases found : c.line.peer.slaves.find? fun s => s.conn.ctx.slave = call.slave with
  | none =>
      have nonempty : request ≠ [] := (adu_carries _ _ _ _).nonempty
      obtain ⟨incoming, silent, exchanged⟩ := exchange_silence (busReact w) c
        (requestHeader c.ctx ++ call.op.request.encode) idle.connected idle.silent
        (by rw [framed]; exact nonempty) (by rw [framed]; exact reacts) (by rw [absent found]; rfl)
      rw [BusCall.result_absent found, exchanged]
      exact ⟨_, rfl, rfl, idle' incoming silent, tables⟩
  | some s =>
      have member := List.mem_of_find?_eq_some found
      have address : s.conn.ctx.slave = call.slave := by simpa using List.find?_some found
      obtain ⟨response, served, carried⟩ := present s found
      obtain ⟨response', served', expected, concludes⟩ := call.op.served s.conn.ctx.version inRange
        (idle.sound s member).wellFormed fun _ => (idle.sound s member).binary
      obtain rfl : response' = response := by
        rw [served] at served'
        cases served'
        rfl
      have unicast : 1 ≤ c.ctx.slave ∧ c.ctx.slave ≤ 247 := by
        rw [addressed, ← address]
        exact (idle.sound s member).idle.address
      obtain ⟨rsp, incoming, contains, silent, exchanged⟩ := exchange_confirms (busReact w) c tId
        call.op.request response' idle.connected idle.silent (fun _ => unicast)
        call.op.request_known expected (call.op.request.serve_answer _ _ _ served)
        (requestHeader c.ctx ++ call.op.request.encode) (by rw [framed, idle.rtu, addressed])
        (by rw [idle.rtu, addressed]; exact reacts)
        (by rw [carried, idle.rtu, addressed]; exact homeward _ _)
      have concluded := concludes c.ctx.backend rsp contains
      rw [BusCall.result_found found, exchanged]
      refine ⟨{ c with line := ⟨incoming, bus'⟩ }, ?_, rfl, idle' incoming silent, tables⟩
      cases judged : response'.judged call.op.request with
      | error failed =>
          rw [judged] at concluded
          simp only [ClientOp.finish, concluded.1, concluded.2.1]
      | ok n =>
          rw [judged] at concluded
          simp only [ClientOp.finish, concluded.1, concluded.2]

theorem BusCall.run_expected (call : BusCall) (inRange : call.op.InRange) (c : Conn (Line Bus))
    (idle : BusIdle c) :
    let done := call.run (lineDevice (busReact w)) c
    let expected := call.expected c.ctx.quirks (c.line.peer.slaves.map Server.tables)
    done.1 = expected.1 ∧ done.2.line.peer.slaves.map Server.tables = expected.2 ∧
      done.2.ctx.quirks = c.ctx.quirks ∧ BusIdle done.2 := by
  intro done expected
  have set := modbusSetSlave_rtu c.ctx call.slave idle.rtu
  by_cases range : 0 ≤ call.slave ∧
      call.slave ≤ (if c.ctx.quirks &&& quirkMaxSlave != 0 then 255 else 247)
  · rw [if_pos range] at set
    have valid : SlaveInRange call.slave := by
      refine ⟨range.1, range.2.trans ?_⟩
      split <;> omega
    obtain ⟨c', ran, ctx, idle', tables⟩ := call.op_run lossless ends homeward inRange
      { c with ctx := { c.ctx with slave := call.slave } }
      ⟨idle.connected, idle.rtu, idle.silent, idle.sound, idle.distinct⟩ rfl valid
    have called : done = (.ok (call.result (c.line.peer.slaves.map Server.tables)), c') := by
      simp only [done, BusCall.run, set, ran]
    have expected_eq : expected = (.ok (call.result (c.line.peer.slaves.map Server.tables)),
        call.after (c.line.peer.slaves.map Server.tables)) := if_pos range
    rw [called, expected_eq]
    exact ⟨rfl, tables, by rw [ctx], idle'⟩
  · rw [if_neg range] at set
    have called : done = (.error .einval, c) := by
      simp only [done, BusCall.run, set]
    have expected_eq : expected = (.error .einval, c.line.peer.slaves.map Server.tables) := if_neg range
    rw [called, expected_eq]
    exact ⟨rfl, rfl, rfl, idle⟩

/-- Every sequence of calls, for whatever slaves, on the tables that those before it leave. -/
theorem runBusCalls_expected (calls : List BusCall) (inRange : ∀ call ∈ calls, call.op.InRange)
    (c : Conn (Line Bus)) (idle : BusIdle c) :
    let done := runBusCalls (lineDevice (busReact w)) calls c
    let expected := expectedBusCalls c.ctx.quirks calls (c.line.peer.slaves.map Server.tables)
    done.1 = expected.1 ∧ done.2.line.peer.slaves.map Server.tables = expected.2 ∧
      BusIdle done.2 := by
  induction calls generalizing c with
  | nil => exact ⟨rfl, rfl, idle⟩
  | cons call calls ih =>
      obtain ⟨result, tables, quirks, idle'⟩ :=
        call.run_expected lossless ends homeward (inRange call List.mem_cons_self) c idle
      obtain ⟨more, final, rests⟩ :=
        ih (fun call' member => inRange call' (List.mem_cons_of_mem call member)) _ idle'
      rw [quirks, tables] at more final
      exact ⟨congr (congrArg _ result) more, final, rests⟩

end

def newSlave (address : Int) : Server where
  conn := .established (newRtu address) []
  query _ := 0
  mapping := modbusMappingNew 0 0 4 0
  turn := 0

theorem newSlave_sound (address : Int) (unicast : 1 ≤ address ∧ address ≤ 247) :
    (newSlave address).Sound where
  idle :=
    { ready := ⟨rfl, rfl, rfl, rfl, fun _ => rfl⟩
      address := unicast
      quiet := show (newRtu 0).replyToBroadcast = false by decide }
  wellFormed := modbusMappingNewStartAddress_wellFormed 0 0 0 0 0 4 0 0 (by simp [FitsInt])
  binary := fun v member => by simp [newSlave, modbusMappingNew, modbusMappingNewStartAddress] at member

def newBus : Conn (Line Bus) := .established (newRtu 1) ⟨[newSlave 1, newSlave 2], 0⟩

theorem newBus_idle : BusIdle newBus where
  connected := rfl
  rtu := rfl
  silent := rfl
  sound := by
    intro s member
    rcases List.mem_pair.mp member with rfl | rfl
    · exact newSlave_sound 1 (by decide)
    · exact newSlave_sound 2 (by decide)
  distinct := by decide

def busCalls : List BusCall :=
  [⟨1, .writeRegister 0 5⟩, ⟨0, .writeRegister 1 6⟩, ⟨9, .writeRegister 2 7⟩, ⟨300, .writeRegister 3 8⟩,
    ⟨2, .readRegisters 0 2 fun _ => 0⟩]

theorem runBusCalls_expected_busCalls :
    let done := runBusCalls (lineDevice (busReact ⟨carryWhole, fun _ => carryWhole, fun _ _ => true⟩))
      busCalls newBus
    done.1.map (Except.map Prod.fst) = [.ok (.ok 1), .ok (.error (.errno .etimedout)),
        .ok (.error (.errno .etimedout)), .error .einval, .ok (.ok 2)] ∧
      done.2.line.peer.slaves.map (fun s => s.mapping.tabRegisters) = [[5, 6, 0, 0], [0, 6, 0, 0]] := by
  obtain ⟨results, tables, -⟩ := @runBusCalls_expected ⟨carryWhole, fun _ => carryWhole, fun _ _ => true⟩
    (fun _ => carryWhole_lossless) (fun _ _ => rfl) carryWhole_lossless busCalls (by decide) newBus
    newBus_idle
  have registers := congrArg (List.map fun t => t.mapping.tabRegisters) tables
  rw [List.map_map] at registers
  refine ⟨(congrArg _ results).trans ?_, registers.trans ?_⟩ <;> decide +kernel

/-- Slaves that wait longer than the master take its next request for the response to the last. -/
example :
    let done := runBusCalls (lineDevice (busReact ⟨carryWhole, fun _ => carryWhole, fun _ _ => false⟩))
      [⟨9, .writeRegister 0 5⟩, ⟨2, .writeRegister 0 5⟩] newBus
    done.1.map (Except.map Prod.fst) =
        [.ok (.error (.errno .etimedout)), .ok (.error (.errno .etimedout))] ∧
      done.2.line.peer.slaves.map (fun s => s.mapping.tabRegisters) = [[0, 0, 0, 0], [0, 0, 0, 0]] := by
  decide +kernel

end ModbusNet
