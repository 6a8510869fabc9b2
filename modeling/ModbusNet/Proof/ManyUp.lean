import ModbusNet.Model.ManyUp
import ModbusNet.Proof.Answers
import ModbusNet.Proof.Intake
import ModbusNet.Proof.Pipeline

namespace ModbusNet

/-! ## Requests executed one after the other -/

def execute (version : VersionString) (mb : ModbusMapping) (frame : List Byte) :
    ModbusMapping × Log :=
  match (Request.decode (pduAt .tcp (ofBytes frame))).serve version mb with
  | .error _ => (mb, [])
  | .ok outcome => (outcome.mapping, [answerFrame .tcp (ofBytes frame) outcome.response])

/-- A server that executes a request of a connection in one step. -/
structure SerialServer where
  mapping : ModbusMapping
  sent : Nat → Log

def SerialServer.execute (version : VersionString) (s : SerialServer) (e : Nat × List Byte) :
    SerialServer where
  mapping := (ModbusNet.execute version s.mapping e.2).1
  sent := fun id => s.sent id ++ if id = e.1 then (ModbusNet.execute version s.mapping e.2).2 else []

def SerialServer.fresh (mapping : ModbusMapping) : SerialServer := ⟨mapping, fun _ => []⟩

theorem execute_wellFormed (version : VersionString) {mb : ModbusMapping} (valid : mb.WellFormed)
    (frame : List Byte) : (execute version mb frame).1.WellFormed := by
  have defined := Request.serve_defined version mb valid (Request.decode (pduAt .tcp (ofBytes frame)))
  unfold execute
  cases served : (Request.decode (pduAt .tcp (ofBytes frame))).serve version mb with
  | error e => exact valid
  | ok outcome =>
      rw [served] at defined
      exact defined

/-! ## One connection -/

structure Ctx.Serves (ctx : Ctx) (version : VersionString) : Prop where
  tcp : ctx.backend = .tcp
  version : ctx.version = version
  unrecovered : ctx.linkRecovery = false

theorem sleepAndFlush_serves {π : Type} (react : React π) (c : Conn (Line π))
    {version : VersionString} (serves : c.ctx.Serves version) :
    (sleepAndFlush (lineDevice react) c).ctx.Serves version := by
  have pending := lineDevice_dontWait react
  rw [sleepAndFlush, modbusFlush, show (sleepResponseTimeout (lineDevice react) c).ctx.backend = .tcp
    from serves.tcp]
  by_cases counts : (sleepResponseTimeout (lineDevice react) c).line.incoming.queued.length ≤ 65535
  · obtain ⟨after, -, flushed⟩ := modbusTcpFlush_drains pending _ counts
    simp only [flushed]
    exact serves
  · obtain ⟨after, flushed⟩ := modbusTcpFlush_overflow pending _ (not_le.mp counts)
    simp only [flushed]
    exact ⟨serves.tcp, serves.version, by
      simp [Conn.overflowed, Ctx.linkRecovery, errorRecoveryProtocol, errorRecoveryLink]⟩

theorem lineDevice_keeps_sublist {π : Type} (react : React π) (s : List (Signal Byte)) :
    (lineDevice react).Keeps fun l => List.Sublist l.incoming.signals s where
  select := by
    intro n l shorter
    have waited := (Incoming.wait_signals l.incoming).1
    simp only [lineDevice, lineSelect]
    split <;> rename_i found <;> rw [found] at waited <;> exact waited.trans shorter
  recv := fun n l shorter => (Incoming.take_signals n l.incoming).trans shorter
  recvDontwait := by
    intro n l shorter
    simp only [lineDevice]
    split
    · exact shorter
    · exact (Incoming.take_signals n l.incoming).trans shorter
  tcflush := fun l shorter => (List.sublist_append_right _ _).trans shorter
  sleep := fun _ shorter => shorter
  close := fun l shorter => (List.sublist_append_right _ _).trans shorter
  connect := fun _ shorter => shorter

theorem answerFrame_agree {req req' : Buffer} {n : Nat} (agree : AgreeBelow n req req')
    (long : 7 ≤ n) (response : Response) :
    answerFrame .tcp req response = answerFrame .tcp req' response := by
  have header : bytesAt req 0 7 = bytesAt req' 0 7 := AgreeBelow.bytesAt_eq agree long
  have built : responseHeader .tcp req = responseHeader .tcp req' := by
    simp only [responseHeader, agree 0 (by omega), agree 1 (by omega), agree 6 (by omega)]
  have same : answerHeader .tcp req response = answerHeader .tcp req' response := by
    cases response with
    | echo r => exact header
    | _ => exact built
  rw [answerFrame, answerFrame, same]

theorem modbusReply_executes (c : Conn (Line Log)) (query : Buffer) (frame : List Byte)
    {version : VersionString} (serves : c.ctx.Serves version) {mb : ModbusMapping}
    (valid : mb.WellFormed)
    (whole : Delimits .tcp .indication (ofBytes frame) frame.length)
    (agree : AgreeBelow frame.length (ofBytes frame) query) :
    ∃ result c', modbusReply logDevice c query frame.length mb =
        (result, (execute version mb frame).1, c') ∧
      ((∃ n, result = .ok n) ∨ ∃ e, result = .error (.errno e)) ∧ c'.ctx.Serves version ∧
      c'.line.peer = c.line.peer ++ (execute version mb frame).2 ∧
      List.Sublist c'.line.incoming.signals c.line.incoming.signals := by
  have version_eq := serves.version
  subst version_eq
  have received : Received c.ctx.backend query frame.length := by
    rw [serves.tcp]
    exact ⟨frame.length, rfl, whole.agree agree⟩
  have long : 7 ≤ frame.length := by
    have head := whole.head_le
    rw [headLength, Backend.headerLength_tcp] at head
    omega
  have decoded : Request.decode (pduAt .tcp query) = Request.decode (pduAt .tcp (ofBytes frame)) := by
    have length := ((delimits_iff _ _ _ _).mp whole).1
    symm
    apply Request.decode_agree
    intro i (bound : i < pduLength .indication (pduAt .tcp (ofBytes frame)))
    exact agree _ (by omega)
  unfold execute
  rw [← decoded]
  cases served : (Request.decode (pduAt .tcp query)).serve c.ctx.version mb with
  | error e =>
      have failed : modbusReply logDevice c query frame.length mb = (.error e, mb, c) :=
        modbusReply_failed c query received (by rw [serves.tcp]; exact served)
      obtain ⟨-, rfl⟩ := Request.serve_fails valid served
      exact ⟨_, c, failed, .inr ⟨_, rfl⟩, serves, (List.append_nil _).symm, .refl _⟩
  | ok outcome =>
      set answer : Answer :=
        ⟨answerHeader .tcp query outcome.response ++ outcome.response.encode, outcome.toFlush⟩
      obtain ⟨peer, sent⟩ := sendAnswer_flushed c query answer
      have loud : suppressed c.ctx query = false := by
        rw [suppressed, serves.tcp]
        rfl
      have flushed : (c.flushedFor answer).ctx.Serves c.ctx.version ∧
          List.Sublist (c.flushedFor answer).line.incoming.signals c.line.incoming.signals := by
        unfold Conn.flushedFor
        split
        · have keeps := (lineDevice_keeps_sublist logReact c.line.incoming.signals).preserves c
          exact ⟨sleepAndFlush_serves logReact c serves,
            (sleepAndFlush_preserves keeps c (.refl c)).2 (.refl _)⟩
        · exact ⟨serves, .refl _⟩
      have replied : modbusReply logDevice c query frame.length mb =
          ((sendAnswer logDevice c query answer).1, outcome.mapping,
            (sendAnswer logDevice c query answer).2) := by
        rw [modbusReply, replySwitch_received c.ctx query _ mb received, serves.tcp, served]
        rfl
      rw [sent, loud, if_neg Bool.false_ne_true] at replied
      refine ⟨_, _, replied, .inl ⟨_, rfl⟩, flushed.1, ?_, flushed.2⟩
      simp only [Conn.record, peer, serves.tcp]
      rw [answerFrame_agree agree long]
      rfl

namespace ManyUp

def connection (w : ManyUp) (id : Nat) : Line Log := w.connections.getD id unconnected

structure Handled (version : VersionString) (w : ManyUp) (id : Nat) (bytes : List Byte)
    (frames : Log) (c : Conn (Line Log)) : Prop where
  serves : c.ctx.Serves version
  peer : c.line.peer = (w.connection id).peer ++ frames
  signals : List.Sublist (bytes.map .item ++ c.line.incoming.signals)
    (w.connection id).incoming.signals

def afterRequest (version : VersionString) (w : ManyUp) (id : Nat) (frame : List Byte)
    (query : Buffer) : ManyUp :=
  { w with
    query
    mapping := (execute version w.mapping frame).1
    executed := w.executed ++ [(id, frame)] }

inductive ServeCase (version : VersionString) (w : ManyUp) (fd : Nat) :
    Except Failure Unit × ManyUp → Prop
  | unknown (free : w.descriptors fd = none) :
      ServeCase version w fd (.ok (), ({ w with ctx := { w.ctx with s := fd } }).closeClient fd)
  | executed {id : Nat} {frame : List Byte} {query : Buffer} {c : Conn (Line Log)}
      (named : w.descriptors fd = some id)
      (whole : Delimits .tcp .indication (ofBytes frame) frame.length)
      (handled : Handled version w id frame (execute version w.mapping frame).2 c) :
      ServeCase version w fd (.ok (), (w.afterRequest version id frame query).attach id c)
  | ended {id : Nat} {bytes : List Byte} {query : Buffer} {c : Conn (Line Log)}
      (named : w.descriptors fd = some id) (handled : Handled version w id bytes [] c) :
      ServeCase version w fd (.ok (), (attach { w with query } id c).closeClient fd)
  | blocked {id : Nat} {bytes : List Byte} {query : Buffer} {c : Conn (Line Log)}
      (named : w.descriptors fd = some id) (handled : Handled version w id bytes [] c)
      (silent : c.line.incoming.signals = []) :
      ServeCase version w fd (.error .hang, attach { w with query } id c)

section
variable {version : VersionString} {w : ManyUp} {fd id : Nat}

theorem serveClient_received (serves : w.ctx.Serves version) (valid : w.mapping.WellFormed)
    (named : w.descriptors fd = some id) {frame : List Byte} {c : Conn (Line Log)}
    (whole : Delimits .tcp .indication (ofBytes frame) frame.length)
    (drawn : Conn.Drawn ⟨{ w.ctx with s := fd }, w.connection id⟩ frame c)
    (received : modbusReceive logDevice ⟨{ w.ctx with s := fd }, w.connection id⟩ w.query =
      (.ok frame.length, overlay w.query frame, c)) :
    ∃ query c', w.serveClient fd =
        (.ok (), (w.afterRequest version id frame query).attach id c') ∧
      w.Handled version id frame (execute version w.mapping frame).2 c' := by
  have serving : c.ctx.Serves version := by
    rw [drawn.ctx]
    exact ⟨serves.tcp, serves.version, serves.unrecovered⟩
  have positive : (0 : Int) < frame.length := by
    have head := whole.head_le
    rw [headLength] at head
    omega
  obtain ⟨result, c', replied, ended, serving', peer, signals⟩ := modbusReply_executes c
    (overlay w.query frame) frame serving valid whole
    fun i bound => (overlay_agree w.query frame i bound).symm
  refine ⟨overlay w.query frame, c', ?_, serving', by rw [peer, drawn.peer],
    (signals.append_left _).trans drawn.signals⟩
  rw [connection] at received
  rw [serveClient]
  simp only [named, received]
  rw [if_pos positive, replied]
  simp only [Int.toNat_natCast, bytesAt_overlay]
  rcases ended with ⟨n, rfl⟩ | ⟨e, rfl⟩ <;> rfl

theorem serveClient_does (w : ManyUp) (fd : Nat) (serves : w.ctx.Serves version)
    (valid : w.mapping.WellFormed) : ServeCase version w fd (w.serveClient fd) := by
  cases named : w.descriptors fd with
  | none =>
      rw [serveClient]
      simp only [named]
      exact .unknown named
  | some id =>
      have serving : ({ w.ctx with s := fd } : Ctx).Serves version :=
        ⟨serves.tcp, serves.version, serves.unrecovered⟩
      obtain ⟨bytes, drawn, stored, endless, defined⟩ := modbusReceive_drawn logReact
        ⟨{ w.ctx with s := fd }, w.connection id⟩ w.query serving.tcp serving.unrecovered
      have handled : ∀ c' : Conn (Line Log),
          Conn.Drawn ⟨{ w.ctx with s := fd }, w.connection id⟩ bytes c' →
          Handled version w id bytes [] c' := by
        intro c' drawn
        refine ⟨?_, drawn.peer.trans (List.append_nil _).symm, drawn.signals⟩
        rw [drawn.ctx]
        exact serving
      cases received : modbusReceive logDevice ⟨{ w.ctx with s := fd }, w.connection id⟩ w.query with
      | mk result rest =>
          obtain ⟨query, c'⟩ := rest
          change modbusReceive (lineDevice logReact) _ w.query = _ at received
          simp only [received] at drawn stored endless defined
          change modbusReceive logDevice ⟨_, w.connections.getD id unconnected⟩ w.query = _ at received
          cases result with
          | ok n =>
              obtain ⟨rfl, rfl, whole⟩ := stored n rfl
              obtain ⟨query, c₂, served, executed⟩ :=
                serveClient_received serves valid named whole drawn received
              rw [served]
              exact .executed named whole executed
          | error e =>
              rw [serveClient]
              simp only [named, received]
              cases e with
              | errno e => exact .ended named (handled c' drawn)
              | hang => exact .blocked named (handled c' drawn) (endless rfl)
              | undefined => exact absurd rfl defined

end

/-! ## Runs -/

section
variable {sys : System} {P : ManyUp → Prop} {E : Failure → ManyUp → Prop}

/-- A property of the server that a call leaves true, and what is known when the call fails. -/
def Leaves (P : ManyUp → Prop) (E : Failure → ManyUp → Prop) (done : Except Failure Unit × ManyUp) :
    Prop :=
  P done.2 ∧ ∀ e, done.1 = .error e → E e done.2

theorem Leaves.ok {w : ManyUp} (held : P w) : Leaves P E (.ok (), w) :=
  ⟨held, fun e failed => by cases failed⟩

theorem visits_leaves {accepts : Bool} {rdset : Finset Nat}
    (small : ∀ w, P w → w.fdmax < fdSetsize)
    (visited : ∀ w fd, P w → Leaves P E (w.visit sys accepts rdset fd)) (fuel masterSocket : Nat)
    (w : ManyUp) (held : P w) (inside : masterSocket ≤ fdSetsize)
    (enough : fdSetsize < fuel + masterSocket) :
    Leaves P E (w.visits sys accepts rdset fuel masterSocket) := by
  induction fuel generalizing masterSocket w with
  | zero => omega
  | succ fuel ih =>
      rw [visits]
      split
      · rename_i within
        have bound := small w held
        obtain ⟨kept, failing⟩ := visited w masterSocket held
        cases step : w.visit sys accepts rdset masterSocket with
        | mk result w' =>
            rw [step] at kept failing
            cases result with
            | ok _ => exact ih (masterSocket + 1) w' kept (by omega) (by omega)
            | error e => exact ⟨kept, failing⟩
      · exact .ok held

theorem turn_leaves {poll : Poll} (small : ∀ w, P w → w.fdmax < fdSetsize)
    (visited : ∀ ready rdset, poll.select = .ok ready → (∀ fd ∈ rdset, ready fd) →
      ∀ w fd, P w → Leaves P E (w.visit sys poll.accepts rdset fd))
    (exits : ∀ w e, poll.select = .error e → P w → E (.errno e) w) (w : ManyUp) (held : P w) :
    Leaves P E (w.turn sys poll) := by
  rw [turn]
  cases selected : poll.select with
  | error e =>
      refine ⟨held, fun e' failed => ?_⟩
      obtain rfl := Except.error.inj failed
      exact exits w e selected held
  | ok ready =>
      exact visits_leaves small
        (visited ready _ selected fun fd member => (Finset.mem_filter.mp member).2) _ _ w held
        (Nat.zero_le _) (Nat.lt_succ_self _)

/-- What every turn leaves true holds in the end, and when the process stops it is in a turn that
fails. -/
theorem run_leaves {E : Poll → Failure → ManyUp → Prop}
    (turned : ∀ poll w, P w → Leaves P (E poll) (w.turn sys poll)) (polls : List Poll) (w : ManyUp)
    (held : P w) :
    P (w.run sys polls).2 ∧ ∀ e, (w.run sys polls).1 = .error e →
      ∃ before poll after, polls = before ++ poll :: after ∧ (w.run sys before).1 = .ok () ∧
        E poll e (w.run sys polls).2 := by
  induction polls generalizing w with
  | nil => exact ⟨held, fun e failed => by cases failed⟩
  | cons poll polls ih =>
      obtain ⟨kept, failing⟩ := turned poll w held
      rw [run]
      cases step : w.turn sys poll with
      | mk result w' =>
          rw [step] at kept failing
          cases result with
          | ok _ =>
              obtain ⟨kept', failing'⟩ := ih w' kept
              refine ⟨kept', fun e failed => ?_⟩
              obtain ⟨before, poll', after, rfl, goesOn, reason⟩ := failing' e failed
              refine ⟨poll :: before, poll', after, rfl, ?_, reason⟩
              rw [run, step]
              exact goesOn
          | error e =>
              refine ⟨kept, fun e' failed => ⟨[], poll, polls, rfl, rfl, ?_⟩⟩
              exact failing e' failed

end

/-! ## Descriptors -/

theorem lowestFree_free {sys : System} {used : Nat → Bool} {fd : Nat}
    (found : sys.lowestFree used = some fd) :
    fd < sys.limit ∧ fd ∉ sys.others ∧ used fd = false := by
  have free := List.find?_some found
  simp only [Bool.not_eq_eq_eq_not, Bool.not_true, Bool.or_eq_false_iff, decide_eq_false_iff_not]
    at free
  exact ⟨List.mem_range.mp (List.mem_of_find?_eq_some found), free⟩

/-- The open descriptors are watched, `fdmax` bounds them, and they name different connections. -/
structure Watched (w : ManyUp) : Prop where
  watched : ∀ fd, fd ∈ w.refset ↔ w.uses fd
  bound : ∀ fd ∈ w.refset, fd ≤ w.fdmax
  small : w.fdmax < fdSetsize
  apart : w.descriptors w.serverSocket = none
  named : ∀ fd id, w.descriptors fd = some id → id < w.connections.length
  distinct : ∀ fd fd' id, w.descriptors fd = some id → w.descriptors fd' = some id → fd = fd'

theorem Watched.attach {w : ManyUp} (sound : w.Watched) (id : Nat) (c : Conn (Line Log)) :
    (w.attach id c).Watched where
  watched := sound.watched
  bound := sound.bound
  small := sound.small
  apart := sound.apart
  named := fun fd id' open_ => (sound.named fd id' open_).trans_eq List.length_set.symm
  distinct := sound.distinct

theorem Watched.closeClient {w : ManyUp} (sound : w.Watched) {fd : Nat} (other : fd ≠ w.serverSocket) :
    (w.closeClient fd).Watched where
  watched := by
    intro fd'
    have before := sound.watched fd'
    simp only [ManyUp.closeClient, uses, Finset.mem_erase, Function.update_apply] at before ⊢
    by_cases same : fd' = fd
    · subst same
      simp [other]
    · simp [same, before]
  bound := by
    intro fd' member
    simp only [ManyUp.closeClient, Finset.mem_erase] at member ⊢
    have := sound.bound fd' member.2
    split
    · omega
    · exact this
  small := by
    have := sound.small
    simp only [ManyUp.closeClient]
    split <;> omega
  apart := by
    simp only [ManyUp.closeClient, Function.update_apply]
    split
    · rfl
    · exact sound.apart
  named := by
    intro fd' id open_
    simp only [ManyUp.closeClient, Function.update_apply] at open_ ⊢
    split at open_
    · cases open_
    · exact sound.named fd' id open_
  distinct := by
    intro fd₁ fd₂ id first second
    simp only [ManyUp.closeClient, Function.update_apply] at first second
    split at first
    · cases first
    · split at second
      · cases second
      · exact sound.distinct fd₁ fd₂ id first second

def accepted (sys : System) (w : ManyUp) (newfd : Nat) : ManyUp :=
  { w with
    descriptors := Function.update w.descriptors newfd (some w.connections.length)
    connections := w.connections ++ [⟨⟨[], sys.sends w.connections.length⟩, []⟩]
    refset := insert newfd w.refset
    fdmax := if w.fdmax < newfd then newfd else w.fdmax }

def Overflows (sys : System) (accepts : Bool) (w : ManyUp) : Prop :=
  accepts ∧ ∃ newfd, sys.lowestFree w.uses = some newfd ∧ fdSetsize ≤ newfd

inductive AcceptCase (sys : System) (accepts : Bool) (w : ManyUp) : Except Failure Unit × ManyUp → Prop
  | refused : AcceptCase sys accepts w (.ok (), w)
  | overflow (large : w.Overflows sys accepts) : AcceptCase sys accepts w (.error .undefined, w)
  | connected {newfd : Nat} (free : w.uses newfd = false) (small : newfd < fdSetsize) :
      AcceptCase sys accepts w (.ok (), w.accepted sys newfd)

theorem acceptClient_does (sys : System) (accepts : Bool) (w : ManyUp) :
    AcceptCase sys accepts w (w.acceptClient sys accepts) := by
  rw [acceptClient]
  split
  · exact .refused
  · rename_i newfd found
    obtain ⟨rfl, free⟩ : accepts = true ∧ sys.lowestFree w.uses = some newfd := by
      cases accepts with
      | true => exact ⟨rfl, found⟩
      | false => cases found
    obtain ⟨-, -, unused⟩ := lowestFree_free free
    split
    · rename_i large
      exact .overflow ⟨rfl, newfd, free, large⟩
    · rename_i small
      exact .connected unused (not_le.mp small)

theorem Watched.accepted {w : ManyUp} (sound : w.Watched) (sys : System) {newfd : Nat}
    (free : w.uses newfd = false) (small : newfd < fdSetsize) : (w.accepted sys newfd).Watched := by
  simp only [uses, Bool.or_eq_false_iff, beq_eq_false_iff_ne, Option.isSome_eq_false_iff,
    Option.isNone_iff_eq_none] at free
  constructor
  · intro fd
    have before := sound.watched fd
    simp only [ManyUp.accepted, uses, Finset.mem_insert, Function.update_apply] at before ⊢
    by_cases same : fd = newfd
    · simp [same]
    · simp [same, before]
  · intro fd member
    simp only [ManyUp.accepted, Finset.mem_insert] at member ⊢
    rcases member with rfl | member
    · split <;> omega
    · have := sound.bound fd member
      split <;> omega
  · have := sound.small
    simp only [ManyUp.accepted]
    split <;> omega
  · simp only [ManyUp.accepted, Function.update_apply]
    rw [if_neg (Ne.symm free.1)]
    exact sound.apart
  · intro fd id open_
    simp only [ManyUp.accepted, Function.update_apply, List.length_append,
      List.length_singleton] at open_ ⊢
    split at open_
    · obtain rfl := Option.some.inj open_
      omega
    · have := sound.named fd id open_
      omega
  · intro fd fd' id first second
    simp only [ManyUp.accepted, Function.update_apply] at first second
    split at first
    · rename_i same
      split at second
      · rename_i same'
        exact same.trans same'.symm
      · obtain rfl := Option.some.inj first
        exact absurd (sound.named fd' _ second) (lt_irrefl _)
    · split at second
      · obtain rfl := Option.some.inj second
        exact absurd (sound.named fd _ first) (lt_irrefl _)
      · exact sound.distinct fd fd' id first second

/-! ## The serial server -/

def serialServer (w : ManyUp) : SerialServer := ⟨w.mapping, fun id => (w.connection id).peer⟩

def requests (w : ManyUp) (id : Nat) : List (List Byte) :=
  w.executed.filterMap fun e => if e.1 = id then some e.2 else none

structure Serial (sys : System) (version : VersionString) (w : ManyUp) : Prop where
  serves : w.ctx.Serves version
  valid : w.mapping.WellFormed
  serial : w.serialServer = w.executed.foldl (SerialServer.execute version) (.fresh initialMapping)
  connected : ∀ e ∈ w.executed, e.1 < w.connections.length
  whole : ∀ e ∈ w.executed, Delimits .tcp .indication (ofBytes e.2) e.2.length
  drawn : ∀ id < w.connections.length,
    List.Sublist ((w.requests id).flatten.map .item ++ (w.connection id).incoming.signals)
      ((sys.sends id).flatMap Arrival.signals)

theorem attach_connection {w : ManyUp} {id : Nat} (known : id < w.connections.length)
    (c : Conn (Line Log)) (id' : Nat) :
    (w.attach id c).connection id' = if id' = id then c.line else w.connection id' := by
  simp only [connection, attach, List.getD_eq_getElem?_getD]
  by_cases same : id' = id
  · subst same
    rw [if_pos rfl, List.getElem?_set_self known]
    rfl
  · rw [if_neg same, List.getElem?_set_ne (Ne.symm same)]

theorem accepted_connection (sys : System) (w : ManyUp) (newfd id : Nat) :
    (w.accepted sys newfd).connection id =
      if id = w.connections.length then ⟨⟨[], sys.sends id⟩, []⟩ else w.connection id := by
  simp only [connection, accepted, List.getD_eq_getElem?_getD]
  by_cases same : id = w.connections.length
  · subst same
    simp
  · rw [if_neg same]
    by_cases known : id < w.connections.length
    · rw [List.getElem?_append_left known]
    · rw [List.getElem?_eq_none (by simp; omega), List.getElem?_eq_none (by omega)]

theorem requests_none {w : ManyUp} {id : Nat} (absent : ∀ e ∈ w.executed, e.1 ≠ id) :
    w.requests id = [] := by
  rw [requests, List.filterMap_eq_nil_iff]
  intro e member
  exact if_neg (absent e member)

theorem Serial.accepted {sys : System} {version : VersionString} {w : ManyUp}
    (sound : w.Serial sys version) (newfd : Nat) : (w.accepted sys newfd).Serial sys version where
  serves := sound.serves
  valid := sound.valid
  serial := by
    refine Eq.trans ?_ sound.serial
    simp only [serialServer, SerialServer.mk.injEq]
    refine ⟨rfl, funext fun id => ?_⟩
    rw [accepted_connection]
    split
    · rename_i same
      rw [connection, List.getD_eq_getElem?_getD, List.getElem?_eq_none same.ge]
      rfl
    · rfl
  connected := by
    intro e member
    have := sound.connected e member
    simp only [ManyUp.accepted, List.length_append, List.length_singleton]
    omega
  whole := sound.whole
  drawn := by
    intro id known
    rw [accepted_connection]
    simp only [ManyUp.accepted, List.length_append, List.length_singleton] at known
    have same : (w.accepted sys newfd).requests id = w.requests id := rfl
    rw [same]
    split
    · have none : w.requests id = [] :=
        requests_none fun e member => by
          have := sound.connected e member
          omega
      rw [none]
      exact .refl _
    · exact sound.drawn id (by omega)

section
variable {sys : System} {version : VersionString} {w : ManyUp} {id : Nat} {c : Conn (Line Log)}

theorem Serial.attach (sound : w.Serial sys version) (known : id < w.connections.length)
    {bytes : List Byte} (handled : w.Handled version id bytes [] c) (query : Buffer) :
    (ManyUp.attach { w with query } id c).Serial sys version where
  serves := handled.serves
  valid := sound.valid
  serial := by
    refine Eq.trans ?_ sound.serial
    simp only [serialServer, SerialServer.mk.injEq]
    refine ⟨rfl, funext fun id' => ?_⟩
    have attached := attach_connection (w := { w with query }) known c id'
    rw [attached]
    split
    · rename_i same
      rw [handled.peer, List.append_nil, same]
    · rfl
  connected := fun e member => (sound.connected e member).trans_eq List.length_set.symm
  whole := sound.whole
  drawn := by
    intro id' known'
    rw [ManyUp.attach, List.length_set] at known'
    have before := sound.drawn id' known'
    have attached := attach_connection (w := { w with query }) known c id'
    rw [attached]
    split
    · rename_i same
      subst same
      exact (((List.sublist_append_right _ _).trans handled.signals).append_left _).trans before
    · exact before

theorem Serial.executed (sound : w.Serial sys version) (known : id < w.connections.length)
    {frame : List Byte} (whole : Delimits .tcp .indication (ofBytes frame) frame.length)
    (handled : w.Handled version id frame (execute version w.mapping frame).2 c) (query : Buffer) :
    ((w.afterRequest version id frame query).attach id c).Serial sys version where
  serves := handled.serves
  valid := execute_wellFormed version sound.valid frame
  serial := by
    have before := sound.serial
    rw [ManyUp.attach, afterRequest, List.foldl_concat, ← before]
    simp only [serialServer, SerialServer.execute, SerialServer.mk.injEq]
    refine ⟨trivial, funext fun id' => ?_⟩
    have attached := attach_connection (w := w.afterRequest version id frame query) known c id'
    refine (congrArg Line.peer attached).trans ?_
    split
    · rename_i same
      rw [handled.peer, same]
    · exact (List.append_nil _).symm
  connected := by
    intro e member
    rw [ManyUp.attach, List.length_set]
    rcases List.mem_append.mp member with earlier | last
    · exact sound.connected e earlier
    · obtain rfl := List.mem_singleton.mp last
      exact known
  whole := by
    intro e member
    rcases List.mem_append.mp member with earlier | last
    · exact sound.whole e earlier
    · obtain rfl := List.mem_singleton.mp last
      exact whole
  drawn := by
    intro id' known'
    rw [ManyUp.attach, List.length_set] at known'
    have before := sound.drawn id' known'
    have requested : ((w.afterRequest version id frame query).attach id c).requests id' =
        w.requests id' ++ if id = id' then [frame] else [] := by
      rw [requests, ManyUp.attach, afterRequest, List.filterMap_append, requests]
      split <;> simp [*]
    rw [requested, attach_connection (w := w.afterRequest version id frame query) known]
    split
    · rename_i same
      subst same
      rw [if_pos rfl, List.flatten_append, List.flatten_singleton, List.map_append, List.append_assoc]
      exact (handled.signals.append_left _).trans before
    · rename_i other
      rw [if_neg (Ne.symm other), List.append_nil]
      exact before

end

/-! ## All runs -/

def WaitsForSilent (w : ManyUp) (fd : Nat) : Prop :=
  ∃ id, w.descriptors fd = some id ∧ (w.connection id).incoming.signals = []

/-- How the server can stop in a turn with these answers of the system. -/
def Stops (sys : System) (poll : Poll) (e : Failure) (w : ManyUp) : Prop :=
  match e with
  | .errno e => poll.select = .error e
  | .hang => ∃ ready fd, poll.select = .ok ready ∧ ready fd ∧ w.WaitsForSilent fd
  | .undefined => ∃ ready, poll.select = .ok ready ∧ ready w.serverSocket ∧
      w.Overflows sys poll.accepts

theorem Serial.closeClient {sys : System} {version : VersionString} {w : ManyUp}
    (sound : w.Serial sys version) (fd : Nat) : (w.closeClient fd).Serial sys version :=
  ⟨sound.serves, sound.valid, sound.serial, sound.connected, sound.whole, sound.drawn⟩

theorem serveClient_sound {sys : System} {version : VersionString} {poll : Poll} {ready : Nat → Bool}
    (selected : poll.select = .ok ready) (w : ManyUp) (fd : Nat) (isReady : ready fd)
    (other : fd ≠ w.serverSocket) (watched : w.Watched) (serial : w.Serial sys version) :
    Leaves (fun w => w.Watched ∧ w.Serial sys version) (Stops sys poll) (w.serveClient fd) := by
  obtain ⟨open_, bound, small, apart, names, distinct⟩ := watched
  have does := w.serveClient_does fd serial.serves serial.valid
  generalize w.serveClient fd = done at does
  cases does with
  | unknown free =>
      apply Leaves.ok
      constructor
      · exact Watched.closeClient (w := { w with ctx := { w.ctx with s := fd } })
          ⟨open_, bound, small, apart, names, distinct⟩ other
      · obtain ⟨serves, valid, executed, connected, whole, drawn⟩ := serial
        apply Serial.closeClient
        exact ⟨⟨serves.tcp, serves.version, serves.unrecovered⟩, valid, executed, connected, whole,
          drawn⟩
  | @executed id frame query c named whole handled =>
      apply Leaves.ok
      constructor
      · exact Watched.attach (w := w.afterRequest version id frame query)
          ⟨open_, bound, small, apart, names, distinct⟩ id c
      · exact serial.executed (names fd id named) whole handled query
  | @ended id bytes query c named handled =>
      apply Leaves.ok
      constructor
      · exact (Watched.attach (w := { w with query })
          ⟨open_, bound, small, apart, names, distinct⟩ id c).closeClient other
      · exact (serial.attach (names fd id named) handled query).closeClient fd
  | @blocked id bytes query c named handled silent =>
      have known := names fd id named
      refine ⟨⟨?_, serial.attach known handled query⟩, fun e failed => ?_⟩
      · exact Watched.attach (w := { w with query }) ⟨open_, bound, small, apart, names, distinct⟩ id c
      · obtain rfl := Except.error.inj failed
        refine ⟨ready, fd, selected, isReady, id, named, ?_⟩
        rw [attach_connection (w := { w with query }) known, if_pos rfl]
        exact silent

theorem visit_sound {sys : System} {version : VersionString} {poll : Poll} {ready : Nat → Bool}
    {rdset : Finset Nat} (selected : poll.select = .ok ready) (found : ∀ fd ∈ rdset, ready fd)
    (w : ManyUp) (fd : Nat) (sound : w.Watched ∧ w.Serial sys version) :
    Leaves (fun w => w.Watched ∧ w.Serial sys version) (Stops sys poll)
      (w.visit sys poll.accepts rdset fd) := by
  obtain ⟨watched, serial⟩ := sound
  rw [visit]
  split
  · exact .ok ⟨watched, serial⟩
  · rename_i member
    have isReady := found fd (not_not.mp member)
    split
    · rename_i listening
      have does := acceptClient_does sys poll.accepts w
      generalize w.acceptClient sys poll.accepts = done at does
      cases does with
      | refused => exact .ok ⟨watched, serial⟩
      | overflow large =>
          refine ⟨⟨watched, serial⟩, fun e failed => ?_⟩
          obtain rfl := Except.error.inj failed
          exact ⟨ready, selected, listening ▸ isReady, large⟩
      | connected free small => exact .ok ⟨watched.accepted sys free small, serial.accepted _⟩
    · rename_i other
      exact serveClient_sound selected w fd isReady other watched serial

theorem turn_sound {sys : System} {version : VersionString} (poll : Poll) (w : ManyUp)
    (sound : w.Watched ∧ w.Serial sys version) :
    Leaves (fun w => w.Watched ∧ w.Serial sys version) (Stops sys poll) (w.turn sys poll) :=
  turn_leaves (fun _ sound => sound.1.small)
    (fun _ _ selected found w fd => visit_sound selected found w fd) (fun _ _ failed _ => failed) w sound

theorem initialMapping_wellFormed : initialMapping.WellFormed :=
  modbusMappingNewStartAddress_wellFormed 0 (BitVec.ofNat 32 maxReadBits) 0 0 0
    (BitVec.ofNat 32 maxReadRegisters) 0 0 (by simp [FitsInt, maxReadBits, maxReadRegisters])

theorem start_sound {sys : System} {version : VersionString} {uninit query : Buffer} {w : ManyUp}
    (started : start sys version uninit query = .ok w) : w.Watched ∧ w.Serial sys version := by
  rw [start] at started
  split at started
  · cases started
  · split at started
    · cases started
    · rename_i serverSocket _ small
      obtain rfl := Except.ok.inj started
      constructor
      · constructor
        · intro fd
          simp [uses]
        · intro fd member
          simp only [Finset.mem_singleton] at member
          exact member.le
        · exact not_le.mp small
        · rfl
        · intro fd id open_
          cases open_
        · intro fd fd' id open_
          cases open_
      · have unrecovered : (modbusNewTcp version uninit).linkRecovery = false := by
          simp [modbusNewTcp, modbusInitCommon, Ctx.linkRecovery]
        refine ⟨⟨rfl, rfl, unrecovered⟩, initialMapping_wellFormed, rfl, ?_, ?_, ?_⟩
        · intro e member
          cases member
        · intro e member
          cases member
        · intro id known
          cases known

section
variable {sys : System} {version : VersionString} {uninit query : Buffer} {w : ManyUp}

theorem run_sound (started : start sys version uninit query = .ok w) (polls : List Poll) :
    ((w.run sys polls).2.Watched ∧ (w.run sys polls).2.Serial sys version) ∧
      ∀ e, (w.run sys polls).1 = .error e → ∃ before poll after, polls = before ++ poll :: after ∧
        (w.run sys before).1 = .ok () ∧ Stops sys poll e (w.run sys polls).2 :=
  run_leaves (fun poll w => turn_sound poll w) polls w (start_sound started)

/-- The mapping and what every client has been sent are those of a server that executes the requests
one after the other, and each client's requests are among the bytes that it sent, in their order. -/
theorem run_serial (started : start sys version uninit query = .ok w) (polls : List Poll) :
    let w' := (w.run sys polls).2
    w'.serialServer = w'.executed.foldl (SerialServer.execute version) (.fresh initialMapping) ∧
      (∀ e ∈ w'.executed, e.1 < w'.connections.length ∧
        Delimits .tcp .indication (ofBytes e.2) e.2.length) ∧
      ∀ id, List.Sublist ((w'.requests id).flatten.map .item)
        ((sys.sends id).flatMap Arrival.signals) := by
  intro w'
  obtain ⟨⟨-, serial⟩, -⟩ := run_sound started polls
  refine ⟨serial.serial, fun e member => ⟨serial.connected e member, serial.whole e member⟩, ?_⟩
  intro id
  by_cases known : id < w'.connections.length
  · exact (List.sublist_append_left _ _).trans (serial.drawn id known)
  · have none : w'.requests id = [] := by
      apply requests_none
      rintro e member rfl
      exact known (serial.connected e member)
    rw [none]
    exact List.nil_sublist _

/-- In every state of every run the server watches exactly its open descriptors, none of them is
above `fdmax`, and they name different connections. It stops only in a turn in which `select` fails,
in which a client that was ready is connected and silent, or in which the descriptor of a client that
is accepted does not fit in a set. -/
theorem run_watched (started : start sys version uninit query = .ok w) (polls : List Poll) :
    (w.run sys polls).2.Watched ∧
      ∀ e, (w.run sys polls).1 = .error e → ∃ before poll after, polls = before ++ poll :: after ∧
        (w.run sys before).1 = .ok () ∧ Stops sys poll e (w.run sys polls).2 := by
  obtain ⟨⟨watched, -⟩, stops⟩ := run_sound started polls
  exact ⟨watched, stops⟩

end

def writeSeven : List Byte := [0, 1, 0, 0, 0, 6, 0xFF, 0x06, 0, 0, 0, 7]

def readFirst : List Byte := [0, 9, 0, 0, 0, 6, 0xFF, 0x03, 0, 0, 0, 1]

def twoClients : System where
  others := {0, 1, 2}
  limit := 16
  sends
    | 0 => carryWhole 0 writeSeven ++ [.hangup]
    | _ => carryWhole 0 (readFirst ++ readFirst)

def twoClientsPolls (turns : Nat) : List Poll :=
  let listening : Poll := ⟨.ok (· = 3), true⟩
  [listening, listening] ++ List.replicate turns ⟨.ok fun _ => true, false⟩

theorem run_serial_twoClients :
    ∃ w, start twoClients libmodbusVersion (fun _ => 0) (fun _ => 0) = .ok w ∧
      let w' := (w.run twoClients (twoClientsPolls 3)).2
      w'.executed = [(0, writeSeven), (1, readFirst), (1, readFirst)] ∧
      w'.serialServer = w'.executed.foldl (SerialServer.execute libmodbusVersion)
        (.fresh initialMapping) ∧
      (∀ e ∈ w'.executed, e.1 < w'.connections.length ∧
        Delimits .tcp .indication (ofBytes e.2) e.2.length) ∧
      ∀ id, List.Sublist ((w'.requests id).flatten.map .item)
        ((twoClients.sends id).flatMap Arrival.signals) :=
  ⟨_, rfl, by decide +kernel, run_serial rfl (twoClientsPolls 3)⟩

theorem run_watched_twoClients :
    ∃ w, start twoClients libmodbusVersion (fun _ => 0) (fun _ => 0) = .ok w ∧
      (w.run twoClients (twoClientsPolls 3)).1 = .error .hang ∧
      (w.run twoClients (twoClientsPolls 3)).2.Watched ∧
      ∃ before poll after, twoClientsPolls 3 = before ++ poll :: after ∧
        (w.run twoClients before).1 = .ok () ∧
        Stops twoClients poll .hang (w.run twoClients (twoClientsPolls 3)).2 := by
  refine ⟨_, rfl, by decide +kernel, ?_, ?_⟩
  · exact (run_watched rfl (twoClientsPolls 3)).1
  · exact (run_watched rfl (twoClientsPolls 3)).2 .hang (by decide +kernel)

end ManyUp
end ModbusNet
