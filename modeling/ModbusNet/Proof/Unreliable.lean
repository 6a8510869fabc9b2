import ModbusNet.Model.Unreliable
import ModbusNet.Proof.Descriptors
import ModbusNet.Proof.EndToEnd
import ModbusNet.Proof.Intake
import ModbusNet.Proof.Splitting

namespace ModbusNet

/-! ## Devices that contain others -/

section
variable {σ τ : Type} {dev : Device σ} {dev' : Device τ}

/-- The states of one device are states of another, on which its reading calls do the same. -/
structure Embeds (dev : Device σ) (dev' : Device τ) (embed : σ → τ) : Prop where
  select : ∀ n l, dev'.select n (embed l) = ((dev.select n l).1, embed (dev.select n l).2)
  recv : ∀ n l, dev'.recv n (embed l) = ((dev.recv n l).1, embed (dev.recv n l).2)

def Conn.embed (embed : σ → τ) (c : Conn σ) : Conn τ := ⟨c.ctx, embed c.line⟩

theorem receiveLoop_embeds {embed : σ → τ} (embeds : Embeds dev dev' embed) (msgType : MsgType)
    (fuel : Nat) (step : Step) (n : Nat) (msg msg' : List Byte) (c c' : Conn σ)
    (result : receiveLoop dev msgType fuel step n msg c = (.ok (), msg', c')) :
    receiveLoop dev' msgType fuel step n msg (c.embed embed) = (.ok (), msg', c'.embed embed) := by
  induction fuel generalizing step n msg c with
  | zero => simp [receiveLoop] at result
  | succ fuel ih =>
      rw [receiveLoop] at result ⊢
      split at result
      · rename_i finished
        rw [if_pos finished]
        obtain ⟨rfl, rfl⟩ : msg = msg' ∧ c = c' := by simpa using result
        rfl
      · rename_i unfinished
        rw [if_neg unfinished, show (c.embed embed).line = embed c.line from rfl, embeds.select]
        cases selected : dev.select n c.line with
        | mk ready line =>
            rw [selected] at result
            cases ready with
            | error e => cases result
            | ok _ =>
                simp only at result ⊢
                rw [embeds.recv]
                cases received : dev.recv n line with
                | mk rc line' =>
                    rw [received] at result
                    cases rc with
                    | error e => cases result
                    | ok bytes =>
                        simp only at result ⊢
                        split at result
                        · cases result
                        · rename_i some
                          rw [if_neg some]
                          split at result
                          · rename_i more
                            rw [if_pos more]
                            exact ih _ _ _ { c with line := line' } result
                          · rename_i complete
                            rw [if_neg complete]
                            have same : (c.embed embed).ctx.backend = c.ctx.backend := rfl
                            rw [same]
                            cases next : nextStep c.ctx.backend msgType step (msg ++ bytes.val) with
                            | error e =>
                                rw [next] at result
                                cases result
                            | ok todo =>
                                rw [next] at result
                                exact ih _ _ _ { c with line := line' } result

theorem modbusReceiveMsg_embeds {embed : σ → τ} (embeds : Embeds dev dev' embed) {msgType : MsgType}
    {c c' : Conn σ} {n : Int} {msg : List Byte}
    (result : modbusReceiveMsg dev msgType c = (.ok n, msg, c')) :
    modbusReceiveMsg dev' msgType (c.embed embed) = (.ok n, msg, c'.embed embed) := by
  rw [modbusReceiveMsg] at result ⊢
  split at result
  · cases result
  · rename_i connected
    rw [if_neg (show ¬ ¬ (c.embed embed).ctx.isConnected from connected)]
    cases looped : receiveLoop dev msgType receiveFuel .stepFunction (c.ctx.backend.headerLength + 1)
        [] c with
    | mk outcome rest =>
        obtain ⟨msg₁, c₁⟩ := rest
        rw [looped] at result
        cases outcome with
        | error e => cases result
        | ok _ =>
            have looped' : receiveLoop dev' msgType receiveFuel .stepFunction
                ((c.embed embed).ctx.backend.headerLength + 1) [] (c.embed embed) = _ :=
              receiveLoop_embeds embeds _ _ _ _ _ _ _ _ looped
            rw [looped']
            simp only [Prod.mk.injEq] at result ⊢
            obtain ⟨accepted, rfl, same⟩ := result
            have accepted' : (checkIntegrity dev' (c₁.embed embed) msg₁).1 = .ok n := by
              rw [checkIntegrity_fst, ← accepted, checkIntegrity_fst]
              rfl
            have kept := (checkIntegrity_ok dev (Prod.ext accepted same)).1
            have kept' := (checkIntegrity_ok dev' (Prod.ext accepted' rfl)).1
            refine ⟨accepted', rfl, ?_⟩
            rw [kept]
            exact kept'

end

/-! ## The link between two exchanges -/

section
variable (passage : Nat → Passage) (dial : Nat → Except Errno Nat) (retries : Nat)
  (toServer toClient : Carrier)

theorem linkDevice_embeds {π : Type} (react : React π) (dial : Nat → Except Errno Nat)
    (retries dials : Nat) :
    Embeds (lineDevice react) (linkDevice react dial retries) fun line => ⟨line, true, dials⟩ where
  select := fun _ _ => rfl
  recv := fun _ _ => rfl

theorem signals_eq_nil {α : Type} {s s' : List (Signal α)} (shorter : List.Sublist s' s)
    (silent : s = []) : s' = [] := by
  rw [silent] at shorter
  exact List.sublist_nil.mp shorter

/-- On a link on which nothing arrives the library's calls leave the peer as it is, and the
descriptor open when the context holds it. -/
theorem linkDevice_maintains {π : Type} (react : React π) (dial : Nat → Except Errno Nat)
    (retries : Nat) (peer : π) :
    (linkDevice react dial retries).Maintains fun connected l =>
      connected = l.isOpen ∧ l.line.incoming.signals = [] ∧ l.line.peer = peer where
  select := by
    rintro n b ⟨line, isOpen, dials⟩ ⟨agree, silent, same⟩
    have waited := (Incoming.wait_signals line.incoming).1
    cases isOpen with
    | false => exact ⟨agree, silent, same⟩
    | true =>
        simp only [linkDevice, if_true, lineSelect]
        split <;> rename_i found <;> rw [found] at waited <;>
          exact ⟨agree, signals_eq_nil waited silent, same⟩
  recv := by
    rintro n b ⟨line, isOpen, dials⟩ ⟨agree, silent, same⟩
    cases isOpen with
    | false => exact ⟨agree, silent, same⟩
    | true => exact ⟨agree, signals_eq_nil (Incoming.take_signals n _) silent, same⟩
  recvDontwait := by
    rintro n b ⟨line, isOpen, dials⟩ ⟨agree, silent, same⟩
    cases isOpen with
    | false => exact ⟨agree, silent, same⟩
    | true =>
        simp only [linkDevice, if_true, lineDevice]
        split
        · exact ⟨agree, silent, same⟩
        · exact ⟨agree, signals_eq_nil (Incoming.take_signals n _) silent, same⟩
  tcflush := by
    rintro b l ⟨agree, silent, same⟩
    exact ⟨agree, signals_eq_nil (List.sublist_append_right _ _) silent, same⟩
  sleep := fun _ _ held => held
  close := by
    rintro l ⟨-, -, same⟩
    exact ⟨rfl, rfl, same⟩
  connected := by
    rintro l s l' ⟨-, silent, same⟩ connected
    simp only [linkDevice] at connected
    split at connected
    · obtain ⟨⟨rfl⟩, rfl⟩ := Prod.mk.inj connected
      exact ⟨Int.natCast_nonneg _, rfl, silent, same⟩
    · cases (Prod.mk.inj connected).1
  unconnected := by
    rintro l e l' ⟨agree, silent, same⟩ refused
    simp only [linkDevice] at refused
    split at refused
    · cases (Prod.mk.inj refused).1
    · obtain ⟨-, rfl⟩ := Prod.mk.inj refused
      exact ⟨agree, silent, same⟩

structure AtRest (c : Conn (Link Remote)) : Prop where
  agree : c.ctx.isConnected = c.line.isOpen
  silent : c.line.line.incoming.signals = []
  ready : c.line.line.peer.server.conn.Ready c.ctx.backend c.ctx.slave
  unicast : c.ctx.backend = .rtu → 1 ≤ c.ctx.slave ∧ c.ctx.slave ≤ 247

theorem AtRest.has {c : Conn (Link Remote)} (idle : AtRest c) :
    c.Has fun connected l => connected = l.isOpen ∧ l.line.incoming.signals = [] ∧
      l.line.peer = c.line.line.peer :=
  ⟨idle.agree, idle.silent, rfl⟩

theorem AtRest.kept {c c' : Conn (Link Remote)} (idle : AtRest c) (alike : c.ctx.Alike c'.ctx)
    (agree : c'.ctx.isConnected = c'.line.isOpen) (silent : c'.line.line.incoming.signals = [])
    (same : c'.line.line.peer.server = c.line.line.peer.server) : AtRest c' where
  agree := agree
  silent := silent
  ready := by
    rw [same, alike.backend, alike.slave]
    exact idle.ready
  unicast := by
    rw [alike.backend, alike.slave]
    exact idle.unicast

structure SentOn (passage : Nat → Passage) (toServer toClient : Carrier) (msg : List Byte)
    (c c₁ c₂ : Conn (Link Remote)) (arrivals : List (Arrival Byte)) : Prop where
  idle : AtRest c₁
  alike : c.ctx.Alike c₁.ctx
  server : c₁.line.line.peer.server = c.line.line.peer.server
  open_ : c₁.line.isOpen = true
  reacts : remoteReact passage toServer toClient msg c₁.line.line.peer =
    (.ok msg.length, arrivals, c₂.line.line.peer)
  result : c₂ = Conn.embed (fun line => ⟨line, true, c₁.line.dials⟩) ⟨c₁.ctx,
    ⟨{ c₁.line.line.incoming with future := c₁.line.line.incoming.future ++ arrivals },
      c₂.line.line.peer⟩⟩

theorem remoteReact_result (msg : List Byte) (r : Remote) :
    (∃ arrivals r', remoteReact passage toServer toClient msg r = (.ok msg.length, arrivals, r')) ∨
      ∃ e r', remoteReact passage toServer toClient msg r = (.error e, [], r') ∧
        r'.server = r.server := by
  unfold remoteReact
  cases passage r.attempts with
  | answered => exact .inl ⟨_, _, rfl⟩
  | unanswered => exact .inl ⟨_, _, rfl⟩
  | lost => exact .inl ⟨_, _, rfl⟩
  | unsent e => exact .inr ⟨e, _, rfl, rfl⟩

theorem sendLoop_idle (msg : List Byte) (fuel : Nat) (c : Conn (Link Remote)) (idle : AtRest c) :
    let done := sendLoop (unreliableDevice passage dial retries toServer toClient) msg fuel c
    ((∃ e, done.1 = .error e) ∧ AtRest done.2 ∧ c.ctx.Alike done.2.ctx ∧
        done.2.line.line.peer.server = c.line.line.peer.server) ∨
      done.1 = .ok msg.length ∧
        ∃ c₁ arrivals, SentOn passage toServer toClient msg c c₁ done.2 arrivals := by
  induction fuel generalizing c with
  | zero => exact .inl ⟨⟨_, rfl⟩, idle, .refl _, rfl⟩
  | succ fuel ih =>
      set dev := unreliableDevice passage dial retries toServer toClient with dev_def
      -- After a failure the link is as idle as before.
      have again : ∀ e line, dev.send msg c.line = (.error e, line) →
          line.isOpen = c.line.isOpen → line.line.incoming.signals = [] →
          line.line.peer.server = c.line.line.peer.server →
          let done := sendLoop dev msg (fuel + 1) c
          ((∃ e, done.1 = .error e) ∧ AtRest done.2 ∧ c.ctx.Alike done.2.ctx ∧
              done.2.line.line.peer.server = c.line.line.peer.server) ∨
            done.1 = .ok msg.length ∧
              ∃ c₁ arrivals, SentOn passage toServer toClient msg c c₁ done.2 arrivals := by
        intro e line failed agree silent same
        have idle' : AtRest { c with line } :=
          idle.kept (.refl _) (by rw [agree]; exact idle.agree) silent same
        have recovered : ∃ c', (if c.ctx.linkRecovery then recoverSend dev e { c with line } else
            { c with line }) = c' ∧ AtRest c' ∧ c.ctx.Alike c'.ctx ∧
            c'.line.line.peer.server = c.line.line.peer.server := by
          refine ⟨_, rfl, ?_⟩
          split
          · rename_i on
            have alike := (recoverSend_preserves (dev.keeps_true.preserves { c with line }) e
              { c with line } on (.refl _)).1
            obtain ⟨agree', silent', same'⟩ := recoverSend_preserves
              (linkDevice_maintains _ _ _ _).preserves e { c with line } on idle'.has
            have server : (recoverSend dev e { c with line }).line.line.peer.server =
                c.line.line.peer.server := (congrArg Remote.server same').trans same
            exact ⟨idle.kept alike agree' silent' server, alike, server⟩
          · exact ⟨idle', .refl _, same⟩
        obtain ⟨c', recovers, idle'', alike, server⟩ := recovered
        intro done
        have run : sendLoop dev msg (fuel + 1) c = done := rfl
        rw [sendLoop, failed] at run
        simp only [recovers] at run
        split at run
        · rcases ih c' idle'' with ⟨error, idle₁, alike₁, server₁⟩ | ⟨sent, c₁, arrivals, out⟩
          · rw [run] at error idle₁ alike₁ server₁
            exact .inl ⟨error, idle₁, alike.trans alike₁, server₁.trans server⟩
          · rw [run] at sent out
            exact .inr ⟨sent, c₁, arrivals, out.idle, alike.trans out.alike,
              out.server.trans server, out.open_, out.reacts, out.result⟩
        · rw [← run]
          exact .inl ⟨⟨_, rfl⟩, idle'', alike, server⟩
      obtain ⟨ctx, ⟨line, isOpen, dials⟩⟩ := c
      cases isOpen with
      | false => exact again .ebadf _ rfl rfl idle.silent rfl
      | true =>
          rcases remoteReact_result passage toServer toClient msg line.peer with
            ⟨arrivals, r', reacts⟩ | ⟨e, r', reacts, same⟩
          · set incoming := { line.incoming with future := line.incoming.future ++ arrivals }
            have sent : dev.send msg ⟨line, true, dials⟩ =
                (.ok msg.length, ⟨⟨incoming, r'⟩, true, dials⟩) := by
              simp only [dev_def, linkDevice, lineDevice, reacts, if_true, incoming]
            intro done
            have run : sendLoop dev msg (fuel + 1) ⟨ctx, ⟨line, true, dials⟩⟩ = done := rfl
            rw [sendLoop, sent] at run
            rw [← run]
            exact .inr ⟨rfl, ⟨ctx, ⟨line, true, dials⟩⟩, arrivals, idle, .refl _, rfl, rfl, reacts, rfl⟩
          · have failed : dev.send msg ⟨line, true, dials⟩ =
                (.error e, ⟨⟨line.incoming, r'⟩, true, dials⟩) := by
              simp only [dev_def, linkDevice, lineDevice, reacts, if_true, List.append_nil]
            exact again e _ failed rfl idle.silent same

theorem sendFrame_idle (msg : List Byte) (c : Conn (Link Remote)) (idle : AtRest c) :
    let done := sendFrame (unreliableDevice passage dial retries toServer toClient) msg c
    ((∃ e, done.1 = .error e) ∧ AtRest done.2 ∧ c.ctx.Alike done.2.ctx ∧
        done.2.line.line.peer.server = c.line.line.peer.server) ∨
      done.1 = .ok msg.length ∧
        ∃ c₁ arrivals, SentOn passage toServer toClient msg c c₁ done.2 arrivals := by
  have looped := sendLoop_idle passage dial retries toServer toClient msg (retries + 1) c idle
  intro done
  have run : sendFrame (unreliableDevice passage dial retries toServer toClient) msg c = done := rfl
  rw [sendFrame] at run
  rw [show (unreliableDevice passage dial retries toServer toClient).retries = retries from rfl] at run
  cases sent : sendLoop (unreliableDevice passage dial retries toServer toClient) msg (retries + 1) c with
  | mk result c' =>
      rw [sent] at looped run
      cases result with
      | error e =>
          rw [← run]
          rcases looped with failed | ⟨whole, -⟩
          · exact .inl failed
          · cases whole
      | ok rc =>
          rcases looped with ⟨⟨e, failed⟩, -⟩ | ⟨whole, out⟩
          · cases failed
          · obtain rfl : rc = msg.length := Except.ok.inj whole
            simp only [ne_eq, not_true_eq_false, and_false, if_false] at run
            rw [← run]
            exact .inr ⟨rfl, out⟩

/-! ## One exchange -/

theorem modbusReceiveMsg_lost (ctx : Ctx) (incoming : Incoming Byte) (peer : Remote) (dials : Nat)
    (connected : ctx.isConnected) (silent : incoming.signals = [.silence]) :
    ∃ c, modbusReceiveMsg (unreliableDevice passage dial retries toServer toClient) .confirmation
        ⟨ctx, ⟨⟨incoming, peer⟩, true, dials⟩⟩ = (.error (.errno .etimedout), [], c) ∧
      ctx.Alike c.ctx ∧ c.Has fun connected l =>
        connected = l.isOpen ∧ l.line.incoming.signals = [] ∧ l.line.peer = peer := by
  set dev := unreliableDevice passage dial retries toServer toClient with dev_def
  obtain ⟨future, waited, silent'⟩ := Incoming.wait_silence _ _ silent
  set c : Conn (Link Remote) := ⟨ctx, ⟨⟨⟨[], future⟩, peer⟩, true, dials⟩⟩
  have selected : dev.select (ctx.backend.headerLength + 1) ⟨⟨incoming, peer⟩, true, dials⟩ =
      (.error (.errno .etimedout), c.line) := by
    simp only [dev_def, linkDevice, lineSelect, waited, if_true, c]
  refine ⟨recoverSelect dev (.errno .etimedout) c, ?_,
    (recoverSelect_preserves (dev.keeps_true.preserves c) _ c (.refl c)).1,
    recoverSelect_preserves (linkDevice_maintains _ _ _ peer).preserves _ c ⟨connected, silent', rfl⟩⟩
  rw [modbusReceiveMsg, if_neg (not_not.mpr connected), receiveFuel, receiveLoop,
    if_neg (by omega), selected]

structure Rests (mapping : ModbusMapping) (c c' : Conn (Link Remote)) : Prop where
  idle : AtRest c'
  mapped : c'.line.line.peer.server.mapping = mapping
  version : c'.line.line.peer.server.conn.ctx.version = c.line.line.peer.server.conn.ctx.version

section
variable {passage dial retries toServer toClient}
variable {msg : List Byte} {c c₁ c₂ : Conn (Link Remote)} {arrivals : List (Arrival Byte)}
  (out : SentOn passage toServer toClient msg c c₁ c₂ arrivals)
include out

theorem SentOn.awaits :
    ∃ incoming : Incoming Byte, c₂ = ⟨c₁.ctx, ⟨⟨incoming, c₂.line.line.peer⟩, true, c₁.line.dials⟩⟩ ∧
      incoming.signals = arrivals.flatMap Arrival.signals ∧ c₁.ctx.isConnected := by
  refine ⟨_, out.result, ?_, ?_⟩
  · have silent := out.idle.silent
    simp only [Incoming.signals, List.append_eq_nil_iff] at silent
    simp only [Incoming.signals, List.flatMap_append, silent.1, silent.2, List.nil_append]
  · rw [out.idle.agree]
    exact out.open_

theorem SentOn.idle_after {c₃ : Conn (Link Remote)} (alike : c₂.ctx.Alike c₃.ctx)
    (has : c₃.Has fun connected l =>
      connected = l.isOpen ∧ l.line.incoming.signals = [] ∧ l.line.peer = c₂.line.line.peer)
    (ready : c₂.line.line.peer.server.conn.Ready c.ctx.backend c.ctx.slave) : AtRest c₃ := by
  have same : c₂.ctx = c₁.ctx := by
    rw [out.result]
    rfl
  have alike₃ : c₁.ctx.Alike c₃.ctx := by
    rw [← same]
    exact alike
  obtain ⟨agree, silent, peer⟩ := has
  constructor
  · exact agree
  · exact silent
  · rw [peer, alike₃.backend, alike₃.slave, out.alike.backend, out.alike.slave]
    exact ready
  · rw [alike₃.backend, alike₃.slave]
    exact out.idle.unicast

theorem SentOn.answered (tId : Word) (r : Request) (response : Response)
    (known : r.function ∈ knownFunctions) (expected : r.Expected response) (answer : r.Answer response)
    (req : List Byte) (framed : sendMsgPre c.ctx.backend req = msg)
    (request : msg = adu c.ctx.backend tId (loByte c.ctx.slave) r.encode)
    (sent : sendFrame (unreliableDevice passage dial retries toServer toClient) msg c =
      (.ok msg.length, c₂))
    (ready : c₂.line.line.peer.server.conn.Ready c.ctx.backend c.ctx.slave)
    (carried : arrivals.flatMap Arrival.signals =
      (adu c.ctx.backend tId (loByte c.ctx.slave) response.encode).map .item) :
    ∃ rsp c₃, AtRest c₃ ∧ c₃.line.line.peer = c₂.line.line.peer ∧
      Contains c₃.ctx.backend rsp response.encode ∧
      exchange (unreliableDevice passage dial retries toServer toClient) c req =
        (match response.judged r with
          | .ok n => .ok (n, some rsp)
          | .error (e, _) => .error (.errno e), c₃) := by
  set dev := unreliableDevice passage dial retries toServer toClient with dev_def
  set react := remoteReact passage toServer toClient with react_def
  set reply := adu c.ctx.backend tId (loByte c.ctx.slave) response.encode with reply_def
  obtain ⟨incoming, awaits, signals, connected⟩ := out.awaits
  have delimits : Delimits c₁.ctx.backend .confirmation (ofBytes reply) reply.length := by
    rw [out.alike.backend]
    exact (adu_carries _ tId _ response.encode).delimits (answer.whole (known_small known))
  obtain ⟨incoming', silent', received⟩ := modbusReceiveMsg_frame react .confirmation reply []
    ⟨c₁.ctx, ⟨incoming, c₂.line.line.peer⟩⟩ connected delimits
    (by rw [List.append_nil]; exact signals.trans carried)
  set line : Line Remote := ⟨incoming', c₂.line.line.peer⟩
  have unicast : c.ctx.backend = .rtu → 1 ≤ c.ctx.slave ∧ c.ctx.slave ≤ 247 := by
    rw [← out.alike.backend, ← out.alike.slave]
    exact out.idle.unicast
  have accepts : checkIntegrity (lineDevice react) ⟨c₁.ctx, line⟩ reply =
      (.ok reply.length, ⟨c₁.ctx, line⟩) := by
    apply checkIntegrity_accepts
    have accepted := adu_accepted c₁.ctx c.ctx.backend tId c.ctx.slave response.encode unicast
      fun _ => out.alike.slave
    rw [← out.alike.backend] at accepted
    rw [reply_def, ← out.alike.backend]
    exact accepted
  have received' : modbusReceiveMsg (lineDevice react) .confirmation
      ⟨c₁.ctx, ⟨incoming, c₂.line.line.peer⟩⟩ = (.ok reply.length, reply, ⟨c₁.ctx, line⟩) := by
    rw [received]
    exact congrArg (fun (result : Except Failure Int × Conn (Line Remote)) =>
      (result.1, reply, result.2)) accepts
  have embedded := modbusReceiveMsg_embeds (linkDevice_embeds react dial retries c₁.line.dials) received'
  set c₃ : Conn (Link Remote) := ⟨c₁.ctx, ⟨line, true, c₁.line.dials⟩⟩
  have same : c₂.ctx = c₁.ctx := by rw [awaits]
  have alike : c₂.ctx.Alike c₃.ctx := by
    rw [same]
    exact .refl _
  have arrived : modbusReceiveMsg dev .confirmation c₂ = (.ok reply.length, reply, c₃) := by
    rw [awaits]
    exact embedded
  have backend : c₃.ctx.backend = c.ctx.backend := out.alike.backend
  rw [request] at framed sent
  obtain ⟨rsp, contains, exchanged⟩ := exchange_judged dev c c₂ c₃ tId r response known expected req
    framed sent arrived backend
  refine ⟨rsp, c₃, out.idle_after alike ⟨connected, silent', rfl⟩ ready, rfl, ?_, exchanged⟩
  rw [backend]
  exact contains

theorem SentOn.unanswered (req : List Byte) (framed : sendMsgPre c.ctx.backend req = msg)
    (nonempty : msg ≠ [])
    (sent : sendFrame (unreliableDevice passage dial retries toServer toClient) msg c =
      (.ok msg.length, c₂))
    (ready : c₂.line.line.peer.server.conn.Ready c.ctx.backend c.ctx.slave)
    (quiet : arrivals.flatMap Arrival.signals = [.silence]) :
    ∃ c₃, AtRest c₃ ∧ c₃.line.line.peer = c₂.line.line.peer ∧
      exchange (unreliableDevice passage dial retries toServer toClient) c req =
        (.error (.errno .etimedout), c₃) := by
  obtain ⟨incoming, awaits, signals, connected⟩ := out.awaits
  obtain ⟨c₃, received, alike, has⟩ := modbusReceiveMsg_lost passage dial retries toServer toClient
    c₁.ctx incoming c₂.line.line.peer c₁.line.dials connected (signals.trans quiet)
  rw [← awaits] at received
  have same : c₂.ctx = c₁.ctx := by rw [awaits]
  rw [← same] at alike
  have positive : (0 : Int) < msg.length := by
    have := List.length_pos_iff.mpr nonempty
    omega
  refine ⟨c₃, out.idle_after alike has ready, has.2.2, ?_⟩
  rw [exchange, framed, sent]
  simp only
  rw [if_pos positive, received]

end

theorem AtRest.nextRequest {c : Conn (Link Remote)} (idle : AtRest c) :
    AtRest { c with ctx := c.ctx.nextRequest } := by
  obtain ⟨agree, silent, ready, unicast⟩ := idle
  have same : c.ctx.nextRequest.isConnected = c.ctx.isConnected := by
    unfold Ctx.nextRequest
    split <;> rfl
  constructor
  · exact same.trans agree
  · exact silent
  · rw [nextRequest_backend, nextRequest_slave]
    exact ready
  · rw [nextRequest_backend, nextRequest_slave]
    exact unicast

section
variable {toServer toClient}
variable (outward : Lossless toServer) (homeward : Lossless toClient)
include outward homeward

/-- An exchange is served and confirmed, or served and reported as a timeout, or not served and
reported as an error. -/
theorem exchange_passes (c : Conn (Link Remote)) (idle : AtRest c) (tId : Word) (r : Request)
    (known : r.function ∈ knownFunctions) (encodable : r.Encodable)
    (fits : r.encode.length ≤ maxPduLength) (req : List Byte)
    (framed : sendMsgPre c.ctx.backend req = adu c.ctx.backend tId (loByte c.ctx.slave) r.encode)
    (response : Response) (mapping : ModbusMapping)
    (served : r.serve c.line.line.peer.server.conn.ctx.version c.line.line.peer.server.mapping =
      .ok ⟨response, false, mapping⟩)
    (expected : r.Expected response) (answer : r.Answer response) :
    let done := exchange (unreliableDevice passage dial retries toServer toClient) c req
    (Rests mapping c done.2 ∧
      ((∃ rsp, Contains done.2.ctx.backend rsp response.encode ∧
          done.1 = match response.judged r with
            | .ok n => .ok (n, some rsp)
            | .error (e, _) => .error (.errno e)) ∨
        done.1 = .error (.errno .etimedout))) ∨
    Rests c.line.line.peer.server.mapping c done.2 ∧ ∃ e, done.1 = .error e := by
  set dev := unreliableDevice passage dial retries toServer toClient with dev_def
  set msg := adu c.ctx.backend tId (loByte c.ctx.slave) r.encode with msg_def
  intro done
  have nonempty : msg ≠ [] := (adu_carries c.ctx.backend tId (loByte c.ctx.slave) r.encode).nonempty
  cases sent : sendFrame dev msg c with
  | mk result c₂ =>
      have sending := sendFrame_idle passage dial retries toServer toClient msg c idle
      rw [sent] at sending
      rcases sending with ⟨⟨e, failed⟩, idle₂, -, server⟩ | ⟨whole, c₁, arrivals, out⟩
      · obtain rfl : result = .error e := failed
        have exchanged : exchange dev c req = (.error e, c₂) := by
          rw [exchange, framed, sent]
        refine .inr ?_
        rw [show done = (.error e, c₂) from exchanged]
        exact ⟨⟨idle₂, congrArg Server.mapping server, congrArg (·.conn.ctx.version) server⟩, e, rfl⟩
      · obtain rfl : result = .ok msg.length := whole
        set s := c.line.line.peer.server
        set attempt := c₁.line.line.peer.attempts
        have ready₁ := out.idle.ready
        rw [out.alike.backend, out.alike.slave, out.server] at ready₁
        have unicast := out.idle.unicast
        rw [out.alike.backend, out.alike.slave] at unicast
        obtain ⟨replied, mapped, ready, version⟩ := s.serve_answers c.ctx.backend tId c.ctx.slave r
          ready₁ unicast encodable fits (toServer attempt msg) (outward _ _) response mapping served
        have reacts := out.reacts
        rw [remoteReact, out.server] at reacts
        have executed : c₂.line.line.peer.server = (s.hear (toServer attempt msg)).serve →
            ∀ c₃, AtRest c₃ → c₃.line.line.peer = c₂.line.line.peer → Rests mapping c c₃ := by
          intro hears c₃ idle₃ same
          have server : c₃.line.line.peer.server = (s.hear (toServer attempt msg)).serve := by
            rw [same]
            exact hears
          exact ⟨idle₃, by rw [server]; exact mapped, by rw [server]; exact version⟩
        cases reaction : passage attempt with
        | answered =>
            simp only [attempt, reaction, Prod.mk.injEq] at reacts
            obtain ⟨-, carried, hears⟩ := reacts
            have hears' : c₂.line.line.peer.server = (s.hear (toServer attempt msg)).serve :=
              (congrArg Remote.server hears).symm
            have arrives : arrivals.flatMap Arrival.signals =
                (adu c.ctx.backend tId (loByte c.ctx.slave) response.encode).map .item := by
              rw [← carried, replied, List.flatMap_singleton]
              exact homeward _ _
            rw [← hears'] at ready
            obtain ⟨rsp, c₃, idle₃, same, contains, exchanged⟩ := out.answered tId r response known
              expected answer req framed rfl sent ready arrives
            rw [show done = _ from exchanged]
            exact .inl ⟨executed hears' c₃ idle₃ same, .inl ⟨rsp, contains, rfl⟩⟩
        | unanswered =>
            simp only [attempt, reaction, Prod.mk.injEq] at reacts
            obtain ⟨-, rfl, hears⟩ := reacts
            have hears' : c₂.line.line.peer.server = (s.hear (toServer attempt msg)).serve :=
              (congrArg Remote.server hears).symm
            rw [← hears'] at ready
            obtain ⟨c₃, idle₃, same, exchanged⟩ := out.unanswered req framed nonempty sent ready rfl
            rw [show done = _ from exchanged]
            exact .inl ⟨executed hears' c₃ idle₃ same, .inr rfl⟩
        | lost =>
            simp only [attempt, reaction, Prod.mk.injEq] at reacts
            obtain ⟨-, rfl, unheard⟩ := reacts
            have unheard' : c₂.line.line.peer.server = s := by
              rw [← unheard]
            have ready₂ : c₂.line.line.peer.server.conn.Ready c.ctx.backend c.ctx.slave := by
              rw [unheard']
              exact ready₁
            obtain ⟨c₃, idle₃, same, exchanged⟩ := out.unanswered req framed nonempty sent ready₂ rfl
            have server : c₃.line.line.peer.server = s := by
              rw [same]
              exact unheard'
            rw [show done = _ from exchanged]
            exact .inr ⟨⟨idle₃, congrArg Server.mapping server,
              congrArg (·.conn.ctx.version) server⟩, _, rfl⟩
        | unsent e =>
            simp only [attempt, reaction] at reacts
            cases (Prod.mk.inj reacts).1

theorem ClientOp.run_passes (op : ClientOp) (inRange : op.InRange) (c : Conn (Link Remote))
    (idle : AtRest c) (valid : c.line.line.peer.server.mapping.WellFormed)
    (binary : op.ReadsBits → c.line.line.peer.server.mapping.Binary) :
    let effect := op.effect c.line.line.peer.server.conn.ctx.version c.line.line.peer.server.mapping
    ∃ rc dest c', op.run (unreliableDevice passage dial retries toServer toClient) c = (rc, dest, c') ∧
      (Rests effect.mapping c c' ∧ rc = effect.rc ∧ dest = effect.dest ∨
        Rests effect.mapping c c' ∧ rc = .error (.errno .etimedout) ∧ dest = op.dest ∨
        Rests c.line.line.peer.server.mapping c c' ∧ (∃ e, rc = .error e) ∧ dest = op.dest) := by
  obtain ⟨response, served, expected, concludes⟩ :=
    op.served c.line.line.peer.server.conn.ctx.version inRange valid binary
  have framed := op.frame_adu c.ctx
  rw [ClientOp.frame, ← nextRequest_backend, ← nextRequest_slave] at framed
  have passes := exchange_passes passage dial retries outward homeward _ idle.nextRequest _
    op.request op.request_known (op.request_encodable inRange) (op.request_fits inRange) _ framed
    response _ served expected (op.request.serve_answer _ _ _ served)
  intro effect
  rw [op.run_eq _ _ inRange]
  cases exchanged : exchange (unreliableDevice passage dial retries toServer toClient)
      { c with ctx := c.ctx.nextRequest } (requestHeader c.ctx.nextRequest ++ op.request.encode) with
  | mk result c' =>
      rw [exchanged] at passes
      have numbered : ∀ {mb}, Rests mb { c with ctx := c.ctx.nextRequest } c' → Rests mb c c' :=
        fun rests => ⟨rests.idle, rests.mapped, rests.version⟩
      rcases passes with ⟨rests, ⟨rsp, contains, judged⟩ | timeout⟩ | ⟨rests, e, failed⟩
      · have concluded := concludes _ rsp contains
        refine ⟨effect.rc, effect.dest, c', ?_, .inl ⟨numbered rests, rfl, rfl⟩⟩
        simp only at judged
        rw [judged]
        cases outcome : response.judged op.request with
        | error failed =>
            rw [outcome] at concluded
            simp only [finish, effect, concluded.1, concluded.2.1]
        | ok n =>
            rw [outcome] at concluded
            simp only [finish, effect, concluded.1, concluded.2]
      · obtain rfl : result = _ := timeout
        exact ⟨_, _, c', rfl, .inr (.inl ⟨numbered rests, rfl, rfl⟩)⟩
      · obtain rfl : result = _ := failed
        exact ⟨_, _, c', rfl, .inr (.inr ⟨numbered rests, ⟨e, rfl⟩, rfl⟩)⟩

end

/-! ## Every sequence of operations -/

inductive Executions (version : VersionString) :
    ModbusMapping → List ClientOp → List (Except Failure Int × Dest) → ModbusMapping → Prop
  | done (mb : ModbusMapping) : Executions version mb [] [] mb
  | executed {mb mb' : ModbusMapping} {ops : List ClientOp} {results : List (Except Failure Int × Dest)}
      (op : ClientOp) (more : Executions version (op.effect version mb).mapping ops results mb') :
      Executions version mb (op :: ops)
        (((op.effect version mb).rc, (op.effect version mb).dest) :: results) mb'
  | unanswered {mb mb' : ModbusMapping} {ops : List ClientOp} {results : List (Except Failure Int × Dest)}
      (op : ClientOp) (more : Executions version (op.effect version mb).mapping ops results mb') :
      Executions version mb (op :: ops) ((.error (.errno .etimedout), op.dest) :: results) mb'
  | unexecuted {mb mb' : ModbusMapping} {ops : List ClientOp} {results : List (Except Failure Int × Dest)}
      (op : ClientOp) (e : Failure) (more : Executions version mb ops results mb') :
      Executions version mb (op :: ops) ((.error e, op.dest) :: results) mb'

/-- Whatever requests the link refuses or loses, whatever responses it loses, and however the client
recovers it: each operation is executed once or not at all, in order. One that succeeds was executed
and gives what it then gave; one that was executed and does not say what it gave reports a timeout. -/
theorem runOps_executes (passage : Nat → Passage) (dial : Nat → Except Errno Nat) (retries : Nat)
    {toServer toClient : Carrier} (outward : Lossless toServer) (homeward : Lossless toClient)
    (ops : List ClientOp) (inRange : ∀ op ∈ ops, op.InRange) (c : Conn (Link Remote)) (idle : AtRest c)
    (valid : c.line.line.peer.server.mapping.WellFormed)
    (binary : c.line.line.peer.server.mapping.Binary) :
    let done := runOps (unreliableDevice passage dial retries toServer toClient) ops c
    Executions c.line.line.peer.server.conn.ctx.version c.line.line.peer.server.mapping ops done.1
      done.2.line.line.peer.server.mapping ∧ AtRest done.2 := by
  induction ops generalizing c with
  | nil => exact ⟨.done _, idle⟩
  | cons op ops ih =>
      have inRange' := fun op' member => inRange op' (List.mem_cons_of_mem op member)
      have first := inRange op List.mem_cons_self
      set version := c.line.line.peer.server.conn.ctx.version with version_def
      set mb := c.line.line.peer.server.mapping with mb_def
      obtain ⟨rc, dest, c', run, passes⟩ := op.run_passes passage dial retries outward
        homeward first c idle valid fun _ => binary
      simp only [runOps, run]
      have rest : ∀ mb', Rests mb' c c' → mb'.WellFormed → mb'.Binary →
          Executions version mb' ops
            (runOps (unreliableDevice passage dial retries toServer toClient) ops c').1
            (runOps (unreliableDevice passage dial retries toServer toClient) ops
              c').2.line.line.peer.server.mapping ∧
          AtRest (runOps (unreliableDevice passage dial retries toServer toClient) ops c').2 := by
        intro mb' rests valid' binary'
        have later := ih inRange' c' rests.idle (by rw [rests.mapped]; exact valid')
          (by rw [rests.mapped]; exact binary')
        rw [rests.mapped, rests.version] at later
        exact later
      have valid' := op.effect_wellFormed version first valid fun _ => binary
      have binary' := op.effect_binary version binary
      rcases passes with ⟨rests, rfl, rfl⟩ | ⟨rests, rfl, rfl⟩ | ⟨rests, ⟨e, rfl⟩, rfl⟩
      · obtain ⟨more, idle'⟩ := rest _ rests valid' binary'
        exact ⟨.executed op more, idle'⟩
      · obtain ⟨more, idle'⟩ := rest _ rests valid' binary'
        exact ⟨.unanswered op more, idle'⟩
      · obtain ⟨more, idle'⟩ := rest _ rests valid binary
        exact ⟨.unexecuted op e more, idle'⟩

end

def roughPassage : Nat → Passage
  | 3 => .unanswered
  | 5 => .lost
  | attempt => if attempt % 2 = 0 then .unsent .econnreset else .answered

def roughLink : Conn (Link Remote) :=
  ⟨{ newTcp with s := 3, errorRecovery := errorRecoveryLink },
    ⟨⟨⟨[], []⟩, ⟨newLink.line.peer, 0⟩⟩, true, 0⟩⟩

theorem roughLink_idle : AtRest roughLink where
  agree := rfl
  silent := rfl
  ready := newLink_linked.ready
  unicast rtu := absurd rtu (by decide)

def writesThenRead : List ClientOp :=
  [.writeRegister 0 5, .writeRegister 1 6, .writeRegister 2 7, .readRegisters 0 4 fun _ => 0]

theorem runOps_executes_rough :
    let done := runOps (unreliableDevice roughPassage (fun _ => .ok 4) 4 carryWhole carryWhole)
      writesThenRead roughLink
    done.1.map Prod.fst = [.ok 1, .error (.errno .etimedout), .error (.errno .etimedout), .ok 4] ∧
      done.2.line.line.peer.server.mapping.tabRegisters = [5, 6, 0, 0] ∧
      Executions libmodbusVersion roughLink.line.line.peer.server.mapping writesThenRead done.1
        done.2.line.line.peer.server.mapping := by
  have inRange : ∀ op ∈ writesThenRead, op.InRange := by decide
  have valid : (modbusMappingNew 0 0 4 0).WellFormed :=
    modbusMappingNewStartAddress_wellFormed 0 0 0 0 0 4 0 0 (by simp [FitsInt])
  have binary : newLink.line.peer.mapping.Binary := by decide
  have done := runOps_executes roughPassage (fun _ => .ok 4) 4 carryWhole_lossless carryWhole_lossless
    writesThenRead inRange roughLink roughLink_idle valid binary
  exact ⟨by decide +kernel, by decide +kernel, done.1⟩

end ModbusNet
