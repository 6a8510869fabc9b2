import ModbusNet.Proof.Backends

namespace ModbusNet

structure Reception where
  start : List (Signal Byte)
  rc : Except Failure Int
  req : Buffer

section
variable {π : Type} (react : React π)

def receptions : Nat → Conn (Line π) → Buffer → List Reception × Conn (Line π)
  | 0, c, _ => ([], c)
  | n + 1, c, buffer =>
      let (rc, req, c') := modbusReceive (lineDevice react) c buffer
      let (more, c'') := receptions n c' req
      (⟨c.line.incoming.signals, rc, req⟩ :: more, c'')

def Reception.Returns (r : Reception) (frame : List Byte) : Prop :=
  r.rc = .ok frame.length ∧ bytesAt r.req 0 frame.length = frame

theorem modbusReceive_accepts (c : Conn (Line π)) (buffer : Buffer) (frame : List Byte)
    (rest : List (Signal Byte)) (connected : c.ctx.isConnected)
    (listening : c.ctx.confirmationToIgnore = false)
    (delimits : Delimits c.ctx.backend .indication (ofBytes frame) frame.length)
    (accepts : c.ctx.backend = .rtu → RtuAccepts c.ctx frame) (nonempty : frame ≠ [])
    (next : c.line.incoming.signals = frame.map .item ++ rest) :
    ∃ incoming, incoming.signals = rest ∧
      modbusReceive (lineDevice react) c buffer =
        (.ok frame.length, overlay buffer frame, c.withIncoming incoming) := by
  obtain ⟨incoming, rest', run⟩ :=
    modbusReceiveMsg_frame react .indication frame rest c connected delimits next
  rw [checkIntegrity_accepts (lineDevice react) (c.withIncoming incoming) frame accepts] at run
  refine ⟨incoming, rest', ?_⟩
  unfold modbusReceive
  cases backend : c.ctx.backend with
  | tcp => simp only [modbusTcpReceive, run]
  | rtu =>
      have positive : (frame.length : Int) ≠ 0 := by
        simpa using nonempty
      simp only [modbusRtuReceive, listening, run, Bool.false_eq_true, if_false]
      split
      · rename_i zero
        simp only [Prod.mk.injEq, Except.ok.injEq] at zero
        exact absurd zero.1 positive
      · rename_i same
        simp only [Prod.mk.injEq] at same
        obtain ⟨rfl, rfl, rfl⟩ := same
        rfl

structure Message where
  signals : List (Signal Byte)
  returned : Option (List Byte)

def Message.accepted (frame : List Byte) : Message := ⟨frame.map .item, some frame⟩

def Message.ignored (frame : List Byte) : Message := ⟨frame.map .item, none⟩

def Reception.Matches (r : Reception) (m : Message) : Prop :=
  match m.returned with
  | some frame => r.Returns frame
  | none => r.rc = .ok 0

def Follow (rest : List (Signal Byte)) : List Message → List Reception → Prop
  | [], [] => True
  | m :: ms, r :: rs =>
      r.start = m.signals ++ (ms.flatMap Message.signals ++ rest) ∧ r.Matches m ∧ Follow rest ms rs
  | _, _ => False

def Conn.withFlag (c : Conn (Line π)) (flag : Bool) : Conn (Line π) :=
  { c with ctx := { c.ctx with confirmationToIgnore := flag } }

/-- A call that begins at the message with one value of the flag takes exactly the message, does
what is expected and leaves the other value. -/
def Takes (ctx : Ctx) (before : Bool) (m : Message) (after : Bool) : Prop :=
  ∀ (c : Conn (Line π)) (buffer : Buffer) (rest : List (Signal Byte)),
    c.ctx = { ctx with confirmationToIgnore := before } →
    c.line.incoming.signals = m.signals ++ rest →
    ∃ rc req incoming, incoming.signals = rest ∧
      modbusReceive (lineDevice react) c buffer = (rc, req, (c.withIncoming incoming).withFlag after) ∧
      Reception.Matches ⟨c.line.incoming.signals, rc, req⟩ m

inductive TakesAll (ctx : Ctx) : Bool → List Message → Bool → Prop
  | nil (flag : Bool) : TakesAll ctx flag [] flag
  | cons {before between after : Bool} {m : Message} {ms : List Message}
      (first : Takes react ctx before m between) (more : TakesAll ctx between ms after) :
      TakesAll ctx before (m :: ms) after

theorem TakesAll.append {ctx : Ctx} {before between after : Bool} {ms ms' : List Message}
    (first : TakesAll react ctx before ms between) (more : TakesAll react ctx between ms' after) :
    TakesAll react ctx before (ms ++ ms') after := by
  induction first with
  | nil flag => exact more
  | cons step _ ih => exact .cons step (ih more)

theorem receptions_follow {ctx : Ctx} {before after : Bool} {ms : List Message}
    (taken : TakesAll react ctx before ms after) (c : Conn (Line π)) (buffer : Buffer)
    (rest : List (Signal Byte)) (same : c.ctx = { ctx with confirmationToIgnore := before })
    (stream : c.line.incoming.signals = ms.flatMap Message.signals ++ rest) :
    Follow rest ms (receptions react ms.length c buffer).1 ∧
      (receptions react ms.length c buffer).2.line.incoming.signals = rest := by
  induction taken generalizing c buffer with
  | nil flag => exact ⟨trivial, by simpa [receptions] using stream⟩
  | @cons before between after m ms first _ ih =>
      rw [List.flatMap_cons, List.append_assoc] at stream
      obtain ⟨rc, req, incoming, rest', received, expected⟩ := first c buffer _ same stream
      obtain ⟨later, done⟩ := ih ((c.withIncoming incoming).withFlag between) req
        (by simp only [Conn.withFlag, withIncoming_ctx, same]) rest'
      simp only [List.length_cons, receptions, received]
      exact ⟨⟨stream, expected, later⟩, done⟩

theorem takes_accepted (ctx : Ctx) (frame : List Byte) (connected : ctx.isConnected)
    (delimits : Delimits ctx.backend .indication (ofBytes frame) frame.length)
    (accepts : ctx.backend = .rtu → RtuAccepts ctx frame) (nonempty : frame ≠ []) :
    Takes react ctx false (.accepted frame) false := by
  intro c buffer rest same next
  obtain ⟨incoming, rest', received⟩ := modbusReceive_accepts react c buffer frame rest
    (by rw [same]; exact connected) (by rw [same]) (by rw [same]; exact delimits)
    (by rw [same]; exact accepts) nonempty next
  have flag : c.ctx.confirmationToIgnore = false := by rw [same]
  have unchanged : (c.withIncoming incoming).withFlag false = c.withIncoming incoming := by
    rw [Conn.withFlag, withIncoming_ctx, ← flag]
    rfl
  refine ⟨.ok frame.length, overlay buffer frame, incoming, rest', ?_, rfl,
    bytesAt_overlay buffer frame⟩
  rw [unchanged]
  exact received

end
end ModbusNet
