import ModbusNet.Model.Meter

/-!
# The ledger of the substation meter

What the meter keeps, and which registers it writes, depends on the files alone and not on what
becomes of its writes (`Meter.run_posts`).
-/

namespace ModbusNet

/-! ## Files as entries -/

structure Entry where
  current : Bool
  address : Int
  value : Binary32
  deriving DecidableEq

def entriesFrom : Bool → List (List Char) → List Entry
  | _, [] => []
  | current, line :: lines =>
      if line = currentRegisterLine then entriesFrom true lines
      else if line = voltageRegisterLine then entriesFrom false lines
      else
        match sscanfRegister line with
        | none => entriesFrom current lines
        | some (address, value) =>
            if (meterNumRegisters : Int) < Meter.registerAddress address then
              entriesFrom current lines
            else ⟨current, Meter.registerAddress address, value⟩ :: entriesFrom current lines

def entries : RegisterFile → List Entry
  | none => []
  | some text => entriesFrom false (fgetsLines meterLineSize text)

inductive Feed
  | pv
  | ev
  | hp
  deriving DecidableEq

def Feed.port : Feed → Nat
  | .pv => pvInverterPort
  | .ev => evChargerPort
  | .hp => heatPumpPort

def RegisterFiles.get (files : RegisterFiles) : Feed → RegisterFile
  | .pv => files.pv
  | .ev => files.ev
  | .hp => files.hp

def InArray (index : Int) : Prop := 0 ≤ index ∧ index < meterNumRegisters

def RegisterFiles.Inside (files : RegisterFiles) : Prop :=
  ∀ feed, ∀ e ∈ entries (files.get feed), InArray e.address

theorem entriesFrom_register {a : Int} {x : Binary32} {line : List Char}
    (scanned : sscanfRegister line = some (a, x)) (current : Bool) (lines : List (List Char)) :
    entriesFrom current (line :: lines) =
      if (meterNumRegisters : Int) < Meter.registerAddress a then entriesFrom current lines
      else ⟨current, Meter.registerAddress a, x⟩ :: entriesFrom current lines := by
  have notCurrent : line ≠ currentRegisterLine := by
    rintro rfl
    cases scanned
  have notVoltage : line ≠ voltageRegisterLine := by
    rintro rfl
    cases scanned
  rw [entriesFrom, if_neg notCurrent, if_neg notVoltage, scanned]

theorem entriesFrom_currentHeader (current : Bool) (lines : List (List Char)) :
    entriesFrom current (currentRegisterLine :: lines) = entriesFrom true lines := if_pos rfl

theorem entriesFrom_voltageHeader (current : Bool) (lines : List (List Char)) :
    entriesFrom current (voltageRegisterLine :: lines) = entriesFrom false lines := by
  rw [entriesFrom, if_neg (by decide), if_pos rfl]

theorem entriesFrom_unscanned {line : List Char} (notCurrent : line ≠ currentRegisterLine)
    (notVoltage : line ≠ voltageRegisterLine) (unscanned : sscanfRegister line = none)
    (current : Bool) (lines : List (List Char)) :
    entriesFrom current (line :: lines) = entriesFrom current lines := by
  rw [entriesFrom, if_neg notCurrent, if_neg notVoltage, unscanned]

namespace Meter
variable {κ : Type}

theorem readLines_entries (register : Meter κ → Bool → Int → Binary32 → Except Failure (Meter κ))
    (current : Bool) (lines : List (List Char)) (m : Meter κ) :
    readLines register current lines m =
      (entriesFrom current lines).foldlM (fun m e => register m e.current e.address e.value) m := by
  induction lines generalizing current m with
  | nil => rfl
  | cons line lines ih =>
      rw [readLines, entriesFrom]
      split
      · exact ih true m
      · split
        · exact ih false m
        · cases sscanfRegister line with
          | none => exact ih current m
          | some scanned =>
              obtain ⟨address, value⟩ := scanned
              simp only
              split
              · exact ih current m
              · rw [List.foldlM_cons]
                exact congrArg _ (funext fun m => ih current m)

theorem readFile_entries (register : Meter κ → Bool → Int → Binary32 → Except Failure (Meter κ))
    (file : RegisterFile) (m : Meter κ) :
    readFile register file m =
      (entries file).foldlM (fun m e => register m e.current e.address e.value) m := by
  cases file with
  | none => rfl
  | some text => exact readLines_entries register false _ m

end Meter

/-! ## Ledgers -/

structure Issue where
  address : Nat
  value : Binary32
  deriving DecidableEq

structure Ledger where
  values : List Binary32
  totalCurrent : Binary32
  totalVoltage : Binary32

structure Posted where
  ledger : Ledger
  issues : List Issue

def Posted.andThen (p : Posted) (next : Ledger → Posted) : Posted where
  ledger := (next p.ledger).ledger
  issues := p.issues ++ (next p.ledger).issues

namespace Ledger

def zero : Ledger := ⟨List.replicate meterNumRegisters 0, 0, 0⟩

def total (l : Ledger) (current : Bool) : Binary32 := if current then l.totalCurrent else l.totalVoltage

def enter (e : Entry) (change : Binary32 → Binary32) (l : Ledger) : Ledger where
  values := l.values.set e.address.toNat e.value
  totalCurrent := if e.current then change l.totalCurrent else l.totalCurrent
  totalVoltage := if e.current then l.totalVoltage else change l.totalVoltage

section
variable (online : Bool)

def issue (address : Nat) (value : Binary32) : List Issue := if online then [⟨address, value⟩] else []

def recordTotals (l : Ledger) : Posted where
  ledger := { l with values := (l.values.set 10 l.totalCurrent).set 26 l.totalVoltage }
  issues := issue online 10 l.totalCurrent ++ issue online 26 l.totalVoltage

def initial (imExPort : Nat) (e : Entry) (l : Ledger) : Posted where
  ledger := l.enter e fun total => if imExPort = 1 then total - e.value else total + e.value
  issues := issue online e.address.toNat e.value

def change (imExPort : Nat) (e : Entry) (prev : Binary32) (l : Ledger) : Posted where
  ledger := l.enter e fun total =>
    if imExPort = 1 then total + prev - e.value else total - prev + e.value
  issues := issue online e.address.toNat e.value

def check (imExPort : Nat) (e : Entry) (l : Ledger) : Posted :=
  let prev := l.values.getD e.address.toNat 0
  if prev.differs e.value then
    (l.change online imExPort e prev).andThen fun l =>
      if online then l.recordTotals online else ⟨l, []⟩
  else ⟨l, []⟩

def postAll (post : Entry → Ledger → Posted) : List Entry → Ledger → Posted
  | [], l => ⟨l, []⟩
  | e :: es, l => (post e l).andThen (postAll post es)

def initialAll (files : RegisterFiles) (l : Ledger) : Posted :=
  ((postAll (initial online pvInverterPort) (entries files.pv) l).andThen
    (postAll (initial online evChargerPort) (entries files.ev))).andThen
      (postAll (initial online heatPumpPort) (entries files.hp))

def poll (files : RegisterFiles) (l : Ledger) : Posted :=
  ((postAll (check online pvInverterPort) (entries files.pv) l).andThen
    (postAll (check online evChargerPort) (entries files.ev))).andThen
      (postAll (check online heatPumpPort) (entries files.hp))

def polls : List RegisterFiles → Ledger → Posted
  | [], l => ⟨l, []⟩
  | files :: rounds, l => (l.poll online files).andThen (polls rounds)

def run (start : RegisterFiles) (rounds : List RegisterFiles) : Posted :=
  ((zero.initialAll online start).andThen (recordTotals online)).andThen (polls online rounds)

end
end Ledger

/-! ## What holds along a run -/

/-- A posting leads from the one relation between ledgers and the writes issued to the other. -/
def Steps (R R' : Ledger → List Issue → Prop) (post : Ledger → Posted) : Prop :=
  ∀ l issues, R l issues → R' (post l).ledger (issues ++ (post l).issues)

theorem Steps.andThen {R S T : Ledger → List Issue → Prop} {post next : Ledger → Posted}
    (first : Steps R S post) (then_ : Steps S T next) :
    Steps R T fun l => (post l).andThen next := by
  intro l issues before
  simp only [Posted.andThen]
  rw [← List.append_assoc]
  exact then_ _ _ (first l issues before)

theorem Steps.nothing (R : Ledger → List Issue → Prop) : Steps R R fun l => ⟨l, []⟩ := by
  intro l issues before
  rwa [List.append_nil]

namespace Ledger

theorem postAll_steps {R : Ledger → List Issue → Prop} {post : Entry → Ledger → Posted}
    (step : ∀ e, InArray e.address → Steps R R (post e)) {es : List Entry}
    (inside : ∀ e ∈ es, InArray e.address) : Steps R R fun l => l.postAll post es := by
  induction es with
  | nil => exact Steps.nothing R
  | cons e es ih =>
      obtain ⟨first, later⟩ := List.forall_mem_cons.mp inside
      exact (step e first).andThen (ih later)

theorem run_steps {online : Bool} {R R' : Ledger → List Issue → Prop} (fresh : R zero [])
    (opening : ∀ port e, InArray e.address → Steps R R (initial online port e))
    (totals : Steps R R' (recordTotals online))
    (round : ∀ port e, InArray e.address → Steps R' R' (check online port e))
    {start : RegisterFiles} {rounds : List RegisterFiles}
    (inside : ∀ files ∈ start :: rounds, files.Inside) :
    R' (run online start rounds).ledger (run online start rounds).issues := by
  obtain ⟨first, later⟩ := List.forall_mem_cons.mp inside
  have started : Steps R R (initialAll online start) :=
    ((postAll_steps (opening pvInverterPort) (first .pv)).andThen
      (postAll_steps (opening evChargerPort) (first .ev))).andThen
        (postAll_steps (opening heatPumpPort) (first .hp))
  have polled : Steps R' R' (polls online rounds) := by
    clear inside
    induction rounds with
    | nil => exact Steps.nothing R'
    | cons files rounds ih =>
        obtain ⟨now, later⟩ := List.forall_mem_cons.mp later
        have one : Steps R' R' (poll online files) :=
          ((postAll_steps (round pvInverterPort) (now .pv)).andThen
            (postAll_steps (round evChargerPort) (now .ev))).andThen
              (postAll_steps (round heatPumpPort) (now .hp))
        exact one.andThen (ih later)
  exact (started.andThen totals).andThen polled zero [] fresh

end Ledger

/-! ## The meter and its ledger -/

namespace Meter
variable {κ : Type}

def ledger (m : Meter κ) : Ledger := ⟨m.prevValues, m.totalCurrent, m.totalVoltage⟩

def enter (e : Entry) (change : Binary32 → Binary32) (m : Meter κ) : Meter κ :=
  { m.updateTotal e.current change with prevValues := m.prevValues.set e.address.toNat e.value }

theorem enter_eq (e : Entry) (change : Binary32 → Binary32) (m : Meter κ) :
    m.enter e change =
      ({ m with prevValues := m.prevValues.set e.address.toNat e.value }).updateTotal e.current
        change := by
  rw [enter, updateTotal, updateTotal]
  cases e.current <;> rfl

theorem enter_ledger (e : Entry) (change : Binary32 → Binary32) (m : Meter κ) :
    (m.enter e change).ledger = m.ledger.enter e change := by
  rw [enter, updateTotal]
  cases current : e.current <;> simp [ledger, Ledger.enter, current]

end Meter

abbrev MeterLink (κ : Type) := Option κ → List Notice → List Issue → Prop

/-- A write on a connection returns, and keeps what holds between it, the notices and the writes. -/
def Keeps {κ : Type} (writeRegister : κ → Int → Word → Except Failure Int × κ) (link : MeterLink κ) :
    Prop :=
  ∀ c notices issues a value word, link (some c) notices issues → a < meterNumRegisters →
    value.toUint16 = some word →
    ∃ rc c' notified, writeRegister c a word = (rc, c') ∧
      (if notified then ∃ n, rc = .ok n else ∃ e, rc = .error (.errno e)) ∧
      link (some c') (notices ++ [⟨a, value, notified⟩]) (issues ++ [⟨a, value⟩])

structure Meter.Follows {κ : Type} (link : MeterLink κ) (online : Bool) (issues : List Issue)
    (m : Meter κ) : Prop where
  length : m.prevValues.length = meterNumRegisters
  online : m.ctx.isSome = online
  linked : link m.ctx m.notices issues

def Posts {κ : Type} (link : MeterLink κ) (online : Bool) (before : List Issue)
    (r : Except Failure (Meter κ)) (p : Posted) : Prop :=
  ∃ m, r = .ok m ∧ m.ledger = p.ledger ∧ m.Follows link online (before ++ p.issues)

def Posted.Convertible (p : Posted) : Prop := ∀ i ∈ p.issues, i.value.toUint16.isSome

theorem writeSlot_eq {prevValues : List Binary32} (length : prevValues.length = meterNumRegisters)
    {address : Int} (inside : InArray address) (value : Binary32) :
    writeSlot prevValues address value = .ok (prevValues.set address.toNat value) := by
  obtain ⟨low, high⟩ := inside
  rw [writeSlot, if_pos low, writeTab_eq _ _ _ (by omega)]

theorem readSlot_eq {prevValues : List Binary32} (length : prevValues.length = meterNumRegisters)
    {address : Int} (inside : InArray address) :
    readSlot prevValues address = .ok (prevValues.getD address.toNat 0) := by
  obtain ⟨low, high⟩ := inside
  have bound : address.toNat < prevValues.length := by omega
  rw [readSlot, if_pos low, readTab_eq _ _ bound, List.getD_eq_getElem _ _ bound]

section
variable {κ : Type} {link : MeterLink κ} {online : Bool} {before : List Issue}

theorem Posts.bind {r : Except Failure (Meter κ)} {p : Posted}
    {f : Meter κ → Except Failure (Meter κ)} {next : Ledger → Posted}
    (convertible : (p.andThen next).Convertible)
    (first : p.Convertible → Posts link online before r p)
    (then_ : ∀ m, m.Follows link online (before ++ p.issues) → (next m.ledger).Convertible →
      Posts link online (before ++ p.issues) (f m) (next m.ledger)) :
    Posts link online before (r >>= f) (p.andThen next) := by
  obtain ⟨m, rfl, same, follows⟩ := first fun i member => convertible i (List.mem_append_left _ member)
  obtain ⟨m', run, same', follows'⟩ := then_ m follows fun i member =>
    convertible i (List.mem_append_right _ (same ▸ member))
  rw [same] at same' follows'
  refine ⟨m', run, same', ?_⟩
  rw [Posted.andThen, ← List.append_assoc]
  exact follows'

theorem Meter.Follows.readFile {register : Meter κ → Bool → Int → Binary32 → Except Failure (Meter κ)}
    {post : Entry → Ledger → Posted}
    (step : ∀ before (m : Meter κ) (e : Entry), m.Follows link online before → InArray e.address →
      (post e m.ledger).Convertible →
        Posts link online before (register m e.current e.address e.value) (post e m.ledger))
    {file : RegisterFile} (inside : ∀ e ∈ entries file, InArray e.address) {m : Meter κ}
    (follows : m.Follows link online before)
    (convertible : (m.ledger.postAll post (entries file)).Convertible) :
    Posts link online before (Meter.readFile register file m) (m.ledger.postAll post (entries file)) := by
  rw [Meter.readFile_entries]
  generalize entries file = es at inside convertible ⊢
  induction es generalizing m before with
  | nil => exact ⟨m, rfl, rfl, by simpa [Ledger.postAll] using follows⟩
  | cons e es ih =>
      obtain ⟨first, later⟩ := List.forall_mem_cons.mp inside
      rw [List.foldlM_cons]
      exact Posts.bind convertible (step _ _ _ follows first) fun m' follows' => ih follows' later

variable {writeRegister : κ → Int → Word → Except Failure Int × κ} (keeps : Keeps writeRegister link)
include keeps

theorem Meter.Follows.notify {m : Meter κ} (follows : m.Follows link online before) {address : Int}
    (inside : InArray address) (value : Binary32)
    (convertible : ∀ i ∈ Ledger.issue online address.toNat value, i.value.toUint16.isSome) :
    Posts link online before (m.notify writeRegister address value)
      ⟨m.ledger, Ledger.issue online address.toNat value⟩ := by
  obtain ⟨length, connected, linked⟩ := follows
  obtain ⟨a, rfl⟩ := Int.eq_ofNat_of_zero_le inside.1
  rw [Meter.notify]
  cases ctx : m.ctx with
  | none =>
      rw [ctx] at connected
      subst connected
      refine ⟨m, rfl, rfl, length, by rw [ctx], ?_⟩
      rw [Ledger.issue]
      simpa using linked
  | some c =>
      rw [ctx] at connected linked
      obtain rfl : online = true := connected.symm
      obtain ⟨word, converted⟩ := Option.isSome_iff_exists.mp
        (convertible ⟨a, value⟩ (List.mem_singleton.mpr rfl))
      obtain ⟨rc, c', notified, written, outcome, linked'⟩ :=
        keeps c m.notices before a value word linked (Int.ofNat_lt.mp inside.2) converted
      simp only [converted, written]
      cases notified with
      | true =>
          obtain ⟨n, rfl⟩ := outcome
          exact ⟨_, rfl, rfl, length, rfl, linked'⟩
      | false =>
          obtain ⟨e, rfl⟩ := outcome
          exact ⟨_, rfl, rfl, length, rfl, linked'⟩

theorem Meter.Follows.updateTotalValue {m : Meter κ} (follows : m.Follows link online before)
    (convertible : (m.ledger.recordTotals online).Convertible) :
    Posts link online before (m.updateTotalValue writeRegister) (m.ledger.recordTotals online) := by
  obtain ⟨m₁, first, ledger₁, follows₁⟩ :=
    follows.notify keeps (⟨by decide, by decide⟩ : InArray 10) m.totalCurrent fun i member =>
      convertible i (List.mem_append_left _ member)
  have voltage : m₁.totalVoltage = m.ledger.totalVoltage := congrArg Ledger.totalVoltage ledger₁
  obtain ⟨m₂, second, ledger₂, follows₂⟩ :=
    follows₁.notify keeps (⟨by decide, by decide⟩ : InArray 26) m₁.totalVoltage fun i member =>
      convertible i (List.mem_append_right _ (voltage ▸ member))
  have written : writeSlot m₂.prevValues 10 m₂.totalCurrent = .ok (m₂.prevValues.set 10 _) :=
    writeSlot_eq follows₂.length ⟨by decide, by decide⟩ m₂.totalCurrent
  have written' : writeSlot (m₂.prevValues.set 10 m₂.totalCurrent) 26 m₂.totalVoltage =
      .ok ((m₂.prevValues.set 10 m₂.totalCurrent).set 26 _) :=
    writeSlot_eq (by rw [List.length_set, follows₂.length]) ⟨by decide, by decide⟩ m₂.totalVoltage
  refine ⟨{ m₂ with prevValues := (m₂.prevValues.set 10 m₂.totalCurrent).set 26 m₂.totalVoltage }, ?_,
    ?_, ?_, follows₂.online, ?_⟩
  · simp only [Meter.updateTotalValue, first, second, bind, Except.bind, written, written']
    rfl
  · obtain ⟨values, current, voltage⟩ := Ledger.mk.inj (ledger₂.trans ledger₁)
    simp only [Meter.ledger, Ledger.recordTotals, values, current, voltage]
  · rw [List.length_set, List.length_set, follows₂.length]
  · have linked := follows₂.linked
    rw [voltage, List.append_assoc] at linked
    exact linked

theorem Meter.Follows.enter {m : Meter κ} (follows : m.Follows link online before) {e : Entry}
    (inside : InArray e.address) (change : Binary32 → Binary32)
    (convertible : ∀ i ∈ Ledger.issue online e.address.toNat e.value, i.value.toUint16.isSome) :
    Posts link online before ((m.enter e change).notify writeRegister e.address e.value)
      ⟨m.ledger.enter e change, Ledger.issue online e.address.toNat e.value⟩ := by
  have entered : (m.enter e change).Follows link online before := by
    obtain ⟨length, connected, linked⟩ := follows
    refine ⟨by rw [Meter.enter, List.length_set, length], ?_, ?_⟩
    all_goals
      rw [Meter.enter, Meter.updateTotal]
      cases e.current <;> assumption
  have posts := entered.notify keeps inside e.value convertible
  rwa [Meter.enter_ledger] at posts

theorem Meter.Follows.initializeRegister {m : Meter κ} (follows : m.Follows link online before)
    (imExPort : Nat) {e : Entry} (inside : InArray e.address)
    (convertible : (m.ledger.initial online imExPort e).Convertible) :
    Posts link online before (m.initializeRegister writeRegister imExPort e.current e.address e.value)
      (m.ledger.initial online imExPort e) := by
  rw [Meter.initializeRegister, writeSlot_eq follows.length inside e.value]
  simp only [bind, Except.bind]
  rw [← Meter.enter_eq]
  exact follows.enter keeps inside _ convertible

theorem Meter.Follows.checkRegister {m : Meter κ} (follows : m.Follows link online before)
    (imExPort : Nat) {e : Entry} (inside : InArray e.address)
    (convertible : (m.ledger.check online imExPort e).Convertible) :
    Posts link online before (m.checkRegister writeRegister imExPort e.current e.address e.value)
      (m.ledger.check online imExPort e) := by
  rw [Meter.checkRegister, readSlot_eq follows.length inside]
  simp only [bind, Except.bind]
  have same : m.ledger.values.getD e.address.toNat 0 = m.prevValues.getD e.address.toNat 0 := rfl
  rw [Ledger.check, same] at convertible ⊢
  generalize m.prevValues.getD e.address.toNat 0 = prev at convertible ⊢
  by_cases changed : prev.differs e.value
  · simp only [changed, if_true] at convertible ⊢
    have values : (m.updateTotal e.current fun total =>
        if imExPort = 1 then total + prev - e.value else total - prev + e.value).prevValues =
          m.prevValues := by
      rw [Meter.updateTotal]
      split <;> rfl
    rw [values, writeSlot_eq follows.length inside e.value]
    refine Posts.bind convertible (follows.enter keeps inside _) fun m' follows' convertible' => ?_
    simp only [follows'.online] at convertible' ⊢
    cases online with
    | true => exact follows'.updateTotalValue keeps convertible'
    | false => exact ⟨m', rfl, rfl, by simpa using follows'⟩
  · simp only [changed] at convertible ⊢
    exact ⟨m, rfl, rfl, by simpa using follows⟩

theorem Meter.Follows.initializeAll {m : Meter κ} (follows : m.Follows link online before)
    {files : RegisterFiles} (inside : files.Inside)
    (convertible : (m.ledger.initialAll online files).Convertible) :
    Posts link online before (m.initializeAll writeRegister files)
      (m.ledger.initialAll online files) := by
  have read : ∀ {before} (feed : Feed) {m : Meter κ}, m.Follows link online before →
      (m.ledger.postAll (Ledger.initial online feed.port) (entries (files.get feed))).Convertible →
      Posts link online before (m.initializeRegisters writeRegister (files.get feed) feed.port)
        (m.ledger.postAll (Ledger.initial online feed.port) (entries (files.get feed))) :=
    fun feed _ follows => follows.readFile
      (fun _ _ _ follows inside => follows.initializeRegister keeps feed.port inside) (inside feed)
  have all : m.initializeAll writeRegister files =
      ((m.initializeRegisters writeRegister files.pv pvInverterPort >>= fun m =>
        m.initializeRegisters writeRegister files.ev evChargerPort) >>= fun m =>
          m.initializeRegisters writeRegister files.hp heatPumpPort) := by
    rw [bind_assoc]
    rfl
  rw [all]
  exact Posts.bind convertible (fun convertible => Posts.bind convertible (read .pv follows)
    fun m follows => read .ev follows) fun m follows => read .hp follows

theorem Meter.Follows.poll {m : Meter κ} (follows : m.Follows link online before)
    {files : RegisterFiles} (inside : files.Inside)
    (convertible : (m.ledger.poll online files).Convertible) :
    Posts link online before (m.poll writeRegister files) (m.ledger.poll online files) := by
  have read : ∀ {before} (feed : Feed) {m : Meter κ}, m.Follows link online before →
      (m.ledger.postAll (Ledger.check online feed.port) (entries (files.get feed))).Convertible →
      Posts link online before (m.checkFileAndNotify writeRegister (files.get feed) feed.port)
        (m.ledger.postAll (Ledger.check online feed.port) (entries (files.get feed))) :=
    fun feed _ follows => follows.readFile
      (fun _ _ _ follows inside => follows.checkRegister keeps feed.port inside) (inside feed)
  have all : m.poll writeRegister files =
      ((m.checkFileAndNotify writeRegister files.pv pvInverterPort >>= fun m =>
        m.checkFileAndNotify writeRegister files.ev evChargerPort) >>= fun m =>
          m.checkFileAndNotify writeRegister files.hp heatPumpPort) := by
    rw [bind_assoc]
    rfl
  rw [all]
  exact Posts.bind convertible (fun convertible => Posts.bind convertible (read .pv follows)
    fun m follows => read .ev follows) fun m follows => read .hp follows

theorem Meter.Follows.polls {rounds : List RegisterFiles} {m : Meter κ}
    (follows : m.Follows link online before) (inside : ∀ files ∈ rounds, files.Inside)
    (convertible : (m.ledger.polls online rounds).Convertible) :
    Posts link online before (Meter.polls writeRegister rounds m) (m.ledger.polls online rounds) := by
  induction rounds generalizing m before with
  | nil => exact ⟨m, rfl, rfl, by simpa [Ledger.polls] using follows⟩
  | cons files rounds ih =>
      obtain ⟨first, later⟩ := List.forall_mem_cons.mp inside
      exact Posts.bind convertible (follows.poll keeps first) fun m' follows' => ih follows' later

/-- Whatever becomes of the writes, a run of the meter is a run of its ledger. -/
theorem Meter.run_posts (ctx : Option κ) (linked : link ctx [] []) (start : RegisterFiles)
    (rounds : List RegisterFiles) (inside : ∀ files ∈ start :: rounds, files.Inside)
    (convertible : (Ledger.run ctx.isSome start rounds).Convertible) :
    Posts link ctx.isSome [] (Meter.run writeRegister ctx start rounds)
      (Ledger.run ctx.isSome start rounds) := by
  obtain ⟨first, later⟩ := List.forall_mem_cons.mp inside
  have fresh : (Meter.zero ctx).Follows link ctx.isSome [] := ⟨rfl, rfl, linked⟩
  have all : Meter.run writeRegister ctx start rounds =
      (((Meter.zero ctx).initializeAll writeRegister start >>= fun m =>
        m.updateTotalValue writeRegister) >>= fun m => Meter.polls writeRegister rounds m) := by
    rw [bind_assoc]
    rfl
  rw [all]
  exact Posts.bind convertible
    (fun convertible => Posts.bind convertible (fresh.initializeAll keeps first)
      fun m follows => follows.updateTotalValue keeps)
    fun m follows => follows.polls keeps later

end

end ModbusNet
