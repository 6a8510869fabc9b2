import ModbusNet.Model.EnergyNetwork
import ModbusNet.Proof.Controller
import ModbusNet.Proof.FileLookup
import ModbusNet.Proof.Meter
import ModbusNet.Proof.Simulators

namespace ModbusNet

/-! ## Files and readings -/

def networkLayout : Layout where
  place a :=
    if a = 2 then some (.pv, true)
    else if a = 22 then some (.pv, false)
    else if a = 4 then some (.ev, true)
    else if a = 24 then some (.ev, false)
    else if a = 0 then some (.hp, true)
    else if a = 20 then some (.hp, false)
    else none
  inside a p placed := by
    split_ifs at placed <;> subst a <;> decide

structure FilesRead (files : RegisterFiles) (r : Readings) : Prop where
  pv : ∃ text, files.pv = some text ∧ Stores pvInverterFile r text
  ev : ∃ text, files.ev = some text ∧ Stores evChargerFile FileWriter.initialReadings text
  hp : ∃ text, files.hp = some text ∧ Stores heatPumpFile FileWriter.initialReadings text

def networkShows (r : Readings) : Nat → Int
  | 0 => 10
  | 2 => r.current
  | 4 => 10
  | 10 => r.current - 20
  | 20 => 100
  | 22 => r.voltage
  | 24 => 100
  | 26 => r.voltage - 200
  | _ => 0

theorem Stores.fits {w : FileWriter} (addressed : w.Addressed) {s : Readings} {text : List Char}
    (stores : Stores w s text) {feed : Feed} {a b : Nat}
    (current : Meter.registerAddress w.currentAddress = a)
    (voltage : Meter.registerAddress w.voltageAddress = b)
    (placedCurrent : networkLayout.place a = some (feed, true))
    (placedVoltage : networkLayout.place b = some (feed, false))
    (others : ∀ c section', networkLayout.place c = some (feed, section') → c = a ∨ c = b) :
    FileFits networkLayout 9999 feed (entries (some text)) := by
  obtain ⟨smallCurrent, smallVoltage⟩ := stores.small
  have apart : a ≠ b := by
    rintro rfl
    rw [placedCurrent] at placedVoltage
    cases placedVoltage
  rw [stores.entries_eq addressed, current, voltage]
  constructor
  · intro e member
    rcases List.mem_pair.mp member with rfl | rfl
    · exact ⟨a, s.current, rfl, placedCurrent, rfl, by rw [abs_of_nonneg] <;> omega⟩
    · exact ⟨b, s.voltage, rfl, placedVoltage, rfl, by rw [abs_of_nonneg] <;> omega⟩
  · simpa using apart
  · intro c section' placed
    rcases others c section' placed with rfl | rfl
    · exact ⟨_, List.mem_cons_self, rfl⟩
    · exact ⟨_, List.mem_cons_of_mem _ (List.mem_singleton_self _), rfl⟩

theorem networkLayout_place (feed : Feed) {c : Nat} {section' : Bool}
    (placed : networkLayout.place c = some (feed, section')) :
    match feed with
    | .pv => c = 2 ∨ c = 22
    | .ev => c = 4 ∨ c = 24
    | .hp => c = 0 ∨ c = 20 := by
  simp only [networkLayout] at placed
  split_ifs at placed <;> cases placed <;> simp_all

theorem FilesRead.fits {files : RegisterFiles} {r : Readings} (read : FilesRead files r) :
    FilesFit networkLayout 9999 files.get := by
  obtain ⟨⟨pv, pvFile, pvStores⟩, ⟨ev, evFile, evStores⟩, ⟨hp, hpFile, hpStores⟩⟩ := read
  have addressed : ∀ w ∈ fileWriters, w.Addressed := fun w => fileWriters_addressed
  rintro (_ | _ | _) text content
  · obtain rfl : pv = text := Option.some.inj (pvFile.symm.trans content)
    exact pvStores.fits (addressed _ (by simp [fileWriters])) rfl rfl rfl rfl
      fun c section' => networkLayout_place .pv
  · obtain rfl : ev = text := Option.some.inj (evFile.symm.trans content)
    exact evStores.fits (addressed _ (by simp [fileWriters])) rfl rfl rfl rfl
      fun c section' => networkLayout_place .ev
  · obtain rfl : hp = text := Option.some.inj (hpFile.symm.trans content)
    exact hpStores.fits (addressed _ (by simp [fileWriters])) rfl rfl rfl rfl
      fun c section' => networkLayout_place .hp

theorem Stores.reflected {w : FileWriter} (addressed : w.Addressed) {s : Readings} {text : List Char}
    (stores : Stores w s text) {v : Nat → Int} {a b : Nat}
    (current : Meter.registerAddress w.currentAddress = a)
    (voltage : Meter.registerAddress w.voltageAddress = b) (apart : a ≠ b)
    (reflects : ∀ c, c = a ∨ c = b →
      ∃ e ∈ entries (some text), e.address = c ∧ e.value = .finite (v c)) :
    v a = s.current ∧ v b = s.voltage := by
  rw [stores.entries_eq addressed, current, voltage] at reflects
  constructor
  · obtain ⟨e, member, address, value⟩ := reflects a (.inl rfl)
    rcases List.mem_pair.mp member with rfl | rfl
    · exact_mod_cast (Binary32.finite.inj value).symm
    · exact absurd (Int.ofNat.inj address).symm apart
  · obtain ⟨e, member, address, value⟩ := reflects b (.inr rfl)
    rcases List.mem_pair.mp member with rfl | rfl
    · exact absurd (Int.ofNat.inj address) apart
    · exact_mod_cast (Binary32.finite.inj value).symm

theorem FilesRead.values {files : RegisterFiles} {r : Readings} (read : FilesRead files r)
    {v : Nat → Int} (reflects : Reflects networkLayout files.get v) :
    (v 2 = r.current ∧ v 22 = r.voltage) ∧ (v 4 = 10 ∧ v 24 = 100) ∧ v 0 = 10 ∧ v 20 = 100 := by
  obtain ⟨⟨pv, pvFile, pvStores⟩, ⟨ev, evFile, evStores⟩, ⟨hp, hpFile, hpStores⟩⟩ := read
  have addressed : ∀ w ∈ fileWriters, w.Addressed := fun w => fileWriters_addressed
  obtain ⟨-, placed⟩ := reflects
  refine ⟨?_, ?_, ?_⟩
  · refine pvStores.reflected (addressed _ (by simp [fileWriters])) rfl rfl (by decide) ?_
    rintro c (rfl | rfl)
    · simpa only [RegisterFiles.get, pvFile] using placed 2 .pv true rfl
    · simpa only [RegisterFiles.get, pvFile] using placed 22 .pv false rfl
  · refine evStores.reflected (addressed _ (by simp [fileWriters])) rfl rfl (by decide) ?_
    rintro c (rfl | rfl)
    · simpa only [RegisterFiles.get, evFile] using placed 4 .ev true rfl
    · simpa only [RegisterFiles.get, evFile] using placed 24 .ev false rfl
  · refine hpStores.reflected (addressed _ (by simp [fileWriters])) rfl rfl (by decide) ?_
    rintro c (rfl | rfl)
    · simpa only [RegisterFiles.get, hpFile] using placed 0 .hp true rfl
    · simpa only [RegisterFiles.get, hpFile] using placed 20 .hp false rfl

theorem networkLayout_net (current : Bool) (v : Nat → Int) :
    networkLayout.net current v = if current then v 2 - v 4 - v 0 else v 22 - v 24 - v 20 := by
  cases current <;>
    simp [Layout.net, Layout.weight, networkLayout, meterNumRegisters, Finset.sum_range_succ,
      Feed.port, pvInverterPort, evChargerPort, heatPumpPort] <;> ring

theorem FilesRead.shows {files : RegisterFiles} {r : Readings} (read : FilesRead files r)
    {v : Nat → Int} (reflects : Reflects networkLayout files.get v) (a : Nat) :
    networkShows r a = if a = 10 then networkLayout.net true v
      else if a = 26 then networkLayout.net false v else v a := by
  obtain ⟨⟨v2, v22⟩, ⟨v4, v24⟩, v0, v20⟩ := read.values reflects
  rw [networkLayout_net, networkLayout_net, v2, v22, v4, v24, v0, v20]
  unfold networkShows
  split
  · exact v0.symm
  · exact v2.symm
  · exact v4.symm
  · simp only [if_true]
    ring
  · exact v20.symm
  · exact v22.symm
  · exact v24.symm
  · simp only [if_true]
    norm_num
    ring
  · rename_i n0 n2 n4 n10 n20 n22 n24 n26
    rw [if_neg n10, if_neg n26]
    refine (reflects.1 a ?_).symm
    simp only [networkLayout]
    rw [if_neg n2, if_neg n22, if_neg n4, if_neg n24, if_neg n0, if_neg n20]

theorem FilesRead.range {files : RegisterFiles} {r : Readings} (read : FilesRead files r) (a : Nat) :
    -32768 < networkShows r a ∧ networkShows r a ≤ 32767 := by
  obtain ⟨⟨pv, -, stores⟩, -, -⟩ := read
  obtain ⟨current, voltage⟩ := stores.small
  unfold networkShows
  split <;> omega

/-! ## What is shown -/

structure UpToDate (notices : List Notice) : Prop where
  delivered : deliveredNotices notices ≠ []
  last : ∀ a < meterNumRegisters, lastValue a (deliveredNotices notices) = lastValue a notices

instance (notices : List Notice) : Decidable (UpToDate notices) :=
  decidable_of_iff (deliveredNotices notices ≠ [] ∧ ∀ a < meterNumRegisters,
      lastValue a (deliveredNotices notices) = lastValue a notices)
    ⟨fun both => ⟨both.1, both.2⟩, fun upToDate => ⟨upToDate.delivered, upToDate.last⟩⟩

def Prints (m : Meter (Conn (Line ControllerLink))) (values : Nat → Int) : Prop :=
  ∃ c, m.ctx = some c ∧
    ∀ a < controllerNumRegisters, c.line.peer.controller.printed[a]? = some (values a)

theorem lastRead_complete {start : RegisterFiles} {rounds : List RegisterFiles}
    (complete : ∀ files ∈ start :: rounds, ∀ feed, (files.get feed).isSome) :
    lastRead start rounds = (rounds.getLastD start).get := by
  induction rounds using List.reverseRecOn with
  | nil => rfl
  | append_singleton rounds files ih =>
      rw [lastRead, List.foldl_append, List.getLastD_concat]
      funext feed
      obtain ⟨text, content⟩ := Option.isSome_iff_exists.mp (complete files (by simp) feed)
      simp only [List.foldl_cons, List.foldl_nil, Contents.read, content, Option.some_or]

theorem FilesRead.complete {files : RegisterFiles} {r : Readings} (read : FilesRead files r)
    (feed : Feed) : (files.get feed).isSome := by
  obtain ⟨⟨pv, pvFile, -⟩, ⟨ev, evFile, -⟩, ⟨hp, hpFile, -⟩⟩ := read
  cases feed with
  | pv => exact Option.isSome_iff_exists.mpr ⟨pv, pvFile⟩
  | ev => exact Option.isSome_iff_exists.mpr ⟨ev, evFile⟩
  | hp => exact Option.isSome_iff_exists.mpr ⟨hp, hpFile⟩

theorem run_shows (fate : Nat → Fate) {toController toMeter : Carrier}
    (outward : Lossless toController) (homeward : Lossless toMeter) {c : Conn (Line ControllerLink)}
    (new : NewController c) (start : RegisterFiles) (rounds : List RegisterFiles)
    (reads : ∀ files ∈ start :: rounds, ∃ r, FilesRead files r) {r : Readings}
    (last : FilesRead (rounds.getLastD start) r) :
    ∃ m, Meter.run (modbusWriteRegister (lineDevice (controllerReact fate toController toMeter)))
        (some c) start rounds = .ok m ∧
      (UpToDate m.notices → Prints m (networkShows r)) := by
  have fits : ∀ files ∈ start :: rounds, FilesFit networkLayout 9999 files.get := fun files member =>
    (reads files member).choose_spec.fits
  have exactSums : networkLayout.size * 9999 ≤ 2 ^ 24 := by decide +kernel
  obtain ⟨v, accounted, reflects⟩ := Ledger.run_accounted exactSums true fits
  obtain ⟨m, run, ledger, -, ⟨c', ctx, stored⟩, held, current, voltage⟩ :=
    run_synchronized fate outward homeward new (fun files member => (fits files member).inside)
      accounted.convertible
  refine ⟨m, run, fun upToDate => ?_⟩
  have accounts : Accounts networkLayout 9999 v m.ledger := ledger ▸ accounted.accounts
  rw [lastRead_complete fun files member => (reads files member).choose_spec.complete] at reflects
  refine ⟨c', ctx, fun a inside => ?_⟩
  have value : lastValue a m.notices = .finite (networkShows r a) := by
    rw [last.shows reflects]
    split
    · rename_i isCurrent
      rw [isCurrent, ← current]
      exact accounts.totals true
    · split
      · rename_i isVoltage
        rw [isVoltage, ← voltage]
        exact accounts.totals false
      · rename_i notCurrent notVoltage
        have slot : m.prevValues[a]? = _ := accounts.slots a inside notCurrent notVoltage
        rw [held.last a inside] at slot
        exact Option.some.inj slot
  obtain ⟨low, high⟩ := last.range a
  have shown := stored.printedAt upToDate.delivered inside ((upToDate.last a inside).trans value)
  rw [printedValue_ofInt low.le high, if_neg low.ne'] at shown
  exact shown

/-! ## The simulators -/

inductive Order
  | reconnect
  | request (tId : Word) (slave : Int) (op : ClientOp)

namespace Order

def event : Order → Station.Event
  | .reconnect => .reconnect
  | .request tId slave op => .message (adu .tcp tId (loByte slave) op.request.encode)

/-- Reading, and writing one of the registers. -/
def Allowed (numRegisters : Nat) : Order → Prop
  | .reconnect => True
  | .request _ _ op => op.InRange ∧
      match op with
      | .writeRegister addr _ => addr < numRegisters
      | .readBits .. | .readInputBits .. | .readRegisters .. | .readInputRegisters ..
      | .reportSlaveId .. => True
      | _ => False

def calls : Order → List (Nat × Nat)
  | .request _ _ (.writeRegister addr value) => [(addr.toNat, value.toNat % 256)]
  | _ => []

end Order

structure Station.Serving (w : FileWriter) (s : Station) (calls : List (Nat × Nat)) : Prop where
  ready : ∀ slave, s.conn.Ready .tcp slave
  clear : ∀ i, 12 ≤ i → s.query i = 0
  registers : ∃ regs, regs.length = w.simulator.numRegisters ∧ s.mapping = registerMapping regs
  goesOn : s.goesOn = .ok true
  file : s.file = w.run (w.passed calls)

theorem Station.start_serving (w : FileWriter) : (Station.start w).Serving w [] where
  ready slave := ⟨rfl, rfl, rfl, rfl, fun absurd => by cases absurd⟩
  clear _ _ := rfl
  registers := ⟨List.replicate w.simulator.numRegisters 10, List.length_replicate, rfl⟩
  goesOn := rfl
  file := rfl

theorem overlay_adu (query : Buffer) (tId : Word) (slave : Byte) (pdu : List Byte) (i : Nat) :
    overlay query (adu .tcp tId slave pdu) (i + 7) = pdu.getD i (query (i + 7)) := by
  simp [overlay, adu]

def plainFunctions : List Nat :=
  [fcReadCoils, fcReadDiscreteInputs, fcReadHoldingRegisters, fcReadInputRegisters, fcReportSlaveId]

theorem handle_plain (sim : Simulator) (headerLength : Nat) (query : Buffer) (mb : ModbusMapping)
    {f : Nat} (function : query headerLength = loByte f) (plain : f ∈ plainFunctions) :
    sim.handle headerLength query mb = .ok ⟨mb, none⟩ := by
  have other : ∀ g ∈ plainFunctions, (loByte g).toNat ≠ fcWriteSingleRegister ∧
      (loByte g).toNat ≠ fcWriteSingleCoil ∧ (loByte g).toNat ≠ fcWriteMultipleRegisters := by decide
  obtain ⟨single, coil, multiple⟩ := other f plain
  simp only [Simulator.handle]
  rw [function, if_neg single, if_neg coil, if_neg multiple]
  rfl

structure HandledAs (w : FileWriter) (query : Buffer) (regs : List Word) (op : ClientOp)
    (regs' : List Word) (updateFile : Option (Int × ℚ)) : Prop where
  handled : w.simulator.handle 7 query (registerMapping regs) = .ok ⟨registerMapping regs', updateFile⟩
  length : regs'.length = regs.length
  passed : ∀ tId slave, updateFile.toList = w.passed (Order.request tId slave op).calls

theorem handled_order {w : FileWriter} {query : Buffer} {regs : List Word} {tId : Word} {slave : Int}
    {op : ClientOp} (clear : ∀ i, 12 ≤ i → query i = 0)
    (size : regs.length = w.simulator.numRegisters)
    (allowed : (Order.request tId slave op).Allowed w.simulator.numRegisters) :
    ∃ regs' updateFile, HandledAs w (overlay query (adu .tcp tId (loByte slave) op.request.encode)) regs
      op regs' updateFile := by
  set query' := overlay query (adu .tcp tId (loByte slave) op.request.encode) with query_def
  have byte := fun i => overlay_adu query tId (loByte slave) op.request.encode i
  have function : query' 7 = loByte op.request.function := byte 0
  have reading (plain : op.request.function ∈ plainFunctions)
      (noCalls : ∀ tId slave, (Order.request tId slave op).calls = []) :
      ∃ regs' updateFile, HandledAs w query' regs op regs' updateFile :=
    ⟨regs, none, handle_plain _ _ _ _ function plain, rfl, fun tId slave => by
      rw [noCalls]
      rfl⟩
  obtain ⟨inRange, kind⟩ := allowed
  cases op with
  | writeRegister addr value =>
      obtain ⟨low, high⟩ := inRange
      obtain ⟨a, rfl⟩ := Int.eq_ofNat_of_zero_le low
      have register : a < regs.length := by
        have bound : (a : Int) < w.simulator.numRegisters := kind
        omega
      have address : be16 query' 8 = a := by
        have hi : query' 8 = hiByte (BitVec.ofInt 16 (a : Int)).toNat := byte 1
        have lo : query' 9 = loByte (BitVec.ofInt 16 (a : Int)).toNat := byte 2
        have small : (BitVec.ofInt 16 (a : Int)).toNat = a := by
          simp only [BitVec.toNat_ofInt]
          omega
        rw [be16, hi, lo, small]
        exact beWord_bytes_nat a (by omega)
      have data : be16 query' 11 = value.toNat % 256 * 256 := by
        have lo : query' 11 = loByte value.toNat := byte 4
        have behind : query' 12 = 0 := (byte 5).trans (clear 12 (le_refl 12))
        rw [be16, lo, behind, beWord, loByte, BitVec.toNat_ofInt, show (0 : Byte).toNat = 0 from rfl]
        omega
      have write : (query' 7).toNat = fcWriteSingleRegister := by
        rw [function]
        rfl
      have inside : be16 query' (7 + 1) < regs.length := by
        rw [address]
        exact register
      refine ⟨_, _, handle_single w.simulator 7 (le_refl 7) write inside, ?_, fun tId slave => ?_⟩
      · rw [handledRegisters, if_pos write, store_length _ _ _ inside]
      · rw [address, data]
        simp [Order.calls, FileWriter.passed]
  | readBits addr nb dest =>
      exact reading (by decide : fcReadCoils ∈ plainFunctions) fun _ _ => rfl
  | readInputBits addr nb dest =>
      exact reading (by decide : fcReadDiscreteInputs ∈ plainFunctions) fun _ _ => rfl
  | readRegisters addr nb dest =>
      exact reading (by decide : fcReadHoldingRegisters ∈ plainFunctions) fun _ _ => rfl
  | readInputRegisters addr nb dest =>
      exact reading (by decide : fcReadInputRegisters ∈ plainFunctions) fun _ _ => rfl
  | reportSlaveId maxDest dest =>
      exact reading (by decide : fcReportSlaveId ∈ plainFunctions) fun _ _ => rfl
  | _ => exact absurd kind id

theorem effect_registers (version : VersionString) {regs : List Word} {numRegisters : Nat} {tId : Word}
    {slave : Int} {op : ClientOp} (allowed : (Order.request tId slave op).Allowed numRegisters) :
    ∃ regs', regs'.length = regs.length ∧
      (op.effect version (registerMapping regs)).mapping = registerMapping regs' := by
  obtain ⟨inRange, kind⟩ := allowed
  cases op with
  | writeRegister addr value =>
      simp only [ClientOp.effect]
      split
      · rename_i covers
        have inside := registerMapping_covers.mp covers
        have length := store_length regs addr.toNat [value] inside
        refine ⟨store regs addr.toNat [value], length, ?_⟩
        rw [Table.replaced, registerMapping_index, ← registerMapping_set regs length]
        rfl
      · exact ⟨regs, rfl, rfl⟩
  | readBits addr nb dest => exact ⟨regs, rfl, by simp only [ClientOp.effect]; split <;> rfl⟩
  | readInputBits addr nb dest => exact ⟨regs, rfl, by simp only [ClientOp.effect]; split <;> rfl⟩
  | readRegisters addr nb dest => exact ⟨regs, rfl, by simp only [ClientOp.effect]; split <;> rfl⟩
  | readInputRegisters addr nb dest =>
      exact ⟨regs, rfl, by simp only [ClientOp.effect]; split <;> rfl⟩
  | reportSlaveId maxDest dest => exact ⟨regs, rfl, rfl⟩
  | _ => exact absurd kind id

theorem order_length {numRegisters : Nat} {tId : Word} {slave : Int} {op : ClientOp}
    (allowed : (Order.request tId slave op).Allowed numRegisters) :
    (adu .tcp tId (loByte slave) op.request.encode).length ≤ 12 := by
  rw [(adu_carries .tcp tId (loByte slave) op.request.encode).length]
  obtain ⟨inRange, kind⟩ := allowed
  cases op with
  | writeRegister | readBits | readInputBits | readRegisters | readInputRegisters => exact le_refl 12
  | reportSlaveId => exact (by decide : 8 ≤ 12)
  | _ => exact absurd kind id

theorem run_passed (w : FileWriter) (calls calls' : List (Nat × Nat)) :
    w.run (w.passed (calls ++ calls')) =
      (w.passed calls').foldl (fun file call => w.updateFile file call.1 call.2)
        (w.run (w.passed calls)) := by
  rw [FileWriter.run, FileWriter.passed, List.map_append, List.foldl_append]
  rfl

section
variable {w : FileWriter} {carry : Carrier} (lossless : Lossless carry) {s : Station}
  {calls : List (Nat × Nat)}
include lossless

theorem Station.Serving.request (serving : s.Serving w calls) (rounds : Nat) {tId : Word} {slave : Int}
    {op : ClientOp} (allowed : (Order.request tId slave op).Allowed w.simulator.numRegisters) :
    (s.handle w carry (rounds + 1) (Order.request tId slave op).event).Serving w
      (calls ++ (Order.request tId slave op).calls) := by
  obtain ⟨ready, clear, ⟨regs, size, mapping⟩, goesOn, file⟩ := serving
  have inRange := allowed.1
  set msg := adu .tcp tId (loByte slave) op.request.encode with msg_def
  set query := overlay s.query msg with query_def
  have carries : Carries .tcp msg op.request.encode :=
    adu_carries .tcp tId (loByte slave) op.request.encode
  have carried : (carry s.turn msg).flatMap Arrival.signals = msg.map .item := lossless s.turn msg
  have signals : (s.conn.hear (carry s.turn msg)).line.incoming.signals = msg.map .item ++ [] := by
    rw [Conn.hear_signals, (ready slave).silent, carried, List.append_nil, List.nil_append]
  have backend : (s.conn.hear (carry s.turn msg)).ctx.backend = .tcp := (ready slave).backend
  obtain ⟨incoming, -, received⟩ := modbusReceive_accepts logReact (s.conn.hear (carry s.turn msg))
    s.query msg [] (ready slave).connected (ready slave).listening
    (by rw [backend]; exact carries.delimits (op.request_whole inRange))
    (fun rtu => absurd (backend.symm.trans rtu) (by decide)) carries.nonempty signals
  -- What is answered is what `modbus_reply` makes of the tables behind the handler.
  obtain ⟨regs₁, updateFile, handled, length, passed⟩ := handled_order clear size allowed
  have served : op.Served s.conn.ctx.version (registerMapping regs₁) :=
    op.served _ inRange (registerMapping_wellFormed regs₁) fun _ => by
      simp [ModbusMapping.Binary, registerMapping]
  obtain ⟨response, served, -⟩ := served
  obtain ⟨n, n', query', conn, answered, positive, receiving, replied, -, ready', -⟩ :=
    s.conn.answers s.query (registerMapping regs₁) .tcp tId slave op.request (ready slave)
      (fun absurd => by cases absurd) (op.request_encodable inRange) (op.request_fits inRange)
      (carry s.turn msg) carried response _ served
  rw [received] at receiving
  obtain ⟨⟨rfl⟩, rfl, rfl⟩ : msg.length = n ∧ query = query' ∧
      (s.conn.hear (carry s.turn msg)).withIncoming incoming = conn := by simpa using receiving
  have waited : receiveNonzero logDevice (rounds + 1) (s.conn.hear (carry s.turn msg)) s.query =
      (.ok (msg.length : Int), query, (s.conn.hear (carry s.turn msg)).withIncoming incoming) := by
    rw [receiveNonzero, received]
    simp only
    rw [if_neg (by omega)]
  have handled' : w.simulator.handle
      ((s.conn.hear (carry s.turn msg)).withIncoming incoming).ctx.backend.headerLength query s.mapping =
        .ok ⟨registerMapping regs₁, updateFile⟩ := by
    rw [show ((s.conn.hear (carry s.turn msg)).withIncoming incoming).ctx.backend = .tcp from backend,
      mapping]
    exact handled
  obtain ⟨regs₂, length₂, mapping₂⟩ := @effect_registers s.conn.ctx.version regs₁ _ _ _ _ allowed
  have next : s.handle w carry (rounds + 1) (Order.request tId slave op).event =
      { conn := answered, query, mapping := registerMapping regs₂, goesOn := .ok true
        file := w.persist
          ((s.conn.hear (carry s.turn msg)).withIncoming incoming).ctx.backend.headerLength query s.mapping
          s.file
        turn := s.turn + 1 } := by
    simp only [Order.event, Station.handle, Station.serve, goesOn, ← msg_def, waited, respondUnlessBroken,
      Simulator.respond, handled', replied, afterReply, mapping₂]
  rw [next]
  refine ⟨fun slave => ?_, fun i behind => ?_, ⟨regs₂, ?_, rfl⟩, rfl, ?_⟩
  · exact ⟨ready'.connected, ready'.backend, ready'.listening, ready'.silent,
      fun absurd => by cases absurd⟩
  · have outside : msg.length ≤ i := (order_length allowed).trans behind
    change msg.getD i (s.query i) = 0
    rw [List.getD_eq_default _ _ outside]
    exact clear i behind
  · exact length₂.trans (length.trans size)
  · rw [run_passed, ← passed tId slave, ← file]
    simp only [FileWriter.persist, handled']
    cases updateFile with
    | none => rfl
    | some call => rfl

theorem Station.Serving.handle (serving : s.Serving w calls) (rounds : Nat) {order : Order}
    (allowed : order.Allowed w.simulator.numRegisters) :
    (s.handle w carry (rounds + 1) order.event).Serving w (calls ++ order.calls) := by
  cases order with
  | request tId slave op => exact serving.request lossless rounds allowed
  | reconnect =>
      have file := serving.file
      exact
        { ready := fun slave => ⟨rfl, rfl, rfl, rfl, fun absurd => by cases absurd⟩
          clear := serving.clear
          registers := ⟨List.replicate w.simulator.numRegisters 10, List.length_replicate, rfl⟩
          goesOn := rfl
          file := file.trans
            (congrArg (fun calls => w.run (w.passed calls)) (List.append_nil calls).symm) }

theorem Station.Serving.run (serving : s.Serving w calls) (rounds : Nat) (orders : List Order)
    (allowed : ∀ order ∈ orders, order.Allowed w.simulator.numRegisters) :
    (s.run w carry (rounds + 1) (orders.map Order.event)).Serving w
      (calls ++ orders.flatMap Order.calls) := by
  induction orders generalizing s calls with
  | nil =>
      rw [List.flatMap_nil, List.append_nil]
      exact serving
  | cons order orders ih =>
      obtain ⟨first, later⟩ := List.forall_mem_cons.mp allowed
      rw [List.flatMap_cons, ← List.append_assoc]
      exact ih (serving.handle lossless rounds first) later

end

/-! ## The network -/

structure Orders where
  pv : List Order
  ev : List Order
  hp : List Order

namespace Orders

def traffic (orders : Orders) : Traffic :=
  ⟨orders.pv.map Order.event, orders.ev.map Order.event, orders.hp.map Order.event⟩

structure Allowed (orders : Orders) : Prop where
  pv : ∀ order ∈ orders.pv, order.Allowed pvInverter.numRegisters
  ev : ∀ order ∈ orders.ev, order.Allowed evCharger.numRegisters
  hp : ∀ order ∈ orders.hp, order.Allowed heatPump.numRegisters

end Orders

def lastWritten (register initial : Nat) (orders : List Order) : Nat :=
  (((orders.flatMap Order.calls).filter fun call => call.1 = register).getLast?.map Prod.snd).getD initial

theorem Order.calls_allowed {w : FileWriter} {orders : List Order}
    (allowed : ∀ order ∈ orders, order.Allowed w.simulator.numRegisters) :
    ∀ call ∈ orders.flatMap Order.calls, w.Allowed call := by
  intro call member
  obtain ⟨order, found, called⟩ := List.mem_flatMap.mp member
  have ordered := allowed order found
  match order with
  | .reconnect => simp [calls] at called
  | .request tId slave (.writeRegister addr value) =>
      obtain ⟨⟨low, -⟩, (register : addr < w.simulator.numRegisters)⟩ := ordered
      obtain rfl := List.mem_singleton.mp called
      have byte := Nat.mod_lt value.toNat (by decide : 0 < 256)
      refine ⟨?_, ?_⟩
      · simp only
        omega
      · simp only
        omega
  | .request tId slave (.readBits ..) | .request tId slave (.readInputBits ..)
  | .request tId slave (.readRegisters ..) | .request tId slave (.readInputRegisters ..)
  | .request tId slave (.writeBit ..) | .request tId slave (.writeBits ..)
  | .request tId slave (.writeRegisters ..) | .request tId slave (.maskWriteRegister ..)
  | .request tId slave (.writeAndReadRegisters ..) | .request tId slave (.reportSlaveId ..) =>
      simp [calls] at called

theorem readings_lastWritten (orders : List Order) :
    pvInverterFile.readings (orders.flatMap Order.calls) =
      ⟨lastWritten 2 10 orders, lastWritten 22 100 orders⟩ := by
  unfold lastWritten
  generalize orders.flatMap Order.calls = calls
  induction calls using List.reverseRecOn with
  | nil => rfl
  | append_singleton calls call ih =>
      have current : (call.1 : Int) + 3000 = 3002 ↔ call.1 = 2 := by omega
      have voltage : (call.1 : Int) + 3000 = 3022 ↔ call.1 = 22 := by omega
      have offset : pvInverterFile.simulator.fileOffset = 3000 := rfl
      have addresses : pvInverterFile.currentAddress = 3002 ∧ pvInverterFile.voltageAddress = 3022 :=
        ⟨rfl, rfl⟩
      rw [FileWriter.readings_append, ih, Readings.update, offset, addresses.1, addresses.2]
      simp only [current, voltage, List.filter_append]
      by_cases isCurrent : call.1 = 2
      · simp [isCurrent]
      · by_cases isVoltage : call.1 = 22
        · simp [isVoltage]
        · simp [isCurrent, isVoltage]

structure Stations.Serving (s : Stations) (orders : Orders) : Prop where
  allowed : orders.Allowed
  pv : s.pv.Serving pvInverterFile (orders.pv.flatMap Order.calls)
  ev : s.ev.Serving evChargerFile (orders.ev.flatMap Order.calls)
  hp : s.hp.Serving heatPumpFile (orders.hp.flatMap Order.calls)

def Orders.append (orders orders' : Orders) : Orders :=
  ⟨orders.pv ++ orders'.pv, orders.ev ++ orders'.ev, orders.hp ++ orders'.hp⟩

theorem Stations.start_serving : Stations.start.Serving ⟨[], [], []⟩ where
  allowed := ⟨by simp, by simp, by simp⟩
  pv := Station.start_serving pvInverterFile
  ev := Station.start_serving evChargerFile
  hp := Station.start_serving heatPumpFile

theorem Stations.Serving.files {s : Stations} {orders : Orders} (serving : s.Serving orders) :
    FilesRead s.files ⟨lastWritten 2 10 orders.pv, lastWritten 22 100 orders.pv⟩ := by
  obtain ⟨⟨pvAllowed, evAllowed, hpAllowed⟩, pv, ev, hp⟩ := serving
  have pvCalls := @Order.calls_allowed pvInverterFile orders.pv pvAllowed
  have evCalls := @Order.calls_allowed evChargerFile orders.ev evAllowed
  have hpCalls := @Order.calls_allowed heatPumpFile orders.hp hpAllowed
  obtain ⟨pvText, pvRun, pvStores⟩ := run_readings (by simp [fileWriters]) pvCalls
  obtain ⟨evText, evRun, evStores⟩ := run_readings (by simp [fileWriters]) evCalls
  obtain ⟨hpText, hpRun, hpStores⟩ := run_readings (by simp [fileWriters]) hpCalls
  rw [readings_lastWritten] at pvStores
  rw [readings_unpassed (.inl rfl) evCalls] at evStores
  rw [readings_unpassed (.inr rfl) hpCalls] at hpStores
  exact ⟨⟨pvText, pv.file.trans pvRun, pvStores⟩, ⟨evText, ev.file.trans evRun, evStores⟩,
    ⟨hpText, hp.file.trans hpRun, hpStores⟩⟩

section
variable {toStation : Carrier} (lossless : Lossless toStation) (rounds : Nat)
include lossless

theorem Stations.Serving.run {s : Stations} {orders orders' : Orders} (serving : s.Serving orders)
    (allowed : orders'.Allowed) :
    (s.run toStation (rounds + 1) orders'.traffic).Serving (orders.append orders') := by
  obtain ⟨⟨pvAllowed, evAllowed, hpAllowed⟩, pv, ev, hp⟩ := serving
  refine ⟨⟨?_, ?_, ?_⟩, ?_, ?_, ?_⟩
  · exact List.forall_mem_append.mpr ⟨pvAllowed, allowed.pv⟩
  · exact List.forall_mem_append.mpr ⟨evAllowed, allowed.ev⟩
  · exact List.forall_mem_append.mpr ⟨hpAllowed, allowed.hp⟩
  · rw [Orders.append, List.flatMap_append]
    exact pv.run lossless rounds orders'.pv allowed.pv
  · rw [Orders.append, List.flatMap_append]
    exact ev.run lossless rounds orders'.ev allowed.ev
  · rw [Orders.append, List.flatMap_append]
    exact hp.run lossless rounds orders'.hp allowed.hp

theorem Stations.Serving.watch {s : Stations} {orders : Orders} (serving : s.Serving orders)
    (later : List Orders) (allowed : ∀ orders ∈ later, orders.Allowed) :
    let watched := s.watch toStation (rounds + 1) (later.map Orders.traffic)
    let inverter := orders.pv ++ later.flatMap Orders.pv
    (∀ files ∈ s.files :: watched, ∃ r, FilesRead files r) ∧
      FilesRead (watched.getLastD s.files) ⟨lastWritten 2 10 inverter, lastWritten 22 100 inverter⟩ := by
  induction later generalizing s orders with
  | nil =>
      rw [List.map_nil, Stations.watch, List.flatMap_nil, List.append_nil]
      refine ⟨?_, serving.files⟩
      intro files member
      rw [List.mem_singleton.mp member]
      exact ⟨_, serving.files⟩
  | cons orders' later ih =>
      obtain ⟨first, others⟩ := List.forall_mem_cons.mp allowed
      obtain ⟨reads, last⟩ := ih (serving.run lossless rounds first) others
      rw [List.map_cons, Stations.watch, List.flatMap_cons, ← List.append_assoc]
      refine ⟨List.forall_mem_cons.mpr ⟨⟨_, serving.files⟩, reads⟩, ?_⟩
      rw [List.getLastD_cons]
      exact last

/-- Once the last write to each register of the controller has been delivered, it has printed the low
bytes of the words last written to registers 2 and 22 of the inverter, the values with which the files
of the charger and of the heat pump were made, and the totals of all these. -/
theorem energyNetwork_shows (fate : Nat → Fate) {toController toMeter : Carrier}
    (outward : Lossless toController) (homeward : Lossless toMeter) {c : Conn (Line ControllerLink)}
    (new : NewController c) (before : Orders) (later : List Orders)
    (allowed : ∀ orders ∈ before :: later, orders.Allowed) :
    let inverter := (before :: later).flatMap Orders.pv
    ∃ m, energyNetwork fate toStation toController toMeter (rounds + 1) before.traffic
        (later.map Orders.traffic) .start c = .ok m ∧
      (UpToDate m.notices →
        Prints m (networkShows ⟨lastWritten 2 10 inverter, lastWritten 22 100 inverter⟩)) := by
  obtain ⟨first, others⟩ := List.forall_mem_cons.mp allowed
  obtain ⟨reads, last⟩ :=
    (Stations.start_serving.run lossless rounds first).watch lossless rounds later others
  exact run_shows fate outward homeward new _ _ reads last

end

def writesBefore : Orders := ⟨[.request 1 255 (.writeRegister 2 300)], [], []⟩
def writesLater : Orders :=
  ⟨[.request 2 255 (.writeRegister 22 230), .reconnect], [.request 1 255 (.writeRegister 0 77)], []⟩

theorem energyNetwork_shows_writes :
    ∃ m, energyNetwork (fun _ => .delivered) carryWhole carryWhole carryWhole 1 writesBefore.traffic
        [writesLater.traffic] .start newMeterLine = .ok m ∧ Prints m (networkShows ⟨44, 230⟩) := by
  obtain ⟨m, run, shows_⟩ := energyNetwork_shows carryWhole_lossless 0 (fun _ => .delivered)
    carryWhole_lossless carryWhole_lossless newMeterLine_new writesBefore [writesLater] (by
      simp only [List.forall_mem_cons, List.not_mem_nil, false_imp_iff, implies_true, and_true]
      constructor
      · constructor <;> simp [writesBefore, Order.Allowed, ClientOp.InRange, AddressInRange, pvInverter]
      · constructor <;> simp [writesLater, Order.Allowed, ClientOp.InRange, AddressInRange, pvInverter,
          evCharger])
  have upToDate : (energyNetwork (fun _ => .delivered) carryWhole carryWhole carryWhole 1
      writesBefore.traffic [writesLater.traffic] .start newMeterLine).map
        (fun m => decide (UpToDate m.notices)) = .ok true := by
    decide +kernel
  refine ⟨m, run, shows_ ?_⟩
  rw [show energyNetwork (fun _ => .delivered) carryWhole carryWhole carryWhole 1 writesBefore.traffic
    [writesLater.traffic] .start newMeterLine = .ok m from run] at upToDate
  exact of_decide_eq_true (Except.ok.inj upToDate)

end ModbusNet
