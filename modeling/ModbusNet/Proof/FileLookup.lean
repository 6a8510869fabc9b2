import ModbusNet.Proof.UpdateFile

namespace ModbusNet

structure Readings where
  current : Nat
  voltage : Nat

namespace Readings

def update (w : FileWriter) (s : Readings) (address : Int) (v : Nat) : Readings :=
  if address = w.currentAddress then { s with current := v }
  else if address = w.voltageAddress then { s with voltage := v }
  else s

def Small (s : Readings) : Prop := s.current ≤ 9999 ∧ s.voltage ≤ 9999

theorem Small.update {w : FileWriter} {s : Readings} (small : s.Small) (address : Int) {v : Nat}
    (bound : v ≤ 9999) : (s.update w address v).Small := by
  obtain ⟨current, voltage⟩ := small
  rw [Readings.update]
  split
  · exact ⟨bound, voltage⟩
  · split
    · exact ⟨current, bound⟩
    · exact ⟨current, voltage⟩

theorem update_other {w : FileWriter} {s : Readings} {address : Int} {v : Nat}
    (notCurrent : address ≠ w.currentAddress) (notVoltage : address ≠ w.voltageAddress) :
    s.update w address v = s := by
  rw [update, if_neg notCurrent, if_neg notVoltage]

end Readings

namespace FileWriter
variable (w : FileWriter)

def fileLines (s : Readings) : List (List Char) :=
  [currentRegisterLine, addressValueLine, registerLine 1 w.currentAddress s.current, ['\n'],
    voltageRegisterLine, addressValueLine, registerLine 1 w.voltageAddress s.voltage]

def initialReadings : Readings := ⟨10, 100⟩

theorem initialLines_eq : w.initialLines = w.fileLines initialReadings := by
  simp [initialLines, fileLines, initialReadings]

structure Addressed : Prop where
  current : 3000 ≤ w.currentAddress ∧ w.currentAddress ≤ 3030
  voltage : 3000 ≤ w.voltageAddress ∧ w.voltageAddress ≤ 3030
  apart : w.currentAddress ≠ w.voltageAddress

end FileWriter

theorem fileWriters_addressed {w : FileWriter} (program : w ∈ fileWriters) : w.Addressed := by
  simp only [fileWriters, List.mem_cons, List.not_mem_nil, or_false] at program
  rcases program with rfl | rfl | rfl <;> exact ⟨by decide, by decide, by decide⟩

theorem intText_length {address : Int} (nonnegative : 0 ≤ address) (small : address ≤ 9999) :
    (intText address).length ≤ 4 := by
  rw [intText, if_neg (not_lt.mpr nonnegative)]
  exact digits_le_four (by omega)

def Appended (line : List Char) : Prop :=
  ∃ (address : Int) (v : Nat), 0 ≤ address ∧ address ≤ 9999 ∧ v ≤ 9999 ∧ line = appendedLine address v

theorem appendedLine_chars (address : Int) (value : ℚ) :
    ∀ c ∈ appendedLine address value, Numeric c ∨ c = '\n' := by
  intro c member
  rw [appendedLine_eq] at member
  rcases List.mem_append.mp member with fields | newline
  · exact .inl (fields_numeric 6 1 address value c fields)
  · exact .inr (List.mem_singleton.mp newline)

theorem Appended.unscanned {line : List Char} (appended : Appended line) :
    sscanfRegister line = none := by
  obtain ⟨address, v, -, -, -, rfl⟩ := appended
  have marked : 'x' ∉ appendedLine address v := by
    intro member
    exact absurd (appendedLine_chars address v 'x' member) (by decide)
  rw [sscanfRegister.eq_def]
  split
  · rename_i same
    rw [same] at marked
    exact absurd (List.mem_cons_of_mem '0' List.mem_cons_self) marked
  · rfl

theorem Appended.notHeader {line : List Char} (appended : Appended line) :
    line ≠ currentRegisterLine ∧ line ≠ voltageRegisterLine := by
  obtain ⟨address, v, -, -, -, rfl⟩ := appended
  have letter : 'R' ∉ appendedLine address v := by
    intro member
    exact absurd (appendedLine_chars address v 'R' member) (by decide)
  constructor
  · intro same
    rw [same] at letter
    exact letter (by decide)
  · intro same
    rw [same] at letter
    exact letter (by decide)

theorem entriesFrom_appended {appended : List (List Char)} (all : ∀ l ∈ appended, Appended l)
    (current : Bool) : entriesFrom current appended = [] := by
  induction appended with
  | nil => rfl
  | cons l appended ih =>
      have first := all l List.mem_cons_self
      rw [entriesFrom_unscanned first.notHeader.1 first.notHeader.2 first.unscanned]
      exact ih fun l' member => all l' (List.mem_cons_of_mem l member)

theorem Appended.ends {line : List Char} (appended : Appended line) :
    EndsLine updateBufferSize line := by
  obtain ⟨address, v, nonnegative, bound, small, rfl⟩ := appended
  have digits := digits_le_four small
  have address' := intText_length nonnegative bound
  rw [appendedLine_eq]
  apply endsLine_newline
  · intro member
    exact (fields_numeric 6 1 address v _ member).plain.1 rfl
  · rw [List.length_append, List.length_append, printInt, List.length_leftpad,
      List.length_replicate, printFloat, List.length_leftpad, fixedText_natCast Nat.one_pos,
      List.length_append, List.length_cons, List.length_replicate, updateBufferSize]
    omega

structure RegisterShape (address : Int) (v : Nat) : Prop where
  length : (registerLine 1 address v).length = 17
  ends : EndsLine updateBufferSize (registerLine 1 address v)
  scanned : sscanfRegister (registerLine 1 address v) = some (address, .finite v)

theorem registerShape {address : Int} {v : Nat} (nonnegative : 0 ≤ address)
    (bound : address ≤ 9999) (small : v ≤ 9999) : RegisterShape address v := by
  have fits := intText_length nonnegative bound
  have digits := digits_le_four small
  have length : registerLineLength 1 v = 17 := by
    rw [registerLineLength]
    omega
  refine ⟨(registerLine_length Nat.one_pos fits).trans length, ?_,
    sscanfRegister_registerLine Nat.one_pos fits small⟩
  apply registerLine_ends Nat.one_pos fits
  rw [length]
  decide

structure Stores (w : FileWriter) (s : Readings) (text : List Char) : Prop where
  small : s.Small
  clean : '\x00' ∉ text
  lines : ∃ appended, (∀ l ∈ appended, Appended l) ∧ text = (w.fileLines s ++ appended).flatten

theorem headers_end : EndsLine updateBufferSize currentRegisterLine ∧
    EndsLine updateBufferSize voltageRegisterLine ∧ EndsLine updateBufferSize addressValueLine ∧
    EndsLine updateBufferSize ['\n'] :=
  ⟨(endsLine_newline (by decide) (by decide) :
      EndsLine updateBufferSize ("Current Register".toList ++ ['\n'])),
    (endsLine_newline (by decide) (by decide) :
      EndsLine updateBufferSize ("Voltage Register".toList ++ ['\n'])),
    (endsLine_newline (by decide) (by decide) :
      EndsLine updateBufferSize ("Address Value".toList ++ ['\n'])),
    (endsLine_newline (by decide) (by decide) : EndsLine updateBufferSize ([] ++ ['\n']))⟩

theorem Stores.initial {w : FileWriter} (program : w ∈ fileWriters) :
    Stores w FileWriter.initialReadings w.initialLines.flatten where
  small := ⟨by decide, by decide⟩
  clean := initialLines_clean program
  lines := ⟨[], by simp, by rw [w.initialLines_eq, List.append_nil]⟩

theorem updateText_replaced {w : FileWriter} {text : List Char} (clean : '\x00' ∉ text) {a : Int} {x v : Nat}
    {pre post : List (List Char)}
    (lines : fgetsFrom updateBufferSize [] text = pre ++ registerLine 1 a x :: post)
    (skipped : ∀ l ∈ pre, ∀ y, sscanfRegister l ≠ some (a, y)) (format : w.precision = 1)
    (old : RegisterShape a x) (new : RegisterShape a v) :
    w.updateText text a v = (pre ++ registerLine 1 a v :: post).flatten := by
  rw [updateText_found w clean lines old.scanned skipped, format, new.length,
    List.drop_left' old.length, List.flatten_append, List.flatten_cons]

section
variable {w : FileWriter} (addressed : w.Addressed) {s : Readings}
include addressed

theorem currentShape {v : Nat} (small : v ≤ 9999) : RegisterShape w.currentAddress v := by
  obtain ⟨low, high⟩ := addressed.current
  apply registerShape
  · omega
  · omega
  · exact small

theorem voltageShape {v : Nat} (small : v ≤ 9999) : RegisterShape w.voltageAddress v := by
  obtain ⟨low, high⟩ := addressed.voltage
  apply registerShape
  · omega
  · omega
  · exact small

theorem fgetsFrom_fileLines (small : s.Small) {appended : List (List Char)}
    (behind : ∀ l ∈ appended, Appended l) :
    fgetsFrom updateBufferSize [] (w.fileLines s ++ appended).flatten = w.fileLines s ++ appended := by
  apply fgetsFrom_lines
  intro line member
  obtain ⟨current, voltage, addressValue, blank⟩ := headers_end
  rcases List.mem_append.mp member with written | later
  · simp only [FileWriter.fileLines, List.mem_cons, List.not_mem_nil, or_false] at written
    rcases written with rfl | rfl | rfl | rfl | rfl | rfl | rfl
    · exact current
    · exact addressValue
    · exact (currentShape addressed small.1).ends
    · exact blank
    · exact voltage
    · exact addressValue
    · exact (voltageShape addressed small.2).ends
  · exact (behind line later).ends

theorem Stores.entries_eq {text : List Char} (stores : Stores w s text) :
    entries (some text) =
      [⟨true, Meter.registerAddress w.currentAddress, .finite s.current⟩,
        ⟨false, Meter.registerAddress w.voltageAddress, .finite s.voltage⟩] := by
  obtain ⟨small, clean, appended, behind, rfl⟩ := stores
  have inRange : ∀ {a : Int}, 3000 ≤ a ∧ a ≤ 3030 →
      ¬ (meterNumRegisters : Int) < Meter.registerAddress a := by
    rintro a ⟨low, high⟩
    rw [Meter.registerAddress, if_pos low, meterNumRegisters]
    omega
  have current := entriesFrom_register (currentShape addressed small.1).scanned
  have voltage := entriesFrom_register (voltageShape addressed small.2).scanned
  rw [entries_clean clean, fgetsFrom_fileLines addressed small behind]
  have values := entriesFrom_unscanned (by decide) (by decide)
    (rfl : sscanfRegister addressValueLine = none)
  have blank := entriesFrom_unscanned (by decide) (by decide) (rfl : sscanfRegister ['\n'] = none)
  simp only [FileWriter.fileLines, List.cons_append, List.nil_append, entriesFrom_currentHeader,
    values, current, if_neg (inRange addressed.current), blank, entriesFrom_voltageHeader, voltage,
    if_neg (inRange addressed.voltage), entriesFrom_appended behind]

theorem scanned_fileLines (small : s.Small) {appended : List (List Char)}
    (behind : ∀ l ∈ appended, Appended l) :
    ∀ l ∈ w.fileLines s ++ appended, ∀ b y, sscanfRegister l = some (b, y) →
      b = w.currentAddress ∨ b = w.voltageAddress := by
  intro l member b y scanned
  rcases List.mem_append.mp member with written | later
  · simp only [FileWriter.fileLines, List.mem_cons, List.not_mem_nil, or_false] at written
    rcases written with rfl | rfl | rfl | rfl | rfl | rfl | rfl
    · cases scanned
    · cases scanned
    · rw [(currentShape addressed small.1).scanned] at scanned
      exact .inl (Prod.mk.inj (Option.some.inj scanned)).1.symm
    · cases scanned
    · cases scanned
    · cases scanned
    · rw [(voltageShape addressed small.2).scanned] at scanned
      exact .inr (Prod.mk.inj (Option.some.inj scanned)).1.symm
  · rw [(behind l later).unscanned] at scanned
    cases scanned

theorem Stores.updateText {text : List Char} (stores : Stores w s text) {a : Int} {v : Nat}
    (nonnegative : 0 ≤ a) (bound : a ≤ 9999) (small : v ≤ 9999)
    (format : a = w.currentAddress ∨ a = w.voltageAddress → w.precision = 1) :
    Stores w (s.update w a v) (w.updateText text a v) := by
  obtain ⟨small', clean, appended, behind, rfl⟩ := stores
  have lines := fgetsFrom_fileLines addressed small' behind
  have oldCurrent := currentShape addressed small'.1
  refine ⟨small'.update a small, updateText_clean w clean a v, ?_⟩
  by_cases isCurrent : a = w.currentAddress
  · refine ⟨appended, behind, ?_⟩
    rw [Readings.update, if_pos isCurrent, isCurrent]
    have skipped : ∀ l ∈ [currentRegisterLine, addressValueLine], ∀ y,
        sscanfRegister l ≠ some (w.currentAddress, y) := by
      intro l member y scanned
      rcases List.mem_pair.mp member with rfl | rfl <;> cases scanned
    exact updateText_replaced clean lines skipped (format (.inl isCurrent)) oldCurrent
      (currentShape addressed small)
  · by_cases isVoltage : a = w.voltageAddress
    · refine ⟨appended, behind, ?_⟩
      rw [Readings.update, if_neg isCurrent, if_pos isVoltage, isVoltage]
      have skipped : ∀ l ∈ [currentRegisterLine, addressValueLine,
          registerLine 1 w.currentAddress s.current, ['\n'], voltageRegisterLine, addressValueLine],
          ∀ y, sscanfRegister l ≠ some (w.voltageAddress, y) := by
        intro l member y scanned
        simp only [List.mem_cons, List.not_mem_nil, or_false] at member
        rcases member with rfl | rfl | rfl | rfl | rfl | rfl
        · cases scanned
        · cases scanned
        · rw [oldCurrent.scanned] at scanned
          exact addressed.apart (Prod.mk.inj (Option.some.inj scanned)).1
        · cases scanned
        · cases scanned
        · cases scanned
      exact updateText_replaced clean lines skipped (format (.inr isVoltage))
        (voltageShape addressed small'.2) (voltageShape addressed small)
    · rw [Readings.update_other isCurrent isVoltage]
      -- An address that is not in the file is appended in a form that the meter does not read.
      refine ⟨appended ++ [appendedLine a v], ?_, ?_⟩
      · intro l member
        rcases List.mem_append.mp member with old | new
        · exact behind l old
        · exact ⟨a, v, nonnegative, bound, small, List.mem_singleton.mp new⟩
      · rw [updateText_absent w clean]
        · simp
        · intro l member y scanned
          rw [lines] at member
          rcases scanned_fileLines addressed small' behind l member a y scanned with same | same
          · exact isCurrent same
          · exact isVoltage same

end

def FileWriter.passed (w : FileWriter) (calls : List (Nat × Nat)) : List (Int × ℚ) :=
  calls.map fun call => (call.1 + w.simulator.fileOffset, call.2)

def FileWriter.Allowed (w : FileWriter) (call : Nat × Nat) : Prop :=
  call.1 < w.simulator.numRegisters ∧ call.2 ≤ 9999

instance (w : FileWriter) (call : Nat × Nat) : Decidable (w.Allowed call) :=
  inferInstanceAs (Decidable (_ ∧ _))

def FileWriter.readings (w : FileWriter) (calls : List (Nat × Nat)) : Readings :=
  calls.foldl (fun s call => s.update w (call.1 + w.simulator.fileOffset) call.2)
    FileWriter.initialReadings

theorem FileWriter.readings_append (w : FileWriter) (calls : List (Nat × Nat)) (call : Nat × Nat) :
    w.readings (calls ++ [call]) =
      (w.readings calls).update w (call.1 + w.simulator.fileOffset) call.2 := by
  rw [FileWriter.readings, FileWriter.readings, List.foldl_append]
  rfl

theorem passed_bounds {w : FileWriter} (program : w ∈ fileWriters) {r : Nat}
    (register : r < w.simulator.numRegisters) :
    0 ≤ (r : Int) + w.simulator.fileOffset ∧ (r : Int) + w.simulator.fileOffset ≤ 9999 ∧
      ((r : Int) + w.simulator.fileOffset = w.currentAddress ∨
        (r : Int) + w.simulator.fileOffset = w.voltageAddress → w.precision = 1) := by
  simp only [fileWriters, List.mem_cons, List.not_mem_nil, or_false] at program
  rcases program with rfl | rfl | rfl <;>
    dsimp only [pvInverterFile, evChargerFile, heatPumpFile, pvInverter, evCharger, heatPump]
      at register ⊢
  · exact ⟨by omega, by omega, fun _ => rfl⟩
  · exact ⟨by omega, by omega, by omega⟩
  · exact ⟨by omega, by omega, by omega⟩

theorem run_readings {w : FileWriter} (program : w ∈ fileWriters) {calls : List (Nat × Nat)}
    (allowed : ∀ call ∈ calls, w.Allowed call) :
    ∃ text, w.run (w.passed calls) = some text ∧ Stores w (w.readings calls) text := by
  induction calls using List.reverseRecOn with
  | nil => exact ⟨_, rfl, Stores.initial program⟩
  | append_singleton calls call ih =>
      obtain ⟨text, reached, stores⟩ := ih fun c member => allowed c (List.mem_append_left _ member)
      obtain ⟨register, small⟩ := allowed call (List.mem_append_right _ (List.mem_singleton_self call))
      obtain ⟨nonnegative, bound, format⟩ := passed_bounds program register
      refine ⟨w.updateText text (call.1 + w.simulator.fileOffset) call.2, ?_, ?_⟩
      · rw [FileWriter.passed, List.map_append]
        exact w.run_append reached _ _
      · rw [w.readings_append]
        exact stores.updateText (fileWriters_addressed program) nonnegative bound small format

def Found (file : RegisterFile) (r v : Nat) : Prop :=
  ∃ e, (entries file).filter (fun e => e.address = (r : Int)) = [e] ∧ e.value = .finite v

theorem found_iff_readings {w : FileWriter} (addressed : w.Addressed) {s : Readings}
    {text : List Char} (stores : Stores w s text) (r v : Nat) :
    Found (some text) r v ↔
      Meter.registerAddress w.currentAddress = r ∧ s.current = v ∨
        Meter.registerAddress w.voltageAddress = r ∧ s.voltage = v := by
  have apart : Meter.registerAddress w.currentAddress ≠ Meter.registerAddress w.voltageAddress := by
    rw [Meter.registerAddress, Meter.registerAddress, if_pos addressed.current.1,
      if_pos addressed.voltage.1]
    have different := addressed.apart
    omega
  rw [Found, stores.entries_eq addressed]
  by_cases current : Meter.registerAddress w.currentAddress = r
  · have notVoltage : Meter.registerAddress w.voltageAddress ≠ r := fun same =>
      apart (current.trans same.symm)
    simp [current, notVoltage]
  · by_cases voltage : Meter.registerAddress w.voltageAddress = r
    · simp [current, voltage]
    · simp [current, voltage]

theorem unpassed {w : FileWriter} (plain : w = evChargerFile ∨ w = heatPumpFile) {r : Nat}
    (register : r < w.simulator.numRegisters) :
    (r : Int) + w.simulator.fileOffset ≠ w.currentAddress ∧
      (r : Int) + w.simulator.fileOffset ≠ w.voltageAddress ∧
      Meter.registerAddress w.voltageAddress ≠ r := by
  rcases plain with rfl | rfl
  · change (r : Int) + 0 ≠ 3004 ∧ (r : Int) + 0 ≠ 3024 ∧ (24 : Int) ≠ r
    change r < 2 at register
    omega
  · change (r : Int) + 0 ≠ 3000 ∧ (r : Int) + 0 ≠ 3020 ∧ (20 : Int) ≠ r
    change r < 2 at register
    omega

theorem readings_unpassed {w : FileWriter} (plain : w = evChargerFile ∨ w = heatPumpFile)
    {calls : List (Nat × Nat)} (allowed : ∀ call ∈ calls, w.Allowed call) :
    w.readings calls = FileWriter.initialReadings := by
  induction calls using List.reverseRecOn with
  | nil => rfl
  | append_singleton calls call ih =>
      obtain ⟨register, -⟩ := allowed call (List.mem_append_right _ (List.mem_singleton_self call))
      obtain ⟨notCurrent, notVoltage, -⟩ := unpassed plain register
      rw [w.readings_append, ih fun c member => allowed c (List.mem_append_left _ member),
        Readings.update_other notCurrent notVoltage]

/-- A written register is found if its address is in the file, or if the file has held its value for
the current all along. -/
theorem found_iff {w : FileWriter} (program : w ∈ fileWriters) {calls : List (Nat × Nat)}
    (allowed : ∀ call ∈ calls, w.Allowed call) {r v : Nat} (last : w.Allowed (r, v)) :
    Found (w.run (w.passed (calls ++ [(r, v)]))) r v ↔
      (r : Int) + w.simulator.fileOffset = w.currentAddress ∨
        (r : Int) + w.simulator.fileOffset = w.voltageAddress ∨
        Meter.registerAddress w.currentAddress = r ∧ v = 10 := by
  have all : ∀ call ∈ calls ++ [(r, v)], w.Allowed call := by
    intro call member
    rcases List.mem_append.mp member with old | new
    · exact allowed call old
    · rw [List.mem_singleton.mp new]
      exact last
  obtain ⟨text, reached, stores⟩ := run_readings program all
  rw [reached, found_iff_readings (fileWriters_addressed program) stores]
  obtain ⟨register, -⟩ := last
  have cases : w = pvInverterFile ∨ (w = evChargerFile ∨ w = heatPumpFile) := by
    simpa [fileWriters] using program
  rcases cases with rfl | plain
  · have isCurrent : (r : Int) + pvInverterFile.simulator.fileOffset =
        pvInverterFile.currentAddress ↔
          Meter.registerAddress pvInverterFile.currentAddress = r := by
      change (r : Int) + 3000 = 3002 ↔ (2 : Int) = r
      omega
    have isVoltage : (r : Int) + pvInverterFile.simulator.fileOffset =
        pvInverterFile.voltageAddress ↔
          Meter.registerAddress pvInverterFile.voltageAddress = r := by
      change (r : Int) + 3000 = 3022 ↔ (22 : Int) = r
      omega
    rw [FileWriter.readings_append, Readings.update]
    simp only [isCurrent, isVoltage]
    split
    · rename_i current
      simp [current]
    · split
      · rename_i voltage
        simp [voltage]
      · rename_i notCurrent notVoltage
        simp [notCurrent, notVoltage]
  · obtain ⟨notCurrent, notVoltage, elsewhere⟩ := unpassed plain register
    rw [readings_unpassed plain all]
    simp only [notCurrent, notVoltage, elsewhere, false_and, or_false, false_or,
      FileWriter.initialReadings, eq_comm]

theorem found_iff_pvInverter :
    Found (pvInverterFile.run (pvInverterFile.passed ([(2, 5), (7, 300)] ++ [(22, 230)]))) 22 230 :=
  (found_iff (by simp [fileWriters]) (by decide) (by decide)).mpr (.inr (.inl (by decide)))

theorem appended_not_found :
    evChargerFile.Allowed (0, 5) ∧ ¬ Found (evChargerFile.run (evChargerFile.passed [(0, 5)])) 0 5 ∧
      pvInverterFile.Allowed (5, 7) ∧
      ¬ Found (pvInverterFile.run (pvInverterFile.passed [(5, 7)])) 5 7 := by
  have charger : (entries (evChargerFile.run (evChargerFile.passed [(0, 5)]))).filter
      (fun e => e.address = ((0 : Nat) : Int)) = [] := by decide +kernel
  have inverter : (entries (pvInverterFile.run (pvInverterFile.passed [(5, 7)]))).filter
      (fun e => e.address = ((5 : Nat) : Int)) = [] := by decide +kernel
  refine ⟨by decide, ?_, by decide, ?_⟩
  · rintro ⟨e, one, -⟩
    rw [charger] at one
    cases one
  · rintro ⟨e, one, -⟩
    rw [inverter] at one
    cases one

end ModbusNet
