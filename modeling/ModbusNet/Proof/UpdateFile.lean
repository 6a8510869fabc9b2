import Mathlib.Data.List.TakeWhile
import ModbusNet.Model.UpdateFile
import ModbusNet.Proof.Accounts

namespace ModbusNet

theorem Numeric.plain {c : Char} (numeric : Numeric c) : c ≠ '\n' ∧ c ≠ '\x00' := by
  constructor
  · rintro rfl
    exact absurd numeric (by decide)
  · rintro rfl
    exact absurd numeric (by decide)

def registerBody (precision : Nat) (address : Int) (value : ℚ) : List Char :=
  ['0', 'x'] ++ (printInt 4 address ++ (List.replicate 4 ' ' ++ printFloat 6 precision value))

theorem registerLine_eq (precision : Nat) (address : Int) (value : ℚ) :
    registerLine precision address value = registerBody precision address value ++ ['\n'] := by
  simp [registerLine, registerBody]

theorem fields_numeric (width precision : Nat) (address : Int) (value : ℚ) :
    ∀ c ∈ printInt width address ++ (List.replicate 4 ' ' ++ printFloat 6 precision value),
      Numeric c := by
  intro c member
  rcases List.mem_append.mp member with address' | later
  · exact printInt_numeric width address c address'
  · rcases List.mem_append.mp later with blank | value'
    · rw [List.eq_of_mem_replicate blank]
      exact .inr (.inl rfl)
    · exact printFloat_numeric 6 precision value c value'

theorem registerBody_plain (precision : Nat) (address : Int) (value : ℚ) :
    '\n' ∉ registerBody precision address value ∧ '\x00' ∉ registerBody precision address value := by
  have numeric := fields_numeric 4 precision address value
  constructor
  · intro member
    rcases List.mem_append.mp member with mark | fields
    · simp at mark
    · exact (numeric _ fields).plain.1 rfl
  · intro member
    rcases List.mem_append.mp member with mark | fields
    · simp at mark
    · exact (numeric _ fields).plain.2 rfl

theorem registerLine_clean (precision : Nat) (address : Int) (value : ℚ) :
    '\x00' ∉ registerLine precision address value := by
  rw [registerLine_eq]
  intro member
  rcases List.mem_append.mp member with body | newline
  · exact (registerBody_plain precision address value).2 body
  · simp at newline

theorem appendedLine_eq (address : Int) (value : ℚ) :
    appendedLine address value =
      (printInt 6 address ++ (List.replicate 4 ' ' ++ printFloat 6 1 value)) ++ ['\n'] := by
  simp [appendedLine]

theorem appendedLine_clean (address : Int) (value : ℚ) : '\x00' ∉ appendedLine address value := by
  rw [appendedLine_eq]
  intro member
  rcases List.mem_append.mp member with fields | newline
  · exact (fields_numeric 6 1 address value _ fields).plain.2 rfl
  · simp at newline

def registerLineLength (precision v : Nat) : Nat :=
  11 + max 6 ((Nat.toDigits 10 v).length + 1 + precision)

theorem registerLine_length {precision v : Nat} {address : Int} (positive : 0 < precision)
    (fits : (intText address).length ≤ 4) :
    (registerLine precision address v).length = registerLineLength precision v := by
  have value := fixedText_natCast positive v
  have written : (printFloat 6 precision v).length =
      max 6 ((Nat.toDigits 10 v).length + 1 + precision) := by
    rw [printFloat, List.length_leftpad, value, List.length_append, List.length_cons,
      List.length_replicate]
    omega
  simp only [registerLine, List.length_append, printInt_length fits, written, List.length_replicate,
    List.length_cons, List.length_nil, registerLineLength]
  omega

theorem digits_le_four {v : Nat} (small : v ≤ 9999) : (Nat.toDigits 10 v).length ≤ 4 :=
  (Nat.length_toDigits_le_iff (by decide) (Nat.succ_pos 3)).mpr (by omega)

theorem sscanfRegister_registerLine {precision v : Nat} {address : Int} (positive : 0 < precision)
    (fits : (intText address).length ≤ 4) (small : v ≤ 9999) :
    sscanfRegister (registerLine precision address v) = some (address, .finite v) := by
  have scanned : scanInt 4 (printInt 4 address ++
      (List.replicate 4 ' ' ++ (printFloat 6 precision v ++ ['\n']))) =
        some (address, List.replicate 4 ' ' ++ (printFloat 6 precision v ++ ['\n'])) := by
    apply scanInt_printInt fits
    intro c head
    obtain rfl : ' ' = c := Option.some.inj head
    decide
  have value : scanFloat 6 (List.replicate 4 ' ' ++ (printFloat 6 precision v ++ ['\n'])) =
      some (.finite v) := by
    apply scanFloat_printFloat positive (by omega)
    · have digits := digits_le_four small
      omega
    · rfl
    · intro c head
      obtain rfl : '\n' = c := Option.some.inj head
      decide
  rw [registerLine, List.cons_append, List.cons_append, List.nil_append, sscanfRegister, scanned]
  simp only [value, Option.map_some]

theorem initialLines_clean {w : FileWriter} (program : w ∈ fileWriters) :
    '\x00' ∉ w.initialLines.flatten := by
  rcases List.mem_cons.mp program with rfl | later
  · decide +kernel
  · rcases List.mem_cons.mp later with rfl | last
    · decide +kernel
    · rw [List.mem_singleton.mp last]
      decide +kernel

theorem updateText_clean (w : FileWriter) {text : List Char} (clean : '\x00' ∉ text) (address : Int)
    (value : ℚ) : '\x00' ∉ w.updateText text address value := by
  rw [FileWriter.updateText]
  intro member
  split at member
  · rcases mem_store member with old | new
    · exact clean old
    · exact registerLine_clean _ _ _ new
  · rcases List.mem_append.mp member with old | new
    · exact clean old
    · exact appendedLine_clean _ _ new

theorem FileWriter.run_append (w : FileWriter) {calls : List (Int × ℚ)} {text : List Char}
    (reached : w.run calls = some text) (address : Int) (value : ℚ) :
    w.run (calls ++ [(address, value)]) = some (w.updateText text address value) := by
  rw [FileWriter.run] at reached
  rw [FileWriter.run, List.foldl_append, reached]
  rfl

theorem run_clean {w : FileWriter} (program : w ∈ fileWriters) (calls : List (Int × ℚ)) :
    ∃ text, w.run calls = some text ∧ '\x00' ∉ text := by
  induction calls using List.reverseRecOn with
  | nil => exact ⟨_, rfl, initialLines_clean program⟩
  | append_singleton calls call ih =>
      obtain ⟨text, reached, clean⟩ := ih
      exact ⟨_, w.run_append reached call.1 call.2, updateText_clean w clean call.1 call.2⟩

theorem takeWhile_clean {line : List Char} (clean : '\x00' ∉ line) :
    line.takeWhile (· ≠ '\x00') = line := by
  rw [List.takeWhile_eq_self_iff]
  intro c member
  exact decide_eq_true fun same => clean (same ▸ member)

theorem clean_line {text : List Char} (clean : '\x00' ∉ text) :
    ∀ l ∈ fgetsFrom updateBufferSize [] text, '\x00' ∉ l := by
  intro l member inside
  have whole := fgetsFrom_flatten updateBufferSize [] text
  rw [List.nil_append] at whole
  exact clean (whole ▸ List.mem_flatten_of_mem member inside)

theorem findRegister_append {a : Int} {pre : List (List Char)}
    (clean : ∀ l ∈ pre, '\x00' ∉ l) (skipped : ∀ l ∈ pre, ∀ y, sscanfRegister l ≠ some (a, y))
    (position : Nat) (lines : List (List Char)) :
    findRegister a position (pre ++ lines) = findRegister a (position + pre.flatten.length) lines := by
  induction pre generalizing position with
  | nil => rfl
  | cons l pre ih =>
      have rest := ih (fun l' member => clean l' (List.mem_cons_of_mem l member))
        (fun l' member => skipped l' (List.mem_cons_of_mem l member)) (position + l.length)
      rw [List.cons_append, findRegister, takeWhile_clean (clean l List.mem_cons_self), rest,
        List.flatten_cons, List.length_append, Nat.add_assoc]
      cases scanned : sscanfRegister l with
      | none => rfl
      | some found =>
          obtain ⟨b, y⟩ := found
          have other : b ≠ a := fun same => skipped l List.mem_cons_self y (same ▸ scanned)
          exact if_neg other

theorem findRegister_found {a : Int} {x : Binary32} {line : List Char} (clean : '\x00' ∉ line)
    (matched : sscanfRegister line = some (a, x)) (position : Nat) (post : List (List Char)) :
    findRegister a position (line :: post) = some position := by
  rw [findRegister, takeWhile_clean clean, matched]
  simp only [if_true]
  congr 1
  omega

theorem findRegister_absent {a : Int} {lines : List (List Char)} (clean : ∀ l ∈ lines, '\x00' ∉ l)
    (absent : ∀ l ∈ lines, ∀ y, sscanfRegister l ≠ some (a, y)) (position : Nat) :
    findRegister a position lines = none := by
  rw [← List.append_nil lines, findRegister_append clean absent]
  rfl

theorem updateText_found (w : FileWriter) {text line : List Char} {pre post : List (List Char)}
    (clean : '\x00' ∉ text) (lines : fgetsFrom updateBufferSize [] text = pre ++ line :: post)
    {a : Int} {x : Binary32} (matched : sscanfRegister line = some (a, x))
    (skipped : ∀ l ∈ pre, ∀ y, sscanfRegister l ≠ some (a, y)) (value : ℚ) :
    w.updateText text a value = pre.flatten ++ (registerLine w.precision a value ++
      (line ++ post.flatten).drop (registerLine w.precision a value).length) := by
  obtain ⟨whole, -, -⟩ := fgetsFrom_split lines
  have cleanLines := clean_line clean
  rw [lines] at cleanLines
  rw [FileWriter.updateText, lines,
    findRegister_append (fun l member => cleanLines l (List.mem_append_left _ member)) skipped,
    findRegister_found (cleanLines line (List.mem_append_right _ List.mem_cons_self)) matched,
    Nat.zero_add]
  simp only [store]
  rw [whole, List.take_left' rfl, ← List.drop_drop, List.drop_left' rfl]

theorem updateText_absent (w : FileWriter) {text : List Char} (clean : '\x00' ∉ text) {a : Int}
    (absent : ∀ l ∈ fgetsFrom updateBufferSize [] text, ∀ y, sscanfRegister l ≠ some (a, y))
    (value : ℚ) : w.updateText text a value = text ++ appendedLine a value := by
  rw [FileWriter.updateText, findRegister_absent (clean_line clean) absent]

theorem entriesFrom_replaced {a : Int} {x x' : Binary32} {line line' : List Char}
    (scanned : sscanfRegister line = some (a, x)) (scanned' : sscanfRegister line' = some (a, x'))
    (pre post : List (List Char)) (current : Bool) :
    (entriesFrom current (pre ++ line' :: post)).filter (·.address ≠ Meter.registerAddress a) =
      (entriesFrom current (pre ++ line :: post)).filter (·.address ≠ Meter.registerAddress a) := by
  induction pre generalizing current with
  | nil =>
      rw [List.nil_append, List.nil_append, entriesFrom_register scanned,
        entriesFrom_register scanned']
      split
      · rfl
      · rw [List.filter_cons_of_neg (by simp), List.filter_cons_of_neg (by simp)]
  | cons l pre ih =>
      rw [List.cons_append, List.cons_append, entriesFrom, entriesFrom]
      split
      · exact ih true
      · split
        · exact ih false
        · cases sscanfRegister l with
          | none => exact ih current
          | some found =>
              simp only
              split
              · exact ih current
              · rw [List.filter_cons, List.filter_cons, ih current]

/-- The lines around the line of an address are still there, and the meter reads the same of the
other registers, with the section that each of them is in. -/
structure LeavesRest (a : Int) (pre post : List (List Char)) (text text' : List Char) : Prop where
  lines : ∃ line', fgetsFrom updateBufferSize [] text' = pre ++ line' :: post
  readings : (entries (some text')).filter (·.address ≠ Meter.registerAddress a) =
    (entries (some text)).filter (·.address ≠ Meter.registerAddress a)

theorem entries_clean {text : List Char} (clean : '\x00' ∉ text) :
    entries (some text) = entriesFrom false (fgetsFrom updateBufferSize [] text) := by
  have size : meterLineSize = updateBufferSize := rfl
  have same : (fgetsFrom updateBufferSize [] text).map (List.takeWhile (· ≠ '\x00')) =
      fgetsFrom updateBufferSize [] text :=
    (List.map_congr_left fun l member => takeWhile_clean (clean_line clean l member)).trans
      (List.map_id _)
  rw [entries, fgetsLines, size, same]

theorem registerLine_ends {precision v : Nat} {address : Int} (positive : 0 < precision)
    (fits : (intText address).length ≤ 4) (short : registerLineLength precision v < updateBufferSize) :
    EndsLine updateBufferSize (registerLine precision address v) := by
  have length := registerLine_length (v := v) positive fits
  rw [registerLine_eq, List.length_append, List.length_singleton] at length
  rw [registerLine_eq]
  exact endsLine_newline (registerBody_plain precision address v).1 (length.trans_lt short)

theorem sscanfRegister_fits {line : List Char} {a : Int} {x : Binary32}
    (matched : sscanfRegister line = some (a, x)) : (intText a).length ≤ 4 := by
  rw [sscanfRegister.eq_def] at matched
  split at matched
  · split at matched
    · rename_i scanned
      obtain ⟨value, -, same⟩ := Option.map_eq_some_iff.mp matched
      rw [← (Prod.mk.inj same).1]
      exact scanInt_fits scanned
    · cases matched
  · cases matched

theorem drop_append_eq_iff {α : Type} (old rest : List α) (n : Nat) :
    (old ++ rest).drop n = rest ↔ old.length = n ∨ rest = [] ∧ old.length ≤ n := by
  constructor
  · intro same
    have length := congrArg List.length same
    rw [List.length_drop, List.length_append] at length
    rcases Nat.lt_trichotomy old.length n with longer | equal | shorter
    · refine .inr ⟨List.length_eq_zero_iff.mp ?_, longer.le⟩
      omega
    · exact .inl equal
    · omega
  · rintro (equal | ⟨rfl, longer⟩)
    · exact List.drop_left' equal
    · rw [List.append_nil]
      exact List.drop_of_length_le longer

theorem fileWriters_precision {w : FileWriter} (program : w ∈ fileWriters) :
    0 < w.precision ∧ w.precision ≤ 6 := by
  simp only [fileWriters, List.mem_cons, List.not_mem_nil, or_false] at program
  rcases program with rfl | rfl | rfl <;> decide

theorem leavesRest_iff {w : FileWriter} (program : w ∈ fileWriters) {calls : List (Int × ℚ)}
    {text : List Char} (reached : w.run calls = some text) {line : List Char}
    {pre post : List (List Char)} (lines : fgetsFrom updateBufferSize [] text = pre ++ line :: post)
    {a : Int} {x : Binary32} (matched : sscanfRegister line = some (a, x))
    (skipped : ∀ l ∈ pre, ∀ y, sscanfRegister l ≠ some (a, y)) {v : Nat} (small : v ≤ 255) :
    LeavesRest a pre post text (w.updateText text a v) ↔
      line.length = registerLineLength w.precision v ∨
        post = [] ∧ line.length ≤ registerLineLength w.precision v := by
  obtain ⟨whole, before, after⟩ := fgetsFrom_split lines
  obtain ⟨positive, precise⟩ := fileWriters_precision program
  have clean : '\x00' ∉ text := by
    obtain ⟨text', same, clean⟩ := run_clean program calls
    rw [reached] at same
    rwa [Option.some.inj same]
  have fits := sscanfRegister_fits matched
  have digits : (Nat.toDigits 10 v).length ≤ 4 := digits_le_four (by omega)
  have short : registerLineLength w.precision v < updateBufferSize := by
    rw [registerLineLength, updateBufferSize]
    omega
  have written := updateText_found w clean lines matched skipped v
  rw [registerLine_length positive fits] at written
  have lines' : fgetsFrom updateBufferSize [] (w.updateText text a v) = pre ++
      registerLine w.precision a v :: fgetsFrom updateBufferSize []
        ((line ++ post.flatten).drop (registerLineLength w.precision v)) := by
    rw [written, before, registerLine_ends positive fits short]
  have nothing : post.flatten = [] ↔ post = [] := by
    constructor
    · intro empty
      rw [empty] at after
      exact after.symm
    · rintro rfl
      rfl
  -- The lines behind are kept when the text behind the new line is the one behind the old line.
  rw [← nothing, ← drop_append_eq_iff]
  constructor
  · rintro ⟨⟨line', same⟩, -⟩
    rw [lines'] at same
    have later := (List.cons.inj (List.append_cancel_left same)).2
    have flat := fgetsFrom_flatten updateBufferSize []
      ((line ++ post.flatten).drop (registerLineLength w.precision v))
    rw [later, List.nil_append] at flat
    exact flat.symm
  · intro kept
    rw [kept, after] at lines'
    refine ⟨⟨_, lines'⟩, ?_⟩
    have scanned' := sscanfRegister_registerLine positive fits (small.trans (by decide))
    rw [entries_clean clean, entries_clean (updateText_clean w clean a v), lines', lines]
    exact entriesFrom_replaced matched scanned' pre post false

def FileWriter.voltageLines (w : FileWriter) : List (List Char) :=
  [['\n'], voltageRegisterLine, addressValueLine, registerLine 1 w.voltageAddress 100]

theorem leavesRest_iff_pvInverter :
    LeavesRest 3002 [currentRegisterLine, addressValueLine] pvInverterFile.voltageLines
      pvInverterFile.initialLines.flatten
      (pvInverterFile.updateText pvInverterFile.initialLines.flatten 3002 (20 : Nat)) :=
  (leavesRest_iff (by simp [fileWriters])
    (rfl : pvInverterFile.run [] = some pvInverterFile.initialLines.flatten)
    (by decide +kernel) (by decide +kernel : sscanfRegister (registerLine 1 3002 10) =
      some (3002, .finite 10))
    (by
      intro l member y
      have unscanned : sscanfRegister l = none := by
        rcases List.mem_pair.mp member with rfl | rfl <;> rfl
      rw [unscanned]
      exact Option.some_ne_none _ |>.symm) (by decide)).mpr (.inl (by decide +kernel))

/-- A first write of 20 A eats the blank line and the beginning of the header behind it: the voltage
is then read as a current. -/
theorem voltageHeader_eaten :
    evChargerFile.run [] = some evChargerFile.initialLines.flatten ∧
      fgetsFrom updateBufferSize [] evChargerFile.initialLines.flatten =
        [currentRegisterLine, addressValueLine] ++
          registerLine 1 3004 10 :: evChargerFile.voltageLines ∧
      sscanfRegister (registerLine 1 3004 10) = some (3004, .finite 10) ∧
      ¬ LeavesRest 3004 [currentRegisterLine, addressValueLine] evChargerFile.voltageLines
        evChargerFile.initialLines.flatten
        (evChargerFile.updateText evChargerFile.initialLines.flatten 3004 (20 : Nat)) := by
  refine ⟨rfl, by decide +kernel, by decide +kernel, ?_⟩
  rintro ⟨-, readings⟩
  have before : entries (some evChargerFile.initialLines.flatten) =
      [⟨true, 4, .finite 10⟩, ⟨false, 24, .finite 100⟩] := by decide +kernel
  have after : entries (some (evChargerFile.updateText evChargerFile.initialLines.flatten 3004
      (20 : Nat))) = [⟨true, 4, .finite 20⟩, ⟨true, 24, .finite 100⟩] := by decide +kernel
  rw [before, after] at readings
  revert readings
  decide +kernel

end ModbusNet
