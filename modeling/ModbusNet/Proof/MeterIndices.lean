import ModbusNet.Proof.Accounts

namespace ModbusNet

namespace Meter

section
variable {κ : Type}

def usedIndices (register : Meter κ → Bool → Int → Binary32 → Except Failure (Meter κ)) :
    List Entry → Meter κ → List Int
  | [], _ => []
  | e :: es, m =>
      e.address ::
        match register m e.current e.address e.value with
        | .ok m => usedIndices register es m
        | .error _ => []

theorem usedIndices_mem {register : Meter κ → Bool → Int → Binary32 → Except Failure (Meter κ)}
    {es : List Entry} {m : Meter κ} {index : Int} (used : index ∈ usedIndices register es m) :
    ∃ e ∈ es, e.address = index := by
  induction es generalizing m with
  | nil => cases used
  | cons e es ih =>
      rcases List.mem_cons.mp used with rfl | later
      · exact ⟨e, List.mem_cons_self, rfl⟩
      · cases run : register m e.current e.address e.value with
        | error failed =>
            rw [run] at later
            cases later
        | ok m' =>
            rw [run] at later
            obtain ⟨e', member, same⟩ := ih later
            exact ⟨e', List.mem_cons_of_mem e member, same⟩

variable (writeRegister : κ → Int → Word → Except Failure Int × κ) {m : Meter κ}

theorem register_outside (size : m.prevValues.length = meterNumRegisters) {index : Int}
    (outside : ¬ InArray index) (imExPort : Nat) (current : Bool) (value : Binary32) :
    m.initializeRegister writeRegister imExPort current index value = .error .undefined ∧
      m.checkRegister writeRegister imExPort current index value = .error .undefined := by
  rw [initializeRegister, checkRegister, writeSlot, readSlot]
  by_cases low : 0 ≤ index
  · have beyond : m.prevValues.length ≤ index.toNat := by
      by_contra bound
      exact outside ⟨low, by omega⟩
    rw [if_pos low, if_pos low, writeTab, if_neg (not_lt.mpr beyond), readTab,
      List.getElem?_eq_none beyond]
    exact ⟨rfl, rfl⟩
  · rw [if_neg low, if_neg low]
    exact ⟨rfl, rfl⟩

theorem initializeRegister_offline (size : m.prevValues.length = meterNumRegisters)
    (offline : m.ctx = none) {index : Int} (inside : InArray index) (imExPort : Nat)
    (current : Bool) (value : Binary32) :
    ∃ m', m.initializeRegister writeRegister imExPort current index value = .ok m' ∧
      m'.prevValues.length = meterNumRegisters ∧ m'.ctx = none := by
  obtain ⟨low, high⟩ := inside
  have written : writeSlot m.prevValues index value = .ok (m.prevValues.set index.toNat value) := by
    rw [writeSlot, if_pos low, writeTab_eq _ _ _ (by omega)]
  set m' : Meter κ := { m with prevValues := m.prevValues.set index.toNat value }
  set m'' : Meter κ := m'.updateTotal current fun total =>
    if imExPort = 1 then total - value else total + value with stored
  have kept : m''.prevValues = m'.prevValues ∧ m''.ctx = none := by
    rw [stored, updateTotal]
    split <;> exact ⟨rfl, offline⟩
  refine ⟨m'', ?_, by rw [kept.1, List.length_set, size], kept.2⟩
  rw [initializeRegister, written]
  change notify writeRegister m'' index value = _
  rw [notify, kept.2]

theorem usedIndices_offline {es : List Entry} (size : m.prevValues.length = meterNumRegisters)
    (offline : m.ctx = none) (imExPort : Nat)
    (used : ∀ index ∈ usedIndices (fun m current address value =>
      m.initializeRegister writeRegister imExPort current address value) es m, InArray index) :
    ∀ e ∈ es, InArray e.address := by
  induction es generalizing m with
  | nil => exact fun e member => absurd member List.not_mem_nil
  | cons e es ih =>
      have inside : InArray e.address := used _ List.mem_cons_self
      obtain ⟨m', run, size', offline'⟩ :=
        initializeRegister_offline writeRegister size offline inside imExPort e.current e.value
      intro e' member
      rcases List.mem_cons.mp member with rfl | later
      · exact inside
      · refine ih size' offline' (fun index used' => used index (List.mem_cons_of_mem _ ?_)) e' later
        simp only [run]
        exact used'

end
end Meter

/-- Every index that the two functions use for a file is in the array, whatever the meter holds and
whatever becomes of its writes to the controller. -/
def IndexSafe (file : RegisterFile) : Prop :=
  ∀ (κ : Type) (writeRegister : κ → Int → Word → Except Failure Int × κ) (m : Meter κ)
    (imExPort : Nat) (index : Int), m.prevValues.length = meterNumRegisters →
    index ∈ Meter.usedIndices
        (fun m current address value => m.initializeRegister writeRegister imExPort current address value)
        (entries file) m ∨
      index ∈ Meter.usedIndices
        (fun m current address value => m.checkRegister writeRegister imExPort current address value)
        (entries file) m →
    InArray index

theorem entriesFrom_inArray (current : Bool) (lines : List (List Char)) :
    (∀ e ∈ entriesFrom current lines, InArray e.address) ↔
      ∀ line ∈ lines, ∀ address value, sscanfRegister line = some (address, value) →
        0 ≤ address ∧ address ≠ 30 ∧ address ≠ 3030 := by
  induction lines generalizing current with
  | nil => simp [entriesFrom]
  | cons line lines ih =>
      rw [List.forall_mem_cons]
      cases scanned : sscanfRegister line with
      | none =>
          have unscanned : ∀ (address : Int) (value : Binary32), none = some (address, value) →
              0 ≤ address ∧ address ≠ 30 ∧ address ≠ 3030 := by
            intro address value same
            cases same
          rw [and_iff_right unscanned]
          by_cases currentHeader : line = currentRegisterLine
          · rw [currentHeader, entriesFrom_currentHeader]
            exact ih true
          · by_cases voltageHeader : line = voltageRegisterLine
            · rw [voltageHeader, entriesFrom_voltageHeader]
              exact ih false
            · rw [entriesFrom_unscanned currentHeader voltageHeader scanned]
              exact ih current
      | some fields =>
          obtain ⟨address, value⟩ := fields
          have only : (∀ a v, some (address, value) = some (a, v) →
              0 ≤ a ∧ a ≠ 30 ∧ a ≠ 3030) ↔ 0 ≤ address ∧ address ≠ 30 ∧ address ≠ 3030 :=
            ⟨fun all => all _ _ rfl, fun safe a v same => by cases same; exact safe⟩
          rw [only, entriesFrom_register scanned, ← ih current]
          by_cases ignored : (meterNumRegisters : Int) < Meter.registerAddress address
          · rw [if_pos ignored]
            refine (and_iff_right ?_).symm
            simp only [Meter.registerAddress, meterNumRegisters] at ignored
            split at ignored <;> omega
          · rw [if_neg ignored, List.forall_mem_cons]
            refine and_congr_left' ?_
            simp only [Meter.registerAddress, meterNumRegisters, InArray] at ignored ⊢
            split at ignored
            · rename_i shifted
              rw [if_pos shifted]
              omega
            · rename_i kept
              rw [if_neg kept]
              omega

theorem indexSafe_iff_entries (file : RegisterFile) :
    IndexSafe file ↔ ∀ e ∈ entries file, InArray e.address := by
  constructor
  · intro safe
    apply Meter.usedIndices_offline (fun (c : Unit) _ _ => (.ok 1, c)) (m := Meter.zero none)
      (List.length_replicate ..) rfl 0
    exact fun index used => safe Unit _ _ 0 index (List.length_replicate ..) (.inl used)
  · intro all κ writeRegister m imExPort index size used
    rcases used with used | used
    · obtain ⟨e, member, rfl⟩ := Meter.usedIndices_mem used
      exact all e member
    · obtain ⟨e, member, rfl⟩ := Meter.usedIndices_mem used
      exact all e member

theorem indexSafe_iff (file : RegisterFile) :
    IndexSafe file ↔ ∀ text, file = some text → ∀ line ∈ fgetsLines meterLineSize text,
      ∀ address value, sscanfRegister line = some (address, value) →
        0 ≤ address ∧ address ≠ 30 ∧ address ≠ 3030 := by
  rw [indexSafe_iff_entries]
  cases file with
  | none => simp [entries]
  | some text =>
      rw [entries, entriesFrom_inArray]
      constructor
      · rintro safe text' same
        cases same
        exact safe
      · exact fun safe => safe text rfl

def file3030 : RegisterFile := some "Current Register\n0x3030      10.0\n".toList

theorem register3030_outside :
    ¬ IndexSafe file3030 ∧
      (Meter.zero none).initializeRegisters (fun (c : Unit) _ _ => (.ok 1, c)) file3030
        pvInverterPort = .error .undefined := by
  have only : entries file3030 = [⟨true, 30, .finite 10⟩] := by decide +kernel
  constructor
  · rw [indexSafe_iff_entries, only]
    intro safe
    exact absurd (safe _ (List.mem_singleton_self _)).2 (by decide)
  · have outside := Meter.register_outside (m := Meter.zero none) (fun (c : Unit) _ _ => (.ok 1, c))
      (List.length_replicate ..) (show ¬ InArray 30 from fun inside => absurd inside.2 (by decide))
      pvInverterPort true (.finite 10)
    rw [Meter.initializeRegisters, Meter.readFile_entries, only, List.foldlM_cons]
    simp only [outside.1]
    rfl

end ModbusNet
