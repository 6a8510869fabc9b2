import ModbusNet.Model.Allocating

namespace ModbusNet

/-! ## Copying a string -/

theorem NoNull.getD {src : List Byte} (valid : NoNull src) (s : Nat) :
    src.getD s 0 = 0 ↔ src.length ≤ s := by
  rw [List.getD_eq_getElem?_getD]
  rcases Nat.lt_or_ge s src.length with inside | outside
  · rw [List.getElem?_eq_getElem inside]
    have some := valid _ (List.getElem_mem inside)
    constructor
    · intro null
      exact absurd null some
    · intro outside
      omega
  · rw [List.getElem?_eq_none outside]
    exact iff_of_true rfl outside

theorem strlcpyLoop_copies {src : List Byte} (valid : NoNull src) (n s : Nat) (start : s ≤ src.length)
    (d : List Byte) :
    strlcpyLoop src n s d =
      if src.length < s + n then (s + n - src.length, src.length + 1, d ++ src.drop s ++ [0])
      else (0, s + n, d ++ (src.drop s).take n) := by
  induction n generalizing s d with
  | zero =>
      rw [strlcpyLoop, if_neg (by omega), List.take_zero, List.append_nil]
      rfl
  | succ n ih =>
      rw [strlcpyLoop]
      by_cases last : src.length ≤ s
      · have atEnd : s = src.length := by omega
        simp only [(valid.getD s).mpr last, if_true]
        rw [if_pos (by omega), atEnd, List.drop_length, List.append_nil]
        simp
      · have inside : s < src.length := by omega
        have some : src.getD s 0 ≠ 0 := fun null => last ((valid.getD s).mp null)
        have head : src.getD s 0 = src[s] := by
          rw [List.getD_eq_getElem?_getD, List.getElem?_eq_getElem inside]
          rfl
        rw [if_neg some, ih (s + 1) (by omega), head, List.drop_eq_getElem_cons inside]
        by_cases short : src.length < s + 1 + n
        · rw [if_pos short, if_pos (by omega)]
          simp only [Prod.mk.injEq, List.append_assoc, List.cons_append, List.nil_append, and_true]
          omega
        · rw [if_neg short, if_neg (by omega), List.take_succ_cons, List.append_assoc]
          simp only [Prod.mk.injEq, List.cons_append, List.nil_append, true_and, and_true]
          omega

theorem strlcpySkip_end {src : List Byte} (valid : NoNull src) (left s : Nat)
    (total : s + left = src.length) : strlcpySkip src left s = src.length + 1 := by
  induction left generalizing s with
  | zero => rw [strlcpySkip, ← total, Nat.add_zero]
  | succ left ih =>
      have some : src.getD s 0 ≠ 0 := fun null => by
        have := (valid.getD s).mp null
        omega
      rw [strlcpySkip, if_neg some]
      exact ih (s + 1) (by omega)

theorem strlcpy_copies {src : List Byte} (valid : NoNull src) (room : Nat) :
    strlcpy src (room + 2) = (src.length, src.take (room + 1) ++ [0]) := by
  have loop := strlcpyLoop_copies valid (room + 1) 0 (Nat.zero_le _) []
  rw [strlcpy, show room + 2 - 1 = room + 1 by omega, if_pos (Nat.succ_ne_zero room), loop]
  by_cases short : src.length < 0 + (room + 1)
  · rw [if_pos short]
    simp only
    rw [if_neg (by omega), List.take_of_length_le (by omega)]
    simp
  · rw [if_neg short]
    simp only [if_true]
    rw [if_pos (by omega), strlcpySkip_end valid _ _ (by omega)]
    simp

/-! ## Freeing -/

namespace Allocating

def Context.blocks : Context → List Nat
  | .tcp block _ data => [data.block, block]
  | .tcpPi block _ data => data.node.toList ++ (data.service.toList ++ [data.block, block])
  | .rtu block _ data => data.device.toList ++ [data.block, block]

def MappingBlocks.blocks (m : MappingBlocks) : List Nat :=
  m.tabInputRegisters.toList ++ (m.tabRegisters.toList ++ (m.tabInputBits.toList ++
    (m.tabBits.toList ++ [m.block])))

def Object.blocks : Object → List Nat
  | .context c => Context.blocks c
  | .mapping _ m => m.blocks

section
variable {h : Heap} {blocks : List Nat} {block : Nat}

theorem modbusTcpFree_holds {data : Option Nat}
    (holds : h.Holds (data.toList ++ (block :: blocks))) :
    ∃ h', modbusTcpFree block data h = some h' ∧ h'.Holds blocks := by
  obtain ⟨h₁, freed, holds₁⟩ := holds.free
  obtain ⟨h₂, freed', holds₂⟩ := holds₁.free_some
  exact ⟨h₂, by simp only [modbusTcpFree, freed, freed', Option.bind_eq_bind, Option.bind_some],
    holds₂⟩

theorem modbusTcpPiFree_holds {data : Nat} {node service : Option Nat}
    (holds : h.Holds (node.toList ++ (service.toList ++ (data :: block :: blocks)))) :
    ∃ h', modbusTcpPiFree block (some (data, node, service)) h = some h' ∧ h'.Holds blocks := by
  obtain ⟨h₁, freed₁, holds₁⟩ := holds.free
  obtain ⟨h₂, freed₂, holds₂⟩ := holds₁.free
  obtain ⟨h₃, freed₃, holds₃⟩ := holds₂.free_some
  obtain ⟨h₄, freed₄, holds₄⟩ := holds₃.free_some
  exact ⟨h₄, by simp only [modbusTcpPiFree, freed₁, freed₂, freed₃, freed₄, Option.bind_eq_bind,
    Option.bind_some], holds₄⟩

theorem modbusRtuFree_holds {data : Nat} {device : Option Nat}
    (holds : h.Holds (device.toList ++ (data :: block :: blocks))) :
    ∃ h', modbusRtuFree block (some (data, device)) h = some h' ∧ h'.Holds blocks := by
  obtain ⟨h₁, freed₁, holds₁⟩ := holds.free
  obtain ⟨h₂, freed₂, holds₂⟩ := holds₁.free_some
  obtain ⟨h₃, freed₃, holds₃⟩ := holds₂.free_some
  exact ⟨h₃, by simp only [modbusRtuFree, freed₁, freed₂, freed₃, Option.bind_eq_bind,
    Option.bind_some], holds₃⟩

theorem modbusMappingFree_holds (m : MappingBlocks) (holds : h.Holds (m.blocks ++ blocks)) :
    ∃ h', modbusMappingFree m h = some h' ∧ h'.Holds blocks := by
  simp only [MappingBlocks.blocks, List.append_assoc, List.singleton_append] at holds
  obtain ⟨h₁, freed₁, holds₁⟩ := holds.free
  obtain ⟨h₂, freed₂, holds₂⟩ := holds₁.free
  obtain ⟨h₃, freed₃, holds₃⟩ := holds₂.free
  obtain ⟨h₄, freed₄, holds₄⟩ := holds₃.free
  obtain ⟨h₅, freed₅, holds₅⟩ := holds₄.free_some
  exact ⟨h₅, by simp only [modbusMappingFree, freed₁, freed₂, freed₃, freed₄, freed₅,
    Option.bind_eq_bind, Option.bind_some], holds₅⟩

theorem Object.free_holds (object : Object) (holds : h.Holds (object.blocks ++ blocks)) :
    ∃ h', object.free h = some h' ∧ h'.Holds blocks := by
  cases object with
  | mapping mapping m => exact modbusMappingFree_holds m holds
  | context c =>
      cases c with
      | tcp block ctx data =>
          apply modbusTcpFree_holds
          exact holds
      | tcpPi block ctx data =>
          apply modbusTcpPiFree_holds
          simp only [Object.blocks, Context.blocks, List.append_assoc] at holds
          exact holds
      | rtu block ctx data =>
          apply modbusRtuFree_holds
          simp only [Object.blocks, Context.blocks, List.append_assoc] at holds
          exact holds

end

/-! ## Allocating -/

def Made {α : Type} (blocksOf : α → List Nat) (valid : α → Prop) (blocks : List Nat) :
    Option (Except NewError α × Heap) → Prop
  | none => False
  | some (.error _, h) => h.Holds blocks
  | some (.ok a, h) => h.Holds (blocksOf a ++ blocks) ∧ valid a

/-- An address that starts with a zero stands for any address. -/
def Context.Valid : Context → Prop
  | .tcp _ _ data => data.ip.length = 16 ∧ (data.ip.head? = some 0x30 ∨
      ∃ text, NoNull text ∧ text ≠ [] ∧ text ++ [0] <+: data.ip)
  | .tcpPi _ _ data => data.node.isSome ∧ data.service.isSome ∧ data.serviceText ≠ []
  | .rtu _ _ data =>
      data.device.isSome ∧ data.parameters.deviceText ≠ [] ∧ data.parameters.baud ≠ 0

section
variable {h : Heap} {blocks : List Nat} {refuses : Nat → Bool}

theorem abandon_made {e : NewError} {freed : Option Heap}
    (back : ∃ h', freed = some h' ∧ h'.Holds blocks) :
    Made Context.blocks Context.Valid blocks (abandon e freed) := by
  obtain ⟨h', rfl, holds⟩ := back
  exact holds

theorem ipBytes_prefix (contents : Nat → Buffer) (block : Nat) {written : List Byte}
    (fits : written.length ≤ 16) : written <+: ipBytes contents block written := by
  rw [List.prefix_iff_eq_take, ipBytes, ← List.map_take, List.take_range, Nat.min_eq_left fits]
  refine List.ext_getElem (by simp) fun i inside _ => ?_
  rw [List.getElem_map, List.getElem_range, overlay, List.getD_eq_getElem _ _ inside]

theorem modbusNewTcp_made (version : VersionString) (uninit : Buffer) (contents : Nat → Buffer)
    (ip : Option CString) (port : Int) (holds : h.Holds blocks) :
    Made Context.blocks Context.Valid blocks
      (modbusNewTcp refuses version uninit contents ip port h) := by
  rw [modbusNewTcp]
  split
  · rename_i h₁ refused
    exact holds.malloc_none refused
  · rename_i block h₁ allocated
    have holds₁ := holds.malloc_some allocated
    simp only
    split
    · rename_i h₂ refused
      apply abandon_made
      apply modbusTcpFree_holds
      exact holds₁.malloc_none refused
    · rename_i data h₂ allocated'
      have holds₂ := holds₁.malloc_some allocated'
      cases ip with
      | none => exact ⟨holds₂, rfl, .inl rfl⟩
      | some ip =>
          obtain ⟨text, valid⟩ := ip
          simp only [strlcpy_copies valid 14]
          split
          · apply abandon_made
            apply modbusTcpFree_holds
            exact holds₂
          · rename_i some
            split
            · apply abandon_made
              apply modbusTcpFree_holds
              exact holds₂
            · rename_i short
              cases text with
              | nil => exact absurd rfl some
              | cons first rest =>
                  have whole : (first :: rest).take 15 = first :: rest :=
                    List.take_of_length_le (by omega)
                  rw [whole]
                  refine ⟨holds₂, List.length_map .., .inr
                    ⟨first :: rest, valid, List.cons_ne_nil _ _, ?_⟩⟩
                  apply ipBytes_prefix contents data
                  rw [List.length_append, List.length_singleton]
                  omega

theorem modbusNewTcpPi_made (version : VersionString) (uninit : Buffer) (node service : Option CString)
    (holds : h.Holds blocks) :
    Made Context.blocks Context.Valid blocks (modbusNewTcpPi refuses version uninit node service h) := by
  unfold modbusNewTcpPi
  split
  · rename_i h₁ refused
    exact holds.malloc_none refused
  · rename_i block h₁ allocated
    have holds₁ := holds.malloc_some allocated
    simp only
    split
    · rename_i h₂ refused
      apply abandon_made
      exact (holds₁.malloc_none refused).free_some
    · rename_i data h₂ allocated₂
      have holds₂ := holds₁.malloc_some allocated₂
      split
      · rename_i h₃ refused
        apply abandon_made
        apply modbusTcpPiFree_holds
        exact holds₂.malloc_none refused
      · rename_i nodeBlock h₃ allocated₃
        have holds₃ := holds₂.malloc_some allocated₃
        split
        · rename_i h₄ refused
          apply abandon_made
          apply modbusTcpPiFree_holds
          exact holds₃.malloc_none refused
        · rename_i serviceBlock h₄ allocated₄
          have holds₄ := holds₃.malloc_some allocated₄
          refine ⟨holds₄.perm (.swap _ _ _), rfl, rfl, ?_⟩
          split <;> simp

theorem modbusNewRtu_made (version : VersionString) (uninit : Buffer) (device : Option CString)
    (baud : Int) (parity : Byte) (dataBit stopBit : Int) (holds : h.Holds blocks) :
    Made Context.blocks Context.Valid blocks
      (modbusNewRtu refuses version uninit device baud parity dataBit stopBit h) := by
  unfold modbusNewRtu
  split
  · exact holds
  · exact holds
  · rename_i first rest _
    split
    · exact holds
    · rename_i fast
      split
      · rename_i h₁ refused
        exact holds.malloc_none refused
      · rename_i block h₁ allocated
        have holds₁ := holds.malloc_some allocated
        simp only
        split
        · rename_i h₂ refused
          apply abandon_made
          exact (holds₁.malloc_none refused).free_some
        · rename_i data h₂ allocated₂
          have holds₂ := holds₁.malloc_some allocated₂
          split
          · rename_i h₃ refused
            apply abandon_made
            apply modbusRtuFree_holds
            exact holds₂.malloc_none refused
          · rename_i deviceBlock h₃ allocated₃
            have holds₃ := holds₂.malloc_some allocated₃
            split
            · apply abandon_made
              apply modbusRtuFree_holds
              exact holds₃
            · exact ⟨holds₃, rfl, List.cons_ne_nil _ _, fast⟩

theorem newTable_holds (cells : BitVec 32) (holds : h.Holds blocks) :
    (newTable refuses cells h).2.Holds
      ((match (newTable refuses cells h).1 with
        | .error _ => []
        | .ok table => table.toList) ++ blocks) := by
  rw [newTable]
  split
  · exact holds
  · cases allocated : h.malloc refuses with
    | mk table h₁ =>
        cases table with
        | none => exact holds.malloc_none allocated
        | some b => exact holds.malloc_some allocated

theorem newTable_refused {cells : BitVec 32} {h' : Heap} {u : Unit} (holds : h.Holds blocks)
    (refused : newTable refuses cells h = (.error u, h')) : h'.Holds blocks := by
  have kept := @newTable_holds h blocks refuses cells holds
  rw [refused] at kept
  exact kept

theorem newTable_allocated {cells : BitVec 32} {h' : Heap} {table : Option Nat} (holds : h.Holds blocks)
    (allocated : newTable refuses cells h = (.ok table, h')) : h'.Holds (table.toList ++ blocks) := by
  have kept := @newTable_holds h blocks refuses cells holds
  rw [allocated] at kept
  exact kept

theorem newTable_null {cells : BitVec 32} {h' : Heap} {table : Option Nat}
    (allocated : newTable refuses cells h = (.ok table, h')) : table = none ↔ cells = 0 := by
  rw [newTable] at allocated
  split at allocated
  · rename_i empty
    obtain ⟨⟨rfl⟩, -⟩ := Prod.mk.inj allocated
    exact iff_of_true rfl empty
  · rename_i some
    split at allocated
    · cases allocated
    · obtain ⟨⟨rfl⟩, -⟩ := Prod.mk.inj allocated
      exact iff_of_false (Option.some_ne_none _) some

theorem replicate_null {α : Type} {cells : BitVec 32} {table : Option Nat} (cell : α)
    (null : table = none ↔ cells = 0) : table = none ↔ List.replicate cells.toNat cell = [] := by
  rw [null, List.replicate_eq_nil_iff, BitVec.toNat_eq]
  rfl

def mappingBlocks (made : ModbusMapping × MappingBlocks) : List Nat := made.2.blocks

structure MappingValid (made : ModbusMapping × MappingBlocks) : Prop where
  tabBits : made.2.tabBits = none ↔ made.1.tabBits = []
  tabInputBits : made.2.tabInputBits = none ↔ made.1.tabInputBits = []
  tabRegisters : made.2.tabRegisters = none ↔ made.1.tabRegisters = []
  tabInputRegisters : made.2.tabInputRegisters = none ↔ made.1.tabInputRegisters = []

theorem modbusMappingNewStartAddress_made (startBits nbBits startInputBits nbInputBits startRegisters
    nbRegisters startInputRegisters nbInputRegisters : BitVec 32) (holds : h.Holds blocks) :
    Made mappingBlocks MappingValid blocks
      (modbusMappingNewStartAddress refuses startBits nbBits startInputBits nbInputBits startRegisters
        nbRegisters startInputRegisters nbInputRegisters h) := by
  unfold modbusMappingNewStartAddress
  simp only
  split
  · rename_i h₁ refused
    exact holds.malloc_none refused
  · rename_i block h₁ allocated
    have holds₁ := holds.malloc_some allocated
    split
    · rename_i h₂ refused
      obtain ⟨h₃, freed₃, holds₃⟩ := (newTable_refused holds₁ refused).free_some
      simp only [freed₃, Option.bind_eq_bind, Option.bind_some]
      exact holds₃
    · rename_i tabBits h₂ allocated₂
      have holds₂ := newTable_allocated holds₁ allocated₂
      split
      · rename_i h₃ refused
        obtain ⟨h₄, freed₄, holds₄⟩ := (newTable_refused holds₂ refused).free
        obtain ⟨h₅, freed₅, holds₅⟩ := holds₄.free_some
        simp only [freed₄, freed₅, Option.bind_eq_bind, Option.bind_some]
        exact holds₅
      · rename_i tabInputBits h₃ allocated₃
        have holds₃ := newTable_allocated holds₂ allocated₃
        split
        · rename_i h₄ refused
          obtain ⟨h₅, freed₅, holds₅⟩ := (newTable_refused holds₃ refused).free
          obtain ⟨h₆, freed₆, holds₆⟩ := holds₅.free
          obtain ⟨h₇, freed₇, holds₇⟩ := holds₆.free_some
          simp only [freed₅, freed₆, freed₇, Option.bind_eq_bind, Option.bind_some]
          exact holds₇
        · rename_i tabRegisters h₄ allocated₄
          have holds₄ := newTable_allocated holds₃ allocated₄
          split
          · rename_i h₅ refused
            obtain ⟨h₆, freed₆, holds₆⟩ := (newTable_refused holds₄ refused).free
            obtain ⟨h₇, freed₇, holds₇⟩ := holds₆.free
            obtain ⟨h₈, freed₈, holds₈⟩ := holds₇.free
            obtain ⟨h₉, freed₉, holds₉⟩ := holds₈.free_some
            simp only [freed₆, freed₇, freed₈, freed₉, Option.bind_eq_bind, Option.bind_some]
            exact holds₉
          · rename_i tabInputRegisters h₅ allocated₅
            have holds₅ := newTable_allocated holds₄ allocated₅
            constructor
            · simp only [mappingBlocks, MappingBlocks.blocks, List.append_assoc, List.singleton_append]
              exact holds₅
            · exact
                { tabBits := replicate_null 0 (newTable_null allocated₂)
                  tabInputBits := replicate_null 0 (newTable_null allocated₃)
                  tabRegisters := replicate_null 0 (newTable_null allocated₄)
                  tabInputRegisters := replicate_null 0 (newTable_null allocated₅) }

end

/-! ## A program -/

def Object.Valid : Object → Prop
  | .context c => Context.Valid c
  | .mapping made blocks => MappingValid (made, blocks)

structure Process.Accounted (p : Process) : Prop where
  holds : p.heap.Holds (p.objects.flatMap Object.blocks)
  valid : ∀ object ∈ p.objects, object.Valid

section
variable {p : Process} {refuses : Nat → Bool}

theorem Process.made_accounted {α : Type} {object : α → Object} {blocksOf : α → List Nat}
    {valid : α → Prop} {outcome : Option (Except NewError α × Heap)} (accounted : p.Accounted)
    (made : Made blocksOf valid (p.objects.flatMap Object.blocks) outcome)
    (sameBlocks : ∀ a, (object a).blocks = blocksOf a) (sameValid : ∀ a, valid a → (object a).Valid) :
    ∃ p', p.made object outcome = some p' ∧ p'.Accounted := by
  match outcome, made with
  | some (.error e, h), holds => exact ⟨{ p with heap := h }, rfl, holds, accounted.valid⟩
  | some (.ok a, h), ⟨holds, isValid⟩ =>
      refine ⟨⟨h, object a :: p.objects⟩, rfl, ?_, ?_⟩
      · rw [List.flatMap_cons, sameBlocks]
        exact holds
      · intro o member
        rcases List.mem_cons.mp member with rfl | earlier
        · exact sameValid a isValid
        · exact accounted.valid o earlier

theorem eraseIdx_flatMap {k : Nat} {objects : List Object} {object : Object}
    (found : objects[k]? = some object) :
    (objects.flatMap Object.blocks).Perm
      (object.blocks ++ (objects.eraseIdx k).flatMap Object.blocks) := by
  induction objects generalizing k with
  | nil => simp at found
  | cons first rest ih =>
      cases k with
      | zero =>
          obtain rfl : first = object := by simpa using found
          exact .refl _
      | succ k =>
          have tail := ih (k := k) (by simpa using found)
          rw [List.eraseIdx_cons_succ, List.flatMap_cons, List.flatMap_cons]
          exact (tail.append_left _).trans (List.perm_append_comm_assoc _ _ _)

theorem Process.call_accounted (version : VersionString) (uninit : Buffer) (contents : Nat → Buffer)
    (accounted : p.Accounted) (call : Call) :
    ∃ p', p.call refuses version uninit contents call = some p' ∧ p'.Accounted := by
  cases call with
  | newTcp ip port =>
      exact made_accounted accounted (modbusNewTcp_made version uninit contents ip port accounted.holds)
        (fun _ => rfl) (fun _ valid => valid)
  | newTcpPi node service =>
      exact made_accounted accounted
        (modbusNewTcpPi_made version uninit node service accounted.holds)
        (fun _ => rfl) (fun _ valid => valid)
  | newRtu device baud parity dataBit stopBit =>
      exact made_accounted accounted
        (modbusNewRtu_made version uninit device baud parity dataBit stopBit accounted.holds)
        (fun _ => rfl) (fun _ valid => valid)
  | mappingNew _ _ _ _ _ _ _ _ =>
      exact made_accounted accounted (modbusMappingNewStartAddress_made _ _ _ _ _ _ _ _ accounted.holds)
        (fun _ => rfl) (fun _ valid => valid)
  | free k =>
      rw [Process.call]
      split
      · exact ⟨p, rfl, accounted⟩
      · rename_i object found
        obtain ⟨h', freed, holds⟩ := object.free_holds (accounted.holds.perm (eraseIdx_flatMap found))
        rw [freed, Option.bind_eq_bind, Option.bind_some]
        exact ⟨_, rfl, holds, fun o member => accounted.valid o (List.mem_of_mem_eraseIdx member)⟩

theorem Process.run_accounted (version : VersionString) (uninit : Buffer) (contents : Nat → Buffer)
    (calls : List Call) (accounted : p.Accounted) :
    ∃ p', Process.run refuses version uninit contents calls p = some p' ∧ p'.Accounted := by
  induction calls generalizing p with
  | nil => exact ⟨p, rfl, accounted⟩
  | cons call calls ih =>
      obtain ⟨p₁, called, accounted₁⟩ := call_accounted version uninit contents accounted call
      rw [Process.run, called, Option.bind_eq_bind, Option.bind_some]
      exact ih accounted₁

end

/-- Whatever the allocator refuses, nothing is freed twice, and what is allocated are the blocks of the
objects the program has. -/
theorem run_allocated (refuses : Nat → Bool) (version : VersionString) (uninit : Buffer)
    (contents : Nat → Buffer) (calls : List Call) :
    ∃ p, Process.run refuses version uninit contents calls ⟨.empty, []⟩ = some p ∧
      p.heap.live.Perm (p.objects.flatMap Object.blocks) ∧
      (p.objects.flatMap Object.blocks).Nodup ∧ ∀ object ∈ p.objects, object.Valid := by
  have start : (⟨.empty, []⟩ : Process).Accounted :=
    ⟨Heap.empty_holds, fun _ member => absurd member List.not_mem_nil⟩
  obtain ⟨p, run, accounted⟩ := Process.run_accounted version uninit contents calls start
  exact ⟨p, run, accounted.holds.live, accounted.holds.nodup, accounted.valid⟩

end Allocating

end ModbusNet
