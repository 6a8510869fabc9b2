import Mathlib.Tactic

namespace ModbusNet

variable {α : Type*}

def slice (tab : List α) (i n : Nat) : List α := (tab.drop i).take n

def store (tab : List α) (i : Nat) (values : List α) : List α :=
  tab.take i ++ (values ++ tab.drop (i + values.length))

theorem slice_length (tab : List α) (i n : Nat) (inside : i + n ≤ tab.length) :
    (slice tab i n).length = n := by
  simp only [slice, List.length_take, List.length_drop]
  omega

@[simp] theorem slice_zero (tab : List α) (i : Nat) : slice tab i 0 = [] := by
  simp [slice]

theorem slice_succ (tab : List α) (i n : Nat) (bound : i < tab.length) :
    slice tab i (n + 1) = tab[i] :: slice tab (i + 1) n := by
  rw [slice, List.drop_eq_getElem_cons bound]
  rfl

@[simp] theorem store_nil (tab : List α) (i : Nat) : store tab i [] = tab := by
  simp [store]

theorem store_length (tab : List α) (i : Nat) (values : List α)
    (inside : i + values.length ≤ tab.length) : (store tab i values).length = tab.length := by
  simp only [store, List.length_append, List.length_take, List.length_drop]
  omega

theorem store_getElem? (tab : List α) (i : Nat) (values : List α)
    (inside : i + values.length ≤ tab.length) (k : Nat) :
    (store tab i values)[k]? =
      if i ≤ k ∧ k < i + values.length then values[k - i]? else tab[k]? := by
  have prefix_length : (tab.take i).length = i := by
    rw [List.length_take]
    omega
  rcases Nat.lt_or_ge k i with before | reached
  · rw [store, List.getElem?_append_left (by omega), if_neg (by omega), List.getElem?_take,
      if_pos before]
  · rw [store, List.getElem?_append_right (by omega), prefix_length]
    rcases Nat.lt_or_ge k (i + values.length) with covered | after
    · rw [if_pos ⟨reached, covered⟩, List.getElem?_append_left (by omega)]
    · rw [if_neg (by omega), List.getElem?_append_right (by omega), List.getElem?_drop]
      congr 1
      omega

theorem mem_store {tab : List α} {i : Nat} {values : List α} {v : α}
    (member : v ∈ store tab i values) : v ∈ tab ∨ v ∈ values := by
  rcases List.mem_append.mp member with before | later
  · exact .inl (List.mem_of_mem_take before)
  · rcases List.mem_append.mp later with new | after
    · exact .inr new
    · exact .inl (List.mem_of_mem_drop after)

theorem store_cons (tab : List α) (i : Nat) (v : α) (values : List α)
    (inside : i + (values.length + 1) ≤ tab.length) :
    store tab i (v :: values) = store (tab.set i v) (i + 1) values := by
  apply List.ext_getElem?
  intro k
  rw [store_getElem? _ _ _ (by simpa using inside),
    store_getElem? _ _ _ (by rw [List.length_set]; omega), List.getElem?_set, List.length_cons]
  rcases Nat.lt_trichotomy k i with before | rfl | after
  · rw [if_neg (by omega), if_neg (by omega), if_neg (by omega)]
  · rw [if_pos (by omega), if_neg (by omega), if_pos rfl, if_pos (by omega)]
    simp
  · rw [if_neg (by omega : ¬ i = k), show k - i = (k - (i + 1)) + 1 by omega,
      List.getElem?_cons_succ]
    congr 1
    simp only [eq_iff_iff]
    omega

theorem store_single (tab : List α) (i : Nat) (v : α) (bound : i < tab.length) :
    store tab i [v] = tab.set i v := by
  rw [store_cons tab i v [] bound, store_nil]

theorem slice_store (tab : List α) (i : Nat) (values : List α)
    (inside : i + values.length ≤ tab.length) : slice (store tab i values) i values.length = values := by
  have front : (tab.take i).length = i := by
    rw [List.length_take]
    omega
  rw [slice, store, List.drop_left' front, List.take_left' rfl]

theorem store_eq_self_iff (tab : List α) (i : Nat) (values : List α)
    (inside : i + values.length ≤ tab.length) :
    store tab i values = tab ↔ slice tab i values.length = values := by
  constructor
  · intro same
    have stored := slice_store tab i values inside
    rwa [same] at stored
  · intro same
    calc store tab i values = tab.take i ++ (slice tab i values.length ++
          (tab.drop i).drop values.length) := by rw [same, List.drop_drop]; rfl
      _ = tab := by rw [slice, List.take_append_drop, List.take_append_drop]

theorem store_store (tab : List α) (i : Nat) (values values' : List α)
    (same : values.length = values'.length) (inside : i + values.length ≤ tab.length) :
    store (store tab i values) i values' = store tab i values' := by
  have front : (tab.take i).length = i := by
    rw [List.length_take]
    omega
  have front_kept : (store tab i values).take i = tab.take i := List.take_left' front
  have back_kept : (store tab i values).drop (i + values'.length) = tab.drop (i + values'.length) := by
    rw [← same, ← List.drop_drop, store, List.drop_left' front, List.drop_left' rfl]
  rw [store, front_kept, back_kept]
  rfl

structure Table (α : Type*) where
  start : Int
  size : Int
  cells : List α

namespace Table

def Covers (t : Table α) (address nb : Nat) : Prop :=
  0 ≤ (address : Int) - t.start ∧ (address : Int) - t.start + nb ≤ t.size

instance (t : Table α) (address nb : Nat) : Decidable (t.Covers address nb) :=
  inferInstanceAs (Decidable (_ ∧ _))

def index (t : Table α) (address : Nat) : Nat := ((address : Int) - t.start).toNat

def read (t : Table α) (address nb : Nat) : Option (List α) :=
  if t.index address + nb ≤ t.cells.length then some (slice t.cells (t.index address) nb) else none

def write (t : Table α) (address : Nat) (values : List α) : Option (List α) :=
  if t.index address + values.length ≤ t.cells.length then
    some (store t.cells (t.index address) values)
  else none

def Sound (t : Table α) : Prop := t.size = t.cells.length

theorem Covers.inside {t : Table α} {address nb : Nat} (covers : t.Covers address nb)
    (sound : t.Sound) : t.index address + nb ≤ t.cells.length := by
  obtain ⟨above, below⟩ := covers
  rw [sound] at below
  unfold index
  omega

theorem Sound.read_eq {t : Table α} (sound : t.Sound) {address nb : Nat}
    (covers : t.Covers address nb) : t.read address nb = some (slice t.cells (t.index address) nb) :=
  if_pos (covers.inside sound)

theorem Sound.write_eq {t : Table α} (sound : t.Sound) {address : Nat} (values : List α)
    (covers : t.Covers address values.length) :
    t.write address values = some (store t.cells (t.index address) values) :=
  if_pos (covers.inside sound)

theorem Sound.store_length {t : Table α} (sound : t.Sound) {address : Nat} (values : List α)
    (covers : t.Covers address values.length) :
    (store t.cells (t.index address) values).length = t.cells.length :=
  ModbusNet.store_length _ _ _ (covers.inside sound)

theorem read_length {t : Table α} {address nb : Nat} {cells : List α}
    (found : t.read address nb = some cells) : cells.length = nb := by
  unfold read at found
  split at found
  · rename_i inside
    rw [← Option.some.inj found, slice_length _ _ _ inside]
  · cases found

theorem write_store {t : Table α} {address : Nat} {values cells : List α}
    (written : t.write address values = some cells) :
    t.index address + values.length ≤ t.cells.length ∧
      cells = store t.cells (t.index address) values := by
  unfold write at written
  split at written
  · rename_i inside
    exact ⟨inside, (Option.some.inj written).symm⟩
  · cases written

theorem write_getElem? {t : Table α} {address : Nat} {values cells : List α}
    (written : t.write address values = some cells) (above : t.start ≤ address) {i : Nat}
    (outside : ¬ (address ≤ t.start + i ∧ t.start + i < address + values.length)) :
    cells[i]? = t.cells[i]? := by
  obtain ⟨inside, rfl⟩ := write_store written
  rw [store_getElem? _ _ _ inside, if_neg]
  unfold index
  omega

end Table
end ModbusNet
