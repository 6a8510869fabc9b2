import Mathlib.Tactic
import Mathlib.Data.List.GetD

namespace ModbusNet

abbrev Byte := BitVec 8
abbrev Word := BitVec 16

/-- `(uint8_t) (x >> 8)`. -/
def hiByte (x : Int) : Byte := BitVec.ofInt 8 (x / 256)

def loByte (x : Int) : Byte := BitVec.ofInt 8 x

def beWord (hi lo : Byte) : Nat := 256 * hi.toNat + lo.toNat

theorem beWord_lt (hi lo : Byte) : beWord hi lo < 65536 := by
  unfold beWord
  omega

theorem beWord_bytes (x : Int) : (beWord (hiByte x) (loByte x) : Int) = x % 65536 := by
  simp only [beWord, hiByte, loByte, BitVec.toNat_ofInt]
  omega

theorem beWord_bytes_nat (n : Nat) (small : n < 65536) : beWord (hiByte n) (loByte n) = n := by
  have := beWord_bytes n
  omega

@[simp] theorem hiByte_beWord (hi lo : Byte) : hiByte (beWord hi lo) = hi := by
  apply BitVec.eq_of_toNat_eq
  simp only [beWord, hiByte, BitVec.toNat_ofInt]
  omega

@[simp] theorem loByte_beWord (hi lo : Byte) : loByte (beWord hi lo) = lo := by
  apply BitVec.eq_of_toNat_eq
  simp only [beWord, loByte, BitVec.toNat_ofInt]
  omega

def wordBytes (w : Word) : List Byte := [hiByte w.toNat, loByte w.toNat]

def wordOf (hi lo : Byte) : Word := BitVec.ofNat 16 (beWord hi lo)

@[simp] theorem wordOf_bytes (w : Word) : wordOf (hiByte w.toNat) (loByte w.toNat) = w := by
  apply BitVec.eq_of_toNat_eq
  rw [wordOf, beWord_bytes_nat _ w.isLt]
  simp

@[simp] theorem wordOf_toNat (hi lo : Byte) : (wordOf hi lo).toNat = beWord hi lo := by
  have := beWord_lt hi lo
  simp [wordOf]
  omega

@[simp] theorem wordBytes_length (w : Word) : (wordBytes w).length = 2 := rfl

theorem wordBytes_flatMap_length (ws : List Word) : (ws.flatMap wordBytes).length = 2 * ws.length := by
  induction ws with
  | nil => rfl
  | cons w ws ih =>
      simp only [List.flatMap_cons, List.length_append, wordBytes_length, List.length_cons, ih]
      omega

theorem wordOf_getD_flatMap (ws : List Word) (i : Nat) (bound : i < ws.length) :
    wordOf ((ws.flatMap wordBytes).getD (2 * i) 0) ((ws.flatMap wordBytes).getD (2 * i + 1) 0) =
      ws[i] := by
  induction ws generalizing i with
  | nil => simp at bound
  | cons w ws ih =>
      cases i with
      | zero => simp [wordBytes]
      | succ i =>
          have tail := ih i (by simpa using bound)
          simpa [wordBytes, Nat.mul_add] using tail

/-- Contents of a byte array in memory; how long the array is is known to its user. -/
abbrev Buffer := Nat → Byte

def be16 (b : Buffer) (i : Nat) : Nat := beWord (b i) (b (i + 1))

def AgreeBelow (n : Nat) (b b' : Buffer) : Prop := ∀ i < n, b i = b' i

theorem AgreeBelow.be16_eq {n : Nat} {b b' : Buffer} (agree : AgreeBelow n b b') {i : Nat}
    (bound : i + 1 < n) : be16 b i = be16 b' i := by
  simp only [be16, agree i (by omega), agree (i + 1) bound]

def wordAt (b : Buffer) (i : Nat) : Word := wordOf (b i) (b (i + 1))

@[simp] theorem wordAt_toNat (b : Buffer) (i : Nat) : (wordAt b i).toNat = be16 b i := wordOf_toNat _ _

theorem wordBytes_wordOf (hi lo : Byte) : wordBytes (wordOf hi lo) = [hi, lo] := by
  rw [wordBytes, wordOf_toNat, hiByte_beWord, loByte_beWord]

theorem AgreeBelow.wordAt_eq {n : Nat} {b b' : Buffer} (agree : AgreeBelow n b b') {i : Nat}
    (bound : i + 1 < n) : wordAt b i = wordAt b' i := by
  simp only [wordAt, agree i (by omega), agree (i + 1) bound]

def wordsAt (b : Buffer) (i n : Nat) : List Word := (List.range n).map fun k => wordAt b (i + 2 * k)

@[simp] theorem wordsAt_length (b : Buffer) (i n : Nat) : (wordsAt b i n).length = n := by
  simp [wordsAt]

@[simp] theorem wordsAt_zero (b : Buffer) (i : Nat) : wordsAt b i 0 = [] := rfl

theorem wordsAt_succ (b : Buffer) (i n : Nat) :
    wordsAt b i (n + 1) = wordAt b i :: wordsAt b (i + 2) n := by
  simp only [wordsAt, List.range_succ_eq_map, List.map_cons, List.map_map, Nat.mul_zero,
    Nat.add_zero, Function.comp_def, Nat.succ_eq_add_one, Nat.mul_add, Nat.mul_one, Nat.add_assoc,
    Nat.add_comm 2]

theorem AgreeBelow.wordsAt_eq {m : Nat} {b b' : Buffer} (agree : AgreeBelow m b b') {i n : Nat}
    (bound : i + 2 * n ≤ m) : wordsAt b i n = wordsAt b' i n := by
  apply List.map_congr_left
  intro k member
  have := List.mem_range.mp member
  exact agree.wordAt_eq (by omega)

theorem wordsAt_shift (b : Buffer) (j n : Nat) : wordsAt b j n = wordsAt (fun k => b (j + k)) 0 n := by
  simp only [wordsAt, wordAt, Nat.zero_add, Nat.add_assoc]

def bytesAt (b : Buffer) (i n : Nat) : List Byte := (List.range n).map fun k => b (i + k)

@[simp] theorem bytesAt_length (b : Buffer) (i n : Nat) : (bytesAt b i n).length = n := by
  simp [bytesAt]

theorem bytesAt_succ (b : Buffer) (i n : Nat) :
    bytesAt b i (n + 1) = b i :: bytesAt b (i + 1) n := by
  simp only [bytesAt, List.range_succ_eq_map, List.map_cons, List.map_map, Nat.add_zero,
    Function.comp_def, Nat.succ_eq_add_one, Nat.add_assoc, Nat.add_comm 1]

theorem bytesAt_add (b : Buffer) (i m n : Nat) :
    bytesAt b i (m + n) = bytesAt b i m ++ bytesAt b (i + m) n := by
  simp only [bytesAt, List.range_add, List.map_append, List.map_map, Function.comp_def,
    Nat.add_assoc]

theorem wordBytes_wordAt (b : Buffer) (i : Nat) : wordBytes (wordAt b i) = bytesAt b i 2 :=
  wordBytes_wordOf _ _

theorem bytesAt_getD (b : Buffer) (i n k : Nat) (bound : k < n) :
    (bytesAt b i n).getD k 0 = b (i + k) := by
  simp [bytesAt, List.getD_eq_getElem?_getD, bound]

theorem AgreeBelow.bytesAt_eq {m : Nat} {b b' : Buffer} (agree : AgreeBelow m b b') {i n : Nat}
    (bound : i + n ≤ m) : bytesAt b i n = bytesAt b' i n := by
  apply List.map_congr_left
  intro k member
  have := List.mem_range.mp member
  exact agree _ (by omega)

def ofBytes (bytes : List Byte) : Buffer := fun i => bytes.getD i 0

/-- Memory after the given cells have been stored at its start. -/
def overlay {α : Type*} (b : Nat → α) (cells : List α) : Nat → α := fun i => cells.getD i (b i)

theorem overlay_map_range {α : Type*} (b f : Nat → α) (n : Nat) :
    overlay b ((List.range n).map f) = fun k => if k < n then f k else b k := by
  funext k
  rw [overlay, List.getD_eq_getElem?_getD, List.getElem?_map]
  by_cases inside : k < n
  · rw [if_pos inside, List.getElem?_range inside]
    rfl
  · rw [if_neg inside, List.getElem?_eq_none (by simpa using inside)]
    rfl

theorem overlay_agree (b : Buffer) (bytes : List Byte) :
    AgreeBelow bytes.length (overlay b bytes) (ofBytes bytes) := by
  intro i bound
  simp [overlay, ofBytes, List.getD_eq_getElem?_getD, bound]

theorem ofBytes_bytesAt (b : Buffer) (i n : Nat) :
    AgreeBelow n (ofBytes (bytesAt b i n)) fun k => b (i + k) :=
  fun k bound => bytesAt_getD b i n k bound

theorem ofBytes_append_left (xs ys : List Byte) :
    AgreeBelow xs.length (ofBytes (xs ++ ys)) (ofBytes xs) := by
  intro i bound
  exact List.getD_append xs ys 0 i bound

theorem bytesAt_ofBytes (bytes : List Byte) : bytesAt (ofBytes bytes) 0 bytes.length = bytes := by
  apply List.ext_getElem
  · simp
  · intro i _ bound
    simp [bytesAt, ofBytes, List.getD_eq_getElem?_getD, bound]

theorem bytesAt_overlay (buffer : Buffer) (bytes : List Byte) :
    bytesAt (overlay buffer bytes) 0 bytes.length = bytes := by
  rw [(overlay_agree buffer bytes).bytesAt_eq (Nat.zero_add _).le, bytesAt_ofBytes]

theorem bytesAt_ofBytes_append (xs ys zs : List Byte) :
    bytesAt (ofBytes (xs ++ (ys ++ zs))) xs.length ys.length = ys := by
  apply List.ext_getElem
  · simp
  · intro i _ bound
    simp only [bytesAt, ofBytes, List.getElem_map, List.getElem_range]
    rw [List.getD_append_right _ _ _ _ (Nat.le_add_right _ _), Nat.add_sub_cancel_left,
      List.getD_append _ _ _ _ bound, List.getD_eq_getElem _ _ bound]

end ModbusNet
