import ModbusNet.Library.Binary32

namespace ModbusNet

/-- The lines that `fgets` with a buffer of `size` returns one after the other, after the characters
of `line`: each ends with its newline or is as long as the buffer allows. -/
def fgetsFrom (size : Nat) (line : List Char) : List Char → List (List Char)
  | [] => if line = [] then [] else [line]
  | c :: text =>
      if c = '\n' ∨ line.length + 2 = size then (line ++ [c]) :: fgetsFrom size [] text
      else fgetsFrom size (line ++ [c]) text

def fgetsLines (size : Nat) (text : List Char) : List (List Char) :=
  (fgetsFrom size [] text).map (List.takeWhile (· ≠ '\x00'))

theorem fgetsFrom_flatten (size : Nat) (line text : List Char) :
    (fgetsFrom size line text).flatten = line ++ text := by
  induction text generalizing line with
  | nil =>
      rw [fgetsFrom]
      split
      · rename_i nothing
        rw [nothing]
        rfl
      · simp
  | cons c text ih =>
      rw [fgetsFrom]
      split
      · rw [List.flatten_cons, ih, List.nil_append, List.append_assoc, List.singleton_append]
      · rw [ih, List.append_assoc, List.singleton_append]

def EndsLine (size : Nat) (line : List Char) : Prop :=
  ∀ rest, fgetsFrom size [] (line ++ rest) = line :: fgetsFrom size [] rest

theorem fgetsFrom_newline (size : Nat) (line body rest : List Char) (solid : '\n' ∉ body)
    (room : line.length + body.length + 1 < size) :
    fgetsFrom size line (body ++ '\n' :: rest) = (line ++ (body ++ ['\n'])) :: fgetsFrom size [] rest := by
  induction body generalizing line with
  | nil => exact if_pos (.inl rfl)
  | cons c body ih =>
      rw [List.length_cons] at room
      have other : ¬ (c = '\n' ∨ line.length + 2 = size) := by
        rintro (same | full)
        · exact solid (same ▸ List.mem_cons_self)
        · omega
      rw [List.cons_append, fgetsFrom, if_neg other,
        ih (line ++ [c]) (fun member => solid (List.mem_cons_of_mem _ member))
          (by rw [List.length_append, List.length_singleton]; omega), List.append_assoc]
      rfl

theorem endsLine_newline {size : Nat} {body : List Char} (solid : '\n' ∉ body)
    (room : body.length + 1 < size) : EndsLine size (body ++ ['\n']) := by
  intro rest
  rw [List.append_assoc]
  exact fgetsFrom_newline size [] body rest solid (by simpa using room)

theorem fgetsFrom_lines {size : Nat} {lines : List (List Char)}
    (ends : ∀ line ∈ lines, EndsLine size line) : fgetsFrom size [] lines.flatten = lines := by
  induction lines with
  | nil => rfl
  | cons line lines ih =>
      rw [List.flatten_cons, ends line List.mem_cons_self,
        ih fun later member => ends later (List.mem_cons_of_mem line member)]

theorem fgetsFrom_cases (size : Nat) (line text : List Char) :
    (fgetsFrom size line text = if line ++ text = [] then [] else [line ++ text]) ∨
      ∃ front back, text = front ++ back ∧
        ∀ rest, fgetsFrom size line (front ++ rest) = (line ++ front) :: fgetsFrom size [] rest := by
  induction text generalizing line with
  | nil =>
      left
      rw [fgetsFrom, List.append_nil]
  | cons c text ih =>
      by_cases ends : c = '\n' ∨ line.length + 2 = size
      · exact .inr ⟨[c], text, rfl, fun rest => if_pos ends⟩
      · have next : ∀ text, fgetsFrom size line (c :: text) = fgetsFrom size (line ++ [c]) text :=
          fun text => if_neg ends
        rcases ih (line ++ [c]) with all | ⟨front, back, rfl, first⟩
        · left
          rw [next, all, List.append_assoc, List.singleton_append]
        · refine .inr ⟨c :: front, back, rfl, fun rest => ?_⟩
          rw [List.cons_append, next, first, List.append_assoc, List.singleton_append]

theorem fgetsFrom_split {size : Nat} {text line : List Char} {pre post : List (List Char)}
    (lines : fgetsFrom size [] text = pre ++ line :: post) :
    text = pre.flatten ++ (line ++ post.flatten) ∧
      (∀ rest, fgetsFrom size [] (pre.flatten ++ rest) = pre ++ fgetsFrom size [] rest) ∧
      fgetsFrom size [] post.flatten = post := by
  -- A line that is not the last ends in itself, whatever is behind it.
  induction pre generalizing text with
  | nil =>
      have whole := fgetsFrom_flatten size [] text
      rw [lines, List.nil_append, List.nil_append, List.flatten_cons] at whole
      refine ⟨whole.symm, fun rest => rfl, ?_⟩
      rcases fgetsFrom_cases size [] text with all | ⟨front, back, rfl, first⟩
      · rw [lines] at all
        split at all
        · cases all
        · rw [(List.cons.inj all).2]
          rfl
      · rw [first back] at lines
        rw [← (List.cons.inj lines).2, fgetsFrom_flatten, List.nil_append]
  | cons l pre ih =>
      rcases fgetsFrom_cases size [] text with all | ⟨front, back, rfl, first⟩
      · rw [lines] at all
        split at all
        · cases all
        · exact absurd (List.cons.inj all).2 (List.append_ne_nil_of_right_ne_nil _ (List.cons_ne_nil _ _))
      · rw [first back] at lines
        obtain ⟨rfl, later⟩ := List.cons.inj lines
        obtain ⟨whole, before, after⟩ := ih later
        refine ⟨?_, fun rest => ?_, after⟩
        · rw [List.flatten_cons, List.append_assoc, ← whole]
          rfl
        · rw [List.flatten_cons, List.append_assoc]
          exact (first _).trans (by rw [before]; rfl)

def isSpace (c : Char) : Bool := c = ' ' || ('\t' ≤ c && c ≤ '\r')

def digitValue (base : Nat) (c : Char) : Option Nat :=
  let value :=
    if c.isDigit then c.toNat - '0'.toNat
    else if 'a' ≤ c ∧ c ≤ 'f' then c.toNat - 'a'.toNat + 10
    else if 'A' ≤ c ∧ c ≤ 'F' then c.toNat - 'A'.toNat + 10
    else base
  if value < base then some value else none

def spanDigits (base : Nat) : List Char → List Nat × List Char
  | [] => ([], [])
  | c :: text =>
      match digitValue base c with
      | some d => (d :: (spanDigits base text).1, (spanDigits base text).2)
      | none => ([], c :: text)

def digitsValue (base : Nat) (digits : List Nat) : Nat := digits.foldl (fun n d => n * base + d) 0

def spanSign : List Char → Bool × List Char
  | '-' :: text => (true, text)
  | '+' :: text => (false, text)
  | text => (false, text)

def signed {α : Type} [Neg α] (negative : Bool) (x : α) : α := if negative then -x else x

def scanInt (width : Nat) (text : List Char) : Option (Int × List Char) :=
  let text := text.dropWhile isSpace
  let (negative, unsigned) := spanSign (text.take width)
  let (digits, rest) := spanDigits 10 unsigned
  if digits = [] then none
  else some (signed negative (digitsValue 10 digits : Int), rest ++ text.drop width)

def scanExponent (marker : Char) : List Char → Int
  | c :: text =>
      if c.toLower = marker then
        let (negative, unsigned) := spanSign text
        signed negative (digitsValue 10 (spanDigits 10 unsigned).1 : Int)
      else 0
  | [] => 0

def scanSignificand (base radix : Nat) (marker : Char) (text : List Char) : Option ℚ :=
  let (whole, rest) := spanDigits base text
  let (fraction, rest) :=
    match rest with
    | '.' :: more => spanDigits base more
    | _ => ([], rest)
  if whole ++ fraction = [] then none
  else some (digitsValue base (whole ++ fraction) / (base : ℚ) ^ fraction.length *
    (radix : ℚ) ^ scanExponent marker rest)

def parseFloat (field : List Char) : Option Binary32 :=
  let (negative, unsigned) := spanSign field
  match unsigned.map Char.toLower with
  | 'i' :: 'n' :: 'f' :: rest => if rest.head? = some 'i' then none else some (.infinity negative)
  | 'n' :: 'a' :: 'n' :: _ => some .nan
  | '0' :: 'x' :: rest =>
      match scanSignificand 16 2 'p' rest with
      | some q => some (Binary32.round (signed negative q))
      -- A point is enough for `scanf`, and `strtof` reads the zero in front of the `x`.
      | none => if rest.head? = some '.' then some (Binary32.round (signed negative 0)) else none
  | rest => (scanSignificand 10 10 'e' rest).map fun q => Binary32.round (signed negative q)

def scanFloat (width : Nat) (text : List Char) : Option Binary32 :=
  parseFloat ((text.dropWhile isSpace).take width)

example : (scanInt 4 "3002      10.0\n".toList).bind (fun r => scanFloat 6 r.2) =
    some (.finite 10) := by
  decide +kernel

example : ["0x", "0x.", "-0X.p1", "0x.8", "1e", "."].map (fun field => parseFloat field.toList) =
    [none, some (.finite 0), some (.finite 0), some (.finite (1 / 2)), some (.finite 1), none] := by
  decide +kernel

end ModbusNet
