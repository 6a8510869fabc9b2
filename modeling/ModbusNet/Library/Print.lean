import ModbusNet.Library.Scan

namespace ModbusNet

def intText (n : Int) : List Char :=
  if n < 0 then '-' :: Nat.toDigits 10 n.natAbs else Nat.toDigits 10 n.natAbs

def printInt (width : Nat) (n : Int) : List Char := (intText n).leftpad width ' '

/-- A number with a positive number of digits behind the point, rounded to the nearest, ties to
even. -/
def fixedText (precision : Nat) (q : ℚ) : List Char :=
  let scaled := (Binary32.roundEven (|q| * 10 ^ precision)).toNat
  (if q < 0 then ['-'] else []) ++ (Nat.toDigits 10 (scaled / 10 ^ precision) ++
    '.' :: (Nat.toDigits 10 (scaled % 10 ^ precision)).leftpad precision '0')

def printFloat (width precision : Nat) (q : ℚ) : List Char :=
  (fixedText precision q).leftpad width ' '

theorem digitValue_isDigit {c : Char} (digit : c.isDigit = true) :
    digitValue 10 c = some (c.toNat - '0'.toNat) := by
  have range : 48 ≤ c.toNat ∧ c.toNat ≤ 57 := Char.isDigit_iff_toNat.mp digit
  have value : c.toNat - '0'.toNat < 10 := by
    change c.toNat - 48 < 10
    omega
  rw [digitValue]
  simp only [digit, if_true, value]

theorem spanDigits_append {digits : List Char} (all : ∀ c ∈ digits, c.isDigit = true)
    {rest : List Char} (stop : ∀ c ∈ rest.head?, digitValue 10 c = none) :
    spanDigits 10 (digits ++ rest) = (digits.map fun c => c.toNat - '0'.toNat, rest) := by
  induction digits with
  | nil =>
      cases rest with
      | nil => rfl
      | cons c rest =>
          rw [List.nil_append, spanDigits, stop c rfl]
          rfl
  | cons c digits ih =>
      rw [List.cons_append, spanDigits, digitValue_isDigit (all c List.mem_cons_self),
        ih fun c member => all c (List.mem_cons_of_mem _ member)]
      rfl

theorem digitsValue_map (digits : List Char) :
    digitsValue 10 (digits.map fun c => c.toNat - '0'.toNat) = Nat.ofDigitChars 10 digits 0 := by
  rw [digitsValue, Nat.ofDigitChars_eq_foldl, List.foldl_map]
  simp only [Nat.mul_comm]

theorem toDigits_isDigit (n : Nat) : ∀ c ∈ Nat.toDigits 10 n, c.isDigit = true :=
  fun _ member => Nat.isDigit_of_mem_toDigits (by decide) (by decide) member

theorem spanDigits_toDigits (n : Nat) {rest : List Char}
    (stop : ∀ c ∈ rest.head?, digitValue 10 c = none) :
    ∃ digits, spanDigits 10 (Nat.toDigits 10 n ++ rest) = (digits, rest) ∧
      digits ≠ [] ∧ digitsValue 10 digits = n := by
  refine ⟨_, spanDigits_append (toDigits_isDigit n) stop, ?_, ?_⟩
  · rw [ne_eq, List.map_eq_nil_iff]
    exact Nat.toDigits_ne_nil
  · rw [digitsValue_map, Nat.ofDigitChars_ten_toDigits]

theorem isDigit_plain {c : Char} (digit : c.isDigit = true) :
    c ≠ '-' ∧ c ≠ '+' ∧ isSpace c = false := by
  have range : 48 ≤ c.toNat ∧ c.toNat ≤ 57 := Char.isDigit_iff_toNat.mp digit
  have beyond : ¬ c ≤ '\r' := by
    rw [Char.le_def, UInt32.le_iff_toNat_le]
    change ¬ c.toNat ≤ 13
    omega
  refine ⟨?_, ?_, ?_⟩
  · rintro rfl
    cases digit
  · rintro rfl
    cases digit
  · have notBlank : c ≠ ' ' := by
      rintro rfl
      cases digit
    simp [isSpace, beyond, notBlank]

theorem spanSign_digits {digits rest : List Char} (all : ∀ c ∈ digits, c.isDigit = true)
    (nonempty : digits ≠ []) : spanSign (digits ++ rest) = (false, digits ++ rest) := by
  obtain ⟨c, digits, rfl⟩ := List.exists_cons_of_ne_nil nonempty
  obtain ⟨minus, plus, -⟩ := isDigit_plain (all c List.mem_cons_self)
  rw [List.cons_append, spanSign]
  · exact fun _ same => minus (List.cons.inj same).1
  · exact fun _ same => plus (List.cons.inj same).1

def Numeric (c : Char) : Prop := c.isDigit = true ∨ c = ' ' ∨ c = '-' ∨ c = '.'

instance (c : Char) : Decidable (Numeric c) := inferInstanceAs (Decidable (_ ∨ _))

theorem numeric_leftpad {width : Nat} {pad : Char} {text : List Char} (padding : Numeric pad)
    (all : ∀ c ∈ text, Numeric c) : ∀ c ∈ text.leftpad width pad, Numeric c := by
  intro c member
  rcases List.mem_append.mp member with pad' | inside
  · rw [List.eq_of_mem_replicate pad']
    exact padding
  · exact all c inside

theorem intText_ne_nil (n : Int) : intText n ≠ [] := by
  rw [intText]
  split
  · exact List.cons_ne_nil _ _
  · exact Nat.toDigits_ne_nil

theorem printInt_numeric (width : Nat) (n : Int) : ∀ c ∈ printInt width n, Numeric c := by
  apply numeric_leftpad (.inr (.inl rfl))
  intro c member
  rw [intText] at member
  split at member
  · rcases List.mem_cons.mp member with rfl | digit
    · exact .inr (.inr (.inl rfl))
    · exact .inl (toDigits_isDigit _ c digit)
  · exact .inl (toDigits_isDigit _ c member)

theorem printInt_length {width : Nat} {n : Int} (fits : (intText n).length ≤ width) :
    (printInt width n).length = width := by
  rw [printInt, List.leftpad, List.length_append, List.length_replicate]
  omega

theorem dropSpaces_leftpad {text rest : List Char} (width : Nat)
    (solid : ∀ c ∈ text.head?, isSpace c = false) (nonempty : text ≠ []) :
    (text.leftpad width ' ' ++ rest).dropWhile isSpace = text ++ rest := by
  obtain ⟨c, text, rfl⟩ := List.exists_cons_of_ne_nil nonempty
  have blanks : ∀ x ∈ List.replicate (width - (c :: text).length) ' ', isSpace x = true := by
    intro x member
    rw [List.eq_of_mem_replicate member]
    rfl
  rw [List.leftpad, List.append_assoc, List.dropWhile_append_of_pos blanks, List.cons_append,
    List.dropWhile_cons_of_neg (by rw [solid c rfl]; decide)]

theorem intText_solid (n : Int) : ∀ c ∈ (intText n).head?, isSpace c = false := by
  intro c head
  rw [intText] at head
  split at head
  · obtain rfl : '-' = c := Option.some.inj head
    rfl
  · exact (isDigit_plain (toDigits_isDigit _ c (List.mem_of_mem_head? head))).2.2

theorem scanInt_printInt {width : Nat} {n : Int} (fits : (intText n).length ≤ width)
    {rest : List Char} (stop : ∀ c ∈ rest.head?, digitValue 10 c = none) :
    scanInt width (printInt width n ++ rest) = some (n, rest) := by
  have field : (intText n ++ rest).take width =
      intText n ++ rest.take (width - (intText n).length) := by
    rw [List.take_append, List.take_of_length_le fits]
  have behind : (intText n ++ rest).drop width = rest.drop (width - (intText n).length) := by
    rw [List.drop_append, List.drop_of_length_le fits, List.nil_append]
  have stop' : ∀ c ∈ (rest.take (width - (intText n).length)).head?, digitValue 10 c = none := by
    intro c head
    rw [List.head?_take] at head
    split at head
    · cases head
    · exact stop c head
  rw [scanInt, printInt, dropSpaces_leftpad width (intText_solid n) (intText_ne_nil n), field, behind]
  obtain ⟨digits, span, nonempty, value⟩ := spanDigits_toDigits n.natAbs stop'
  have tail : rest.take (width - (intText n).length) ++ rest.drop (width - (intText n).length) =
      rest := List.take_append_drop _ _
  by_cases negative : n < 0
  · have text : intText n = '-' :: Nat.toDigits 10 n.natAbs := if_pos negative
    have sign : spanSign (intText n ++ rest.take (width - (intText n).length)) =
        (true, Nat.toDigits 10 n.natAbs ++ rest.take (width - (intText n).length)) := by
      rw [text]
      rfl
    simp only [sign, span, if_neg nonempty, value, tail, signed, if_true]
    congr 2
    omega
  · have text : intText n = Nat.toDigits 10 n.natAbs := if_neg negative
    have sign : spanSign (intText n ++ rest.take (width - (intText n).length)) =
        (false, Nat.toDigits 10 n.natAbs ++ rest.take (width - (intText n).length)) := by
      rw [text]
      exact spanSign_digits (toDigits_isDigit _) Nat.toDigits_ne_nil
    simp only [sign, span, if_neg nonempty, value, tail, signed, Bool.false_eq_true, if_false]
    congr 2
    omega

theorem digitsValue_lt {digits : List Nat} (small : ∀ d ∈ digits, d < 10) :
    digitsValue 10 digits < 10 ^ digits.length := by
  induction digits using List.reverseRecOn with
  | nil => exact Nat.one_pos
  | append_singleton digits d ih =>
      have before := ih fun d' member => small d' (List.mem_append_left _ member)
      have last := small d (List.mem_append_right _ (List.mem_singleton_self d))
      rw [digitsValue, List.foldl_append, List.length_append, List.length_singleton, Nat.pow_succ]
      change digitsValue 10 digits * 10 + d < _
      omega

theorem digitValue_lt {base d : Nat} {c : Char} (value : digitValue base c = some d) : d < base := by
  rw [digitValue] at value
  obtain ⟨small, same⟩ := Option.ite_none_right_eq_some.mp value
  exact Option.some.inj same ▸ small

theorem spanDigits_small (base : Nat) (text : List Char) :
    (∀ d ∈ (spanDigits base text).1, d < base) ∧
      (spanDigits base text).1.length ≤ text.length := by
  induction text with
  | nil => exact ⟨by simp [spanDigits], le_rfl⟩
  | cons c text ih =>
      rw [spanDigits]
      cases value : digitValue base c with
      | none => exact ⟨by simp, Nat.zero_le _⟩
      | some d =>
          refine ⟨fun d' member => ?_, Nat.succ_le_succ ih.2⟩
          rcases List.mem_cons.mp member with rfl | later
          · exact digitValue_lt value
          · exact ih.1 d' later

theorem spanSign_length (text : List Char) :
    (spanSign text).2.length + (spanSign text).1.toNat ≤ text.length := by
  rw [spanSign.eq_def]
  split
  · exact le_rfl
  · exact Nat.le_succ _
  · exact le_rfl

theorem scanInt_fits {width : Nat} {text rest : List Char} {n : Int}
    (scanned : scanInt width text = some (n, rest)) : (intText n).length ≤ width := by
  rw [scanInt] at scanned
  set field := (text.dropWhile isSpace).take width with field_def
  have room : field.length ≤ width := List.length_take_le _ _
  have sign := spanSign_length field
  obtain ⟨small, length⟩ := spanDigits_small 10 (spanSign field).2
  simp only at scanned
  split at scanned
  · cases scanned
  · rename_i some'
    obtain ⟨value, -⟩ := Prod.mk.inj (Option.some.inj scanned)
    have below := digitsValue_lt small
    have pos : 0 < (spanDigits 10 (spanSign field).2).1.length := List.length_pos_iff.mpr some'
    generalize (spanDigits 10 (spanSign field).2).1 = digits at *
    have text' : (Nat.toDigits 10 n.natAbs).length ≤ digits.length := by
      rw [Nat.length_toDigits_le_iff (by decide) pos]
      rw [← value]
      cases (spanSign field).1 <;> simpa [signed] using below
    rw [intText]
    split
    · rename_i negative
      have minus : (spanSign field).1 = true := by
        by_contra plus
        rw [Bool.not_eq_true] at plus
        rw [plus] at value
        simp only [signed, Bool.false_eq_true, if_false] at value
        omega
      rw [minus] at sign
      rw [List.length_cons]
      simp only [Bool.toNat_true] at sign
      omega
    · omega

theorem printFloat_numeric (width precision : Nat) (q : ℚ) :
    ∀ c ∈ printFloat width precision q, Numeric c := by
  apply numeric_leftpad (.inr (.inl rfl))
  intro c member
  rw [fixedText] at member
  rcases List.mem_append.mp member with sign | unsigned
  · split at sign
    · rw [List.mem_singleton.mp sign]
      exact .inr (.inr (.inl rfl))
    · cases sign
  · rcases List.mem_append.mp unsigned with whole | fraction
    · exact .inl (toDigits_isDigit _ c whole)
    · rcases List.mem_cons.mp fraction with rfl | digit
      · exact .inr (.inr (.inr rfl))
      · exact numeric_leftpad (.inl rfl) (fun c digit => .inl (toDigits_isDigit _ c digit)) c digit

theorem fixedText_natCast {precision : Nat} (positive : 0 < precision) (v : Nat) :
    fixedText precision v = Nat.toDigits 10 v ++ '.' :: List.replicate precision '0' := by
  have scaled : Binary32.roundEven (|(v : ℚ)| * 10 ^ precision) = (v * 10 ^ precision : Nat) := by
    rw [Nat.abs_cast]
    have whole : (v : ℚ) * 10 ^ precision = ((v * 10 ^ precision : Nat) : ℤ) := by push_cast; rfl
    rw [whole, Binary32.roundEven_intCast]
  have zeros : (Nat.toDigits 10 0).leftpad precision '0' = List.replicate precision '0' := by
    rw [Nat.toDigits_zero, List.leftpad, ← List.replicate_one, List.replicate_append_replicate]
    congr 1
    simp only [List.replicate_one, List.length_singleton]
    omega
  have power : 0 < 10 ^ precision := Nat.pow_pos (by decide)
  rw [fixedText, if_neg (not_lt.mpr (Nat.cast_nonneg v)), scaled, Int.toNat_natCast,
    Nat.mul_div_cancel _ power, Nat.mul_mod_left, zeros]
  rfl

theorem isDigit_toLower {c : Char} (digit : c.isDigit = true) : c.toLower = c := by
  have range : 48 ≤ c.toNat ∧ c.toNat ≤ 57 := Char.isDigit_iff_toNat.mp digit
  apply dif_neg
  rintro ⟨upper, -⟩
  have beyond : 65 ≤ c.toNat := UInt32.le_iff_toNat_le.mp upper
  omega

theorem digitsValue_zeros (digits : List Nat) (k : Nat) :
    digitsValue 10 (digits ++ List.replicate k 0) = digitsValue 10 digits * 10 ^ k := by
  induction k with
  | zero => simp
  | succ k ih =>
      rw [List.replicate_succ', ← List.append_assoc, digitsValue, List.foldl_append]
      change digitsValue 10 (digits ++ List.replicate k 0) * 10 + 0 = _
      rw [ih, Nat.pow_succ, Nat.add_zero, Nat.mul_assoc]

theorem scanSignificand_natCast {v k : Nat} {rest : List Char}
    (stop : ∀ c ∈ rest.head?, digitValue 10 c = none ∧ c.toLower ≠ 'e') :
    scanSignificand 10 10 'e' (Nat.toDigits 10 v ++ '.' :: (List.replicate k '0' ++ rest)) =
      some (v : ℚ) := by
  have point : ∀ c ∈ ('.' :: (List.replicate k '0' ++ rest)).head?, digitValue 10 c = none := by
    intro c head
    obtain rfl : '.' = c := Option.some.inj head
    decide
  obtain ⟨digits, whole, nonempty, value⟩ := spanDigits_toDigits v point
  have zeros : ∀ c ∈ List.replicate k '0', c.isDigit = true := by
    intro c member
    rw [List.eq_of_mem_replicate member]
    rfl
  have fraction := spanDigits_append zeros fun c head => (stop c head).1
  rw [List.map_replicate] at fraction
  have exponent : scanExponent 'e' rest = 0 := by
    cases rest with
    | nil => rfl
    | cons c rest => exact if_neg (stop c rfl).2
  have joined : digitsValue 10 (digits ++ List.replicate k ('0'.toNat - '0'.toNat)) = v * 10 ^ k := by
    rw [← value]
    exact digitsValue_zeros digits k
  rw [scanSignificand, whole]
  simp only [fraction, exponent, joined]
  rw [if_neg (by simp [nonempty]), List.length_replicate]
  simp

theorem parseFloat_natCast {v k : Nat} (exact : v ≤ 2 ^ 24) {rest : List Char}
    (lower : rest.map Char.toLower = rest)
    (stop : ∀ c ∈ rest.head?, digitValue 10 c = none ∧ c.toLower ≠ 'e') :
    parseFloat (Nat.toDigits 10 v ++ '.' :: (List.replicate k '0' ++ rest)) = some (.finite v) := by
  have lowered : (Nat.toDigits 10 v ++ '.' :: (List.replicate k '0' ++ rest)).map Char.toLower =
      Nat.toDigits 10 v ++ '.' :: (List.replicate k '0' ++ rest) := by
    have digits : (Nat.toDigits 10 v).map Char.toLower = Nat.toDigits 10 v :=
      (List.map_congr_left fun c member => isDigit_toLower (toDigits_isDigit v c member)).trans
        (List.map_id _)
    rw [List.map_append, List.map_cons, List.map_append, List.map_replicate, digits, lower]
    rfl
  have significand := scanSignificand_natCast (v := v) (k := k) stop
  have round : Binary32.round (v : ℚ) = .finite v := by
    have whole := Binary32.round_intCast (n := v) (by rw [Nat.abs_cast]; exact_mod_cast exact)
    rwa [Int.cast_natCast] at whole
  rw [parseFloat, spanSign_digits (toDigits_isDigit v) Nat.toDigits_ne_nil]
  simp only [lowered]
  rw [← round]
  obtain ⟨c, digits, text⟩ := List.exists_cons_of_ne_nil (Nat.toDigits_ne_nil (n := v) (b := 10))
  have all := toDigits_isDigit v
  rw [text] at all significand ⊢
  have first := all c List.mem_cons_self
  split
  · rename_i same
    rw [(List.cons.inj same).1] at first
    cases first
  · rename_i same
    rw [(List.cons.inj same).1] at first
    cases first
  · rename_i same
    have second := (List.cons.inj same).2
    cases digits with
    | nil => cases (List.cons.inj second).1
    | cons d digits =>
        have digit := all d (List.mem_cons_of_mem _ List.mem_cons_self)
        rw [(List.cons.inj second).1] at digit
        cases digit
  · rw [significand]
    rfl

/-- A whole number with its point in the field is read back, behind any blanks; zeros behind the
point that do not fit are not read. -/
theorem scanFloat_printFloat {width precision v : Nat} (positive : 0 < precision) (exact : v ≤ 2 ^ 24)
    (fits : (Nat.toDigits 10 v).length < width) (blanks : Nat) {rest : List Char}
    (lower : rest.map Char.toLower = rest)
    (stop : ∀ c ∈ rest.head?, digitValue 10 c = none ∧ c.toLower ≠ 'e') :
    scanFloat width (List.replicate blanks ' ' ++ (printFloat width precision v ++ rest)) =
      some (.finite v) := by
  have text := fixedText_natCast positive v
  have solid : ∀ c ∈ (fixedText precision v).head?, isSpace c = false := by
    intro c head
    rw [text, List.head?_append_of_ne_nil _ Nat.toDigits_ne_nil] at head
    exact (isDigit_plain (toDigits_isDigit v c (List.mem_of_mem_head? head))).2.2
  have nonempty : fixedText precision v ≠ [] := by
    rw [text]
    exact List.append_ne_nil_of_left_ne_nil Nat.toDigits_ne_nil _
  have spaces : ∀ x ∈ List.replicate blanks ' ', isSpace x = true := by
    intro x member
    rw [List.eq_of_mem_replicate member]
    rfl
  obtain ⟨room, behind⟩ : ∃ room, width - (Nat.toDigits 10 v).length = room + 1 :=
    Nat.exists_eq_succ_of_ne_zero (by omega)
  rw [scanFloat, List.dropWhile_append_of_pos spaces, printFloat,
    dropSpaces_leftpad width solid nonempty, text, List.append_assoc, List.take_append,
    List.take_of_length_le fits.le, behind, List.cons_append, List.take_succ_cons, List.take_append,
    List.take_replicate, List.length_replicate]
  apply parseFloat_natCast exact
  · rw [List.map_take, lower]
  · intro c head
    rw [List.head?_take] at head
    split at head
    · cases head
    · exact stop c head

end ModbusNet
