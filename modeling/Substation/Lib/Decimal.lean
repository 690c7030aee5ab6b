/-
This file is the decimal text of numbers, as formatted input and output read
and write it: the integer and floating conversions of a scanner, the integer and
fixed-point conversions of a printer, and the decimal numerals both share.

A numeral is what a program prints for a finite number: a sign, a whole part, a
fraction and possibly a power of ten. `scanDecimal_text` says that the scanner
reads every numeral back, up to the first character that cannot continue it.
-/

import Substation.Lib.Ieee

namespace Decimal

/-- A text, as the sequence of its characters. -/
abbrev Text := List Char

/-! ### Scanning -/

/-- The white space of the C locale. -/
def isSpace (character : Char) : Bool :=
  character = ' ' || (9 ≤ character.toNat && character.toNat ≤ 13)

/-- The text after an optional sign, and whether the sign was a minus. -/
def scanSign : Text → Bool × Text
  | '-' :: rest => (true, rest)
  | '+' :: rest => (false, rest)
  | text => (false, text)

/-- The longest prefix of digits, and the text after it. -/
def scanDigits (text : Text) : Text × Text :=
  (text.takeWhile Char.isDigit, text.dropWhile Char.isDigit)

/-- An integer: white space, an optional sign and at least one digit. -/
def scanInteger (text : Text) : Option (ℤ × Text) :=
  let signed := scanSign (text.dropWhile isSpace)
  let digits := scanDigits signed.2
  if digits.1 = [] then none
  else
    let magnitude : ℤ := Nat.ofDigitChars 10 digits.1 0
    some (if signed.1 then -magnitude else magnitude, digits.2)

/-- The fraction after a whole part: a point and any number of digits. -/
def scanFraction : Text → Text × Text
  | '.' :: rest => scanDigits rest
  | text => ([], text)

/-- The power of ten after a significand. An `e` with no digits after it does not belong to the
number; a scanner that `takesMark` has read it, and a sign, before it finds that out. -/
def scanExponent (takesMark : Bool) : Text → ℤ × Text
  | mark :: rest =>
    if mark = 'e' ∨ mark = 'E' then
      let signed := scanSign rest
      let digits := scanDigits signed.2
      if digits.1 = [] then (0, if takesMark then digits.2 else mark :: rest)
      else
        let magnitude : ℤ := Nat.ofDigitChars 10 digits.1 0
        (if signed.1 then -magnitude else magnitude, digits.2)
    else (0, mark :: rest)
  | [] => (0, [])

/-- A decimal number: white space, an optional sign, digits with an optional point, and an
optional power of ten. The result is the sign, the magnitude and the text after the number. -/
def scanDecimal (takesMark : Bool) (text : Text) : Option (Bool × ℚ × Text) :=
  let signed := scanSign (text.dropWhile isSpace)
  let whole := scanDigits signed.2
  let fraction := scanFraction whole.2
  if whole.1 ++ fraction.1 = [] then none
  else
    let exponent := scanExponent takesMark fraction.2
    some (signed.1,
      (Nat.ofDigitChars 10 (whole.1 ++ fraction.1) 0 : ℚ) *
        10 ^ (exponent.1 - fraction.1.length), exponent.2)

/-- The integer a text denotes as a whole. -/
def integerOf (text : Text) : Option ℤ :=
  match scanInteger text with
  | some (value, []) => some value
  | _ => none

/-- The decimal number a text denotes as a whole. -/
def decimalOf (text : Text) : Option ℚ :=
  match scanDecimal false text with
  | some (negative, magnitude, []) => some (if negative then -magnitude else magnitude)
  | _ => none

/-! ### Printing -/

/-- The decimal text of an integer. -/
def printInteger (value : ℤ) : Text :=
  (if value < 0 then ['-'] else []) ++ Nat.toDigits 10 value.natAbs

/-- The text of a number given in units of the last of `decimals` places. -/
def printScaled (decimals scaled : ℕ) : Text :=
  Nat.toDigits 10 (scaled / 10 ^ decimals) ++
    if decimals = 0 then []
    else '.' :: List.leftpad decimals '0' (Nat.toDigits 10 (scaled % 10 ^ decimals))

/-- The fixed-point text of a bit pattern: rounded exactly, ties to even. -/
def printFixed (format : Ieee.Format) (decimals bits : ℕ) : Text :=
  (if format.sign bits then ['-'] else []) ++
    if format.infinity < format.magnitude bits then ['n', 'a', 'n']
    else if format.magnitude bits = format.infinity then ['i', 'n', 'f']
    else printScaled decimals
      (Ieee.roundEven (format.magnitudeValue (format.magnitude bits) * 10 ^ decimals)).toNat

/-- The number of characters of a printed integer: its sign and its digits. -/
def integerWidth (value : ℤ) : ℕ :=
  (if value < 0 then 1 else 0) + (Nat.log 10 value.natAbs + 1)

/-- The number printed in fixed point, in units of its last place. -/
def scaledValue (format : Ieee.Format) (decimals bits : ℕ) : ℕ :=
  (Ieee.roundEven (format.magnitudeValue (format.magnitude bits) * 10 ^ decimals)).toNat

/-- The number of characters of a finite number in fixed point: its sign, the digits of its whole
part, and the point with the decimal places. -/
def fixedWidth (format : Ieee.Format) (decimals bits : ℕ) : ℕ :=
  (if format.sign bits then 1 else 0) +
    (Nat.log 10 (scaledValue format decimals bits / 10 ^ decimals) + 1) +
    if decimals = 0 then 0 else decimals + 1

/-! ### Numerals -/

/-- A finite number as a program prints it. A fraction without digits has no point, and the
digits of the fraction are kept in order. -/
structure Numeral where
  negative : Bool
  whole : ℕ
  fraction : List (Fin 10)
  exponent : Option ℤ
  deriving DecidableEq, Repr

namespace Numeral

def fractionText (numeral : Numeral) : Text :=
  numeral.fraction.map fun digit : Fin 10 => Nat.digitChar digit.val

/-- The exponent has a sign and at least two digits. -/
def exponentText (exponent : ℤ) : Text :=
  'e' :: (if exponent < 0 then '-' else '+') ::
    List.leftpad 2 '0' (Nat.toDigits 10 exponent.natAbs)

def text (numeral : Numeral) : Text :=
  (if numeral.negative then ['-'] else []) ++ Nat.toDigits 10 numeral.whole ++
    (if numeral.fraction = [] then [] else '.' :: numeral.fractionText) ++
    match numeral.exponent with
    | none => []
    | some exponent => exponentText exponent

/-- The magnitude of a numeral. -/
def magnitude (numeral : Numeral) : ℚ :=
  (Nat.ofDigitChars 10 (Nat.toDigits 10 numeral.whole ++ numeral.fractionText) 0 : ℚ) *
    10 ^ (numeral.exponent.getD 0 - numeral.fraction.length)

/-- The number a numeral denotes. -/
def value (numeral : Numeral) : ℚ :=
  if numeral.negative then -numeral.magnitude else numeral.magnitude

/-- A numeral with one decimal place, from its value in tenths. -/
def tenths (value : ℕ) : Numeral where
  negative := false
  whole := value / 10
  fraction := [⟨value % 10, Nat.mod_lt _ (by decide)⟩]
  exponent := none

end Numeral

/-! ### What a scanner reads of a printed number -/

/-- A text that does not continue a run of digits. -/
def StopsDigits (text : Text) : Prop := ∀ character ∈ text.head?, character.isDigit = false

theorem scanDigits_append {digits rest : Text} (all : ∀ digit ∈ digits, digit.isDigit = true)
    (stops : StopsDigits rest) : scanDigits (digits ++ rest) = (digits, rest) := by
  have head : rest.takeWhile Char.isDigit = [] ∧ rest.dropWhile Char.isDigit = rest := by
    cases rest with
    | nil => exact ⟨rfl, rfl⟩
    | cons character rest =>
      have stop : character.isDigit = false := stops character rfl
      simp [stop]
  rw [scanDigits, List.takeWhile_append_of_pos all, List.dropWhile_append_of_pos all, head.1,
    head.2, List.append_nil]

theorem isDigit_toDigits {value : ℕ} : ∀ digit ∈ Nat.toDigits 10 value, digit.isDigit = true :=
  fun _ member => Nat.isDigit_of_mem_toDigits (by decide) (by decide) member

theorem isDigit_digitChar (digit : Fin 10) : (Nat.digitChar digit).isDigit = true := by
  revert digit
  decide

theorem not_isSpace_of_isDigit {character : Char} (digit : character.isDigit = true) :
    isSpace character = false := by
  have bounds : 48 ≤ character.toNat ∧ character.toNat ≤ 57 := by
    simpa [Char.isDigit, UInt32.le_iff_toNat_le] using digit
  have notBlank : character ≠ ' ' := by
    rintro rfl
    revert bounds
    decide
  simp only [isSpace, notBlank, decide_false, Bool.false_or, Bool.and_eq_false_imp,
    decide_eq_true_eq, decide_eq_false_iff_not]
  omega

/-- Digits start neither with white space nor with a sign. -/
theorem scanSign_digits {digits rest : Text} (all : ∀ digit ∈ digits, digit.isDigit = true)
    (nonempty : digits ≠ []) :
    scanSign ((digits ++ rest).dropWhile isSpace) = (false, digits ++ rest) ∧
      scanSign (digits ++ rest) = (false, digits ++ rest) := by
  obtain ⟨digit, digits, rfl⟩ := List.exists_cons_of_ne_nil nonempty
  have isDigit := all digit List.mem_cons_self
  have space : (digit :: digits ++ rest).dropWhile isSpace = digit :: digits ++ rest := by
    simp [not_isSpace_of_isDigit isDigit]
  have sign : scanSign (digit :: digits ++ rest) = (false, digit :: digits ++ rest) := by
    rw [List.cons_append, scanSign]
    · rintro rest' equal
      rw [(List.cons.inj equal).1] at isDigit
      exact absurd isDigit (by decide)
    · rintro rest' equal
      rw [(List.cons.inj equal).1] at isDigit
      exact absurd isDigit (by decide)
  rw [space]
  exact ⟨sign, sign⟩

/-- A sign, when the number has one, and its digits. -/
theorem scanSign_signed (negative : Bool) {digits rest : Text}
    (all : ∀ digit ∈ digits, digit.isDigit = true) (nonempty : digits ≠ []) :
    scanSign (((if negative then ['-'] else []) ++ digits ++ rest).dropWhile isSpace) =
      (negative, digits ++ rest) := by
  cases negative with
  | false => exact (scanSign_digits all nonempty).1
  | true => rfl

/-- A scanner reads a printed integer back. -/
theorem scanInteger_print (value : ℤ) {rest : Text} (stops : StopsDigits rest) :
    scanInteger (printInteger value ++ rest) = some (value, rest) := by
  have digits := @isDigit_toDigits value.natAbs
  have sign := @scanSign_signed (decide (value < 0)) _ rest digits Nat.toDigits_ne_nil
  simp only [decide_eq_true_eq] at sign
  rw [scanInteger, printInteger, sign]
  simp only [scanDigits_append digits stops, Nat.toDigits_ne_nil, if_false,
    Nat.ofDigitChars_ten_toDigits, decide_eq_true_eq, Option.some.injEq, Prod.mk.injEq, and_true]
  split <;> omega

/-- A text that does not continue a decimal number. -/
def StopsNumber (text : Text) : Prop :=
  ∀ character ∈ text.head?, character.isDigit = false ∧ character ≠ '.' ∧
    character ≠ 'e' ∧ character ≠ 'E'

theorem StopsNumber.stopsDigits {text : Text} (stops : StopsNumber text) : StopsDigits text :=
  fun character member => (stops character member).1

theorem stopsDigits_cons {character : Char} {text : Text} (notDigit : character.isDigit = false) :
    StopsDigits (character :: text) := by
  intro other member
  rw [List.head?_cons, Option.mem_some] at member
  exact member ▸ notDigit

namespace Numeral

theorem isDigit_leftpad (width value : ℕ) :
    ∀ digit ∈ List.leftpad width '0' (Nat.toDigits 10 value), digit.isDigit = true := by
  intro digit member
  rcases List.mem_append.mp member with pad | own
  · rw [(List.mem_replicate.mp pad).2]
    decide
  · exact isDigit_toDigits digit own

theorem ofDigitChars_leftpad (width value : ℕ) :
    Nat.ofDigitChars 10 (List.leftpad width '0' (Nat.toDigits 10 value)) 0 = value := by
  rw [List.leftpad, Nat.ofDigitChars_append, Nat.ofDigitChars_replicate_zero, Nat.mul_zero,
    Nat.ofDigitChars_ten_toDigits]

theorem scanExponent_text (takesMark : Bool) (exponent : ℤ) {rest : Text}
    (stops : StopsDigits rest) :
    scanExponent takesMark (exponentText exponent ++ rest) = (exponent, rest) := by
  have digits := scanDigits_append (isDigit_leftpad 2 exponent.natAbs) stops
  have nonempty : List.leftpad 2 '0' (Nat.toDigits 10 exponent.natAbs) ≠ [] := by
    simp [List.leftpad]
  rw [exponentText, List.cons_append, List.cons_append, scanExponent, if_pos (Or.inl rfl)]
  by_cases negative : exponent < 0
  · simp only [if_pos negative, scanSign, digits, if_neg nonempty, ofDigitChars_leftpad, if_true,
      Prod.mk.injEq, and_true]
    omega
  · simp only [if_neg negative, scanSign, digits, if_neg nonempty, ofDigitChars_leftpad,
      Bool.false_eq_true, if_false, Prod.mk.injEq, and_true]
    omega

theorem scanExponent_of_stops (takesMark : Bool) {rest : Text} (stops : StopsNumber rest) :
    scanExponent takesMark rest = (0, rest) := by
  cases rest with
  | nil => rfl
  | cons character rest =>
    obtain ⟨-, -, lower, upper⟩ := stops character rfl
    rw [scanExponent, if_neg (not_or.mpr ⟨lower, upper⟩)]

/-- The power of ten of a numeral, as it stands at the end of its text. -/
def exponentPart (numeral : Numeral) : Text :=
  match numeral.exponent with
  | none => []
  | some exponent => exponentText exponent

theorem scanExponent_exponentPart (takesMark : Bool) (numeral : Numeral) {rest : Text}
    (stops : StopsNumber rest) :
    scanExponent takesMark (numeral.exponentPart ++ rest) = (numeral.exponent.getD 0, rest) ∧
      StopsDigits (numeral.exponentPart ++ rest) := by
  unfold exponentPart
  cases numeral.exponent with
  | none => exact ⟨scanExponent_of_stops takesMark stops, stops.stopsDigits⟩
  | some exponent =>
    exact ⟨scanExponent_text takesMark exponent stops.stopsDigits, stopsDigits_cons (by decide)⟩

/-- The point and the digits of a numeral's fraction. -/
def fractionPart (numeral : Numeral) : Text :=
  if numeral.fraction = [] then [] else '.' :: numeral.fractionText

theorem scanFraction_fractionPart (numeral : Numeral) {rest : Text}
    (stops : StopsDigits rest) (noPoint : rest.head? ≠ some '.') :
    scanFraction (numeral.fractionPart ++ rest) = (numeral.fractionText, rest) ∧
      StopsDigits (numeral.fractionPart ++ rest) := by
  unfold fractionPart
  by_cases empty : numeral.fraction = []
  · rw [if_pos empty, List.nil_append, fractionText, empty, List.map_nil]
    refine ⟨?_, stops⟩
    unfold scanFraction
    split
    · exact absurd rfl noPoint
    · rfl
  · rw [if_neg empty, List.cons_append, scanFraction]
    refine ⟨scanDigits_append ?_ stops, stopsDigits_cons (by decide)⟩
    intro digit member
    obtain ⟨value, -, rfl⟩ := List.mem_map.mp member
    exact isDigit_digitChar value

theorem text_eq (numeral : Numeral) :
    numeral.text = (if numeral.negative then ['-'] else []) ++ Nat.toDigits 10 numeral.whole ++
      (numeral.fractionPart ++ numeral.exponentPart) := by
  simp only [text, fractionPart, exponentPart, List.append_assoc]

theorem head_exponentPart_ne_point (numeral : Numeral) {rest : Text} (stops : StopsNumber rest) :
    (numeral.exponentPart ++ rest).head? ≠ some '.' := by
  unfold exponentPart
  cases numeral.exponent with
  | none =>
    intro point
    exact (stops '.' point).2.1 rfl
  | some exponent => simp [exponentText]

/-- A scanner reads a numeral back. -/
theorem scanDecimal_text (takesMark : Bool) (numeral : Numeral) {rest : Text}
    (stops : StopsNumber rest) :
    scanDecimal takesMark (numeral.text ++ rest) =
      some (numeral.negative, numeral.magnitude, rest) := by
  obtain ⟨exponent, exponentStops⟩ := scanExponent_exponentPart takesMark numeral stops
  obtain ⟨fraction, fractionStops⟩ := scanFraction_fractionPart numeral exponentStops
    (head_exponentPart_ne_point numeral stops)
  have whole := scanDigits_append (@isDigit_toDigits numeral.whole) fractionStops
  have sign := @scanSign_signed numeral.negative _
    (numeral.fractionPart ++ (numeral.exponentPart ++ rest))
    (@isDigit_toDigits numeral.whole) Nat.toDigits_ne_nil
  have layout : numeral.text ++ rest =
      (if numeral.negative then ['-'] else []) ++ Nat.toDigits 10 numeral.whole ++
        (numeral.fractionPart ++ (numeral.exponentPart ++ rest)) := by
    simp only [text_eq, List.append_assoc]
  have nonempty : Nat.toDigits 10 numeral.whole ++ numeral.fractionText ≠ [] := by simp
  rw [scanDecimal, layout, sign]
  simp only [whole, fraction, if_neg nonempty, exponent]
  simp only [magnitude, fractionText, List.length_map]

theorem magnitude_nonneg (numeral : Numeral) : 0 ≤ numeral.magnitude := by
  unfold magnitude
  positivity

/-- The magnitude of a numeral in tenths. -/
theorem magnitude_tenths (value : ℕ) : (tenths value).magnitude = value / 10 := by
  have digits : Nat.ofDigitChars 10
      (Nat.toDigits 10 (value / 10) ++ [Nat.digitChar (value % 10)]) 0 = value := by
    rw [Nat.ofDigitChars_append, Nat.ofDigitChars_ten_toDigits,
      Nat.ofDigitChars_cons_digitChar_of_lt_ten (Nat.mod_lt _ (by decide)), Nat.ofDigitChars_nil]
    omega
  rw [magnitude, fractionText]
  show (Nat.ofDigitChars 10 (Nat.toDigits 10 (value / 10) ++ [Nat.digitChar (value % 10)]) 0 : ℚ) *
    10 ^ ((0 : ℤ) - (1 : ℕ)) = value / 10
  rw [digits]
  norm_num
  ring

end Numeral

/-! ### The numbers that printed texts denote -/

theorem stopsNumber_nil : StopsNumber [] := by
  intro character member
  cases member

theorem integerOf_printInteger (value : ℤ) : integerOf (printInteger value) = some value := by
  have scanned := scanInteger_print value stopsNumber_nil.stopsDigits
  rw [List.append_nil] at scanned
  rw [integerOf, scanned]

theorem printFixed_of_finite {format : Ieee.Format} {decimals bits : ℕ}
    (finite : format.magnitude bits < format.infinity) :
    printFixed format decimals bits = (if format.sign bits then ['-'] else []) ++
      printScaled decimals (scaledValue format decimals bits) := by
  rw [printFixed, if_neg finite.not_gt, if_neg finite.ne]
  rfl

theorem scanFraction_of_stops {rest : Text} (stops : StopsNumber rest) :
    scanFraction rest = ([], rest) := by
  unfold scanFraction
  split
  · exact absurd rfl (stops '.' rfl).2.1
  · rfl

/-- A scanner reads a fixed-point text back as the number printed. -/
theorem scanDecimal_printScaled (takesMark negative : Bool) (decimals scaled : ℕ) {rest : Text}
    (stops : StopsNumber rest) :
    scanDecimal takesMark
        ((if negative then ['-'] else []) ++ printScaled decimals scaled ++ rest) =
      some (negative, (scaled : ℚ) / 10 ^ decimals, rest) := by
  have sign (tail : Text) := @scanSign_signed negative _ tail
    (@isDigit_toDigits (scaled / 10 ^ decimals)) Nat.toDigits_ne_nil
  rw [printScaled, scanDecimal]
  by_cases places : decimals = 0
  · rw [if_pos places, List.append_nil, sign]
    simp only [scanDigits_append isDigit_toDigits stops.stopsDigits, scanFraction_of_stops stops,
      List.append_nil, if_neg Nat.toDigits_ne_nil, Numeral.scanExponent_of_stops takesMark stops,
      Nat.ofDigitChars_ten_toDigits]
    simp [places]
  · obtain ⟨tail, tail_eq⟩ : ∃ tail, tail = List.leftpad decimals '0'
        (Nat.toDigits 10 (scaled % 10 ^ decimals)) := ⟨_, rfl⟩
    have digits : ∀ digit ∈ tail, digit.isDigit = true := tail_eq ▸ Numeral.isDigit_leftpad _ _
    have width : tail.length = decimals := by
      have short := (Nat.length_toDigits_le_iff (b := 10) (by decide)
        (Nat.pos_of_ne_zero places)).mpr (Nat.mod_lt scaled (by positivity : 0 < 10 ^ decimals))
      rw [tail_eq, List.length_leftpad, max_eq_left short]
    have value : Nat.ofDigitChars 10 (Nat.toDigits 10 (scaled / 10 ^ decimals) ++ tail) 0 =
        scaled := by
      rw [Nat.ofDigitChars_append, Nat.ofDigitChars_ten_toDigits,
        Nat.ofDigitChars_eq_ofDigitChars_zero, width, tail_eq, Numeral.ofDigitChars_leftpad]
      exact Nat.div_add_mod scaled (10 ^ decimals)
    have whole := scanDigits_append (@isDigit_toDigits (scaled / 10 ^ decimals))
      (@stopsDigits_cons '.' (tail ++ rest) (by decide))
    have nonempty : Nat.toDigits 10 (scaled / 10 ^ decimals) ++ tail ≠ [] :=
      List.append_ne_nil_of_left_ne_nil Nat.toDigits_ne_nil _
    rw [if_neg places, ← tail_eq, ← List.append_assoc, List.append_assoc _ ('.' :: tail), sign]
    simp only [List.cons_append, whole, scanFraction, scanDigits_append digits stops.stopsDigits,
      if_neg nonempty, Numeral.scanExponent_of_stops takesMark stops, value, width]
    simp [div_eq_mul_inv]

theorem decimalOf_printFixed {format : Ieee.Format} (decimals : ℕ) {bits : ℕ}
    (finite : format.magnitude bits < format.infinity) :
    decimalOf (printFixed format decimals bits) =
      some (if format.sign bits then -((scaledValue format decimals bits : ℚ) / 10 ^ decimals)
        else (scaledValue format decimals bits : ℚ) / 10 ^ decimals) := by
  have scanned := scanDecimal_printScaled false (format.sign bits) decimals
    (scaledValue format decimals bits) stopsNumber_nil
  rw [List.append_nil] at scanned
  rw [decimalOf, printFixed_of_finite finite, scanned]

/-- The number printed is off by no more than half a unit of its last place. -/
theorem scaledValue_error (format : Ieee.Format) (decimals bits : ℕ) :
    |(scaledValue format decimals bits : ℚ) / 10 ^ decimals -
      format.magnitudeValue (format.magnitude bits)| ≤ 1 / 2 / 10 ^ decimals := by
  obtain ⟨value, value_eq⟩ : ∃ value, value = format.magnitudeValue (format.magnitude bits) :=
    ⟨_, rfl⟩
  have nonneg : 0 ≤ value := value_eq ▸ format.magnitudeValue_nonneg _
  have unit : (0 : ℚ) < 10 ^ decimals := by positivity
  have scaled : (scaledValue format decimals bits : ℚ) =
      Ieee.roundEven (value * 10 ^ decimals) := by
    rw [scaledValue, ← value_eq]
    exact_mod_cast Int.toNat_of_nonneg (Ieee.roundEven_nonneg (by positivity))
  have error := Ieee.roundEven_error (value * 10 ^ decimals)
  rw [← value_eq, scaled, le_div_iff₀ unit, ← abs_of_pos unit, ← abs_mul, sub_mul,
    abs_of_pos unit, div_mul_cancel₀ _ unit.ne']
  exact error

/-! ### The characters and the length of a printed number -/

theorem mem_printInteger {value : ℤ} {character : Char} (member : character ∈ printInteger value) :
    character = '-' ∨ character.isDigit = true := by
  rcases List.mem_append.mp member with sign | digit
  · split at sign
    · exact Or.inl (List.mem_singleton.mp sign)
    · cases sign
  · exact Or.inr (isDigit_toDigits character digit)

theorem printInteger_injective {first second : ℤ}
    (equal : printInteger first = printInteger second) : first = second := by
  have denoted := integerOf_printInteger first
  rw [equal, integerOf_printInteger, Option.some.injEq] at denoted
  exact denoted.symm

theorem length_printInteger_le {value : ℤ} {width : ℕ} (positive : 0 < width)
    (bound : value.natAbs < 10 ^ width) : (printInteger value).length ≤ width + 1 := by
  have digits := (Nat.length_toDigits_le_iff (b := 10) (by decide) positive).mpr bound
  rw [printInteger, List.length_append]
  split <;> simp <;> omega

theorem length_toDigits (value : ℕ) : (Nat.toDigits 10 value).length = Nat.log 10 value + 1 := by
  have positive : 0 < (Nat.toDigits 10 value).length := Nat.length_toDigits_pos
  have bound := (Nat.length_toDigits_le_iff (n := value) (b := 10) (by decide) positive).mp le_rfl
  refine le_antisymm ?_ ?_
  · exact (Nat.length_toDigits_le_iff (by decide) (Nat.succ_pos _)).mpr
      (Nat.lt_pow_succ_log_self (by decide) value)
  · rcases Nat.eq_zero_or_pos value with zero | valuePos
    · rw [zero]
      decide
    · exact Nat.log_lt_of_lt_pow valuePos.ne' bound

theorem length_printInteger (value : ℤ) : (printInteger value).length = integerWidth value := by
  rw [printInteger, List.length_append, length_toDigits, integerWidth]
  split <;> rfl

theorem length_printScaled (decimals scaled : ℕ) :
    (printScaled decimals scaled).length =
      Nat.log 10 (scaled / 10 ^ decimals) + 1 + if decimals = 0 then 0 else decimals + 1 := by
  rw [printScaled, List.length_append, length_toDigits]
  split
  · rfl
  · rename_i places
    have fraction : (Nat.toDigits 10 (scaled % 10 ^ decimals)).length ≤ decimals :=
      (Nat.length_toDigits_le_iff (by decide) (Nat.pos_of_ne_zero places)).mpr
        (Nat.mod_lt _ (by positivity))
    rw [List.length_cons, List.length_leftpad, max_eq_left fraction]

theorem length_printFixed {format : Ieee.Format} (decimals : ℕ) {bits : ℕ}
    (finite : format.magnitude bits < format.infinity) :
    (printFixed format decimals bits).length = fixedWidth format decimals bits := by
  rw [printFixed_of_finite finite, List.length_append, length_printScaled, fixedWidth, ← add_assoc]
  congr 2
  split <;> rfl

theorem mem_printScaled {decimals scaled : ℕ} {character : Char}
    (member : character ∈ printScaled decimals scaled) :
    character = '.' ∨ character.isDigit = true := by
  rcases List.mem_append.mp member with whole | fraction
  · exact Or.inr (isDigit_toDigits character whole)
  · split at fraction
    · cases fraction
    · rcases List.mem_cons.mp fraction with point | digit
      · exact Or.inl point
      · exact Or.inr (Numeral.isDigit_leftpad _ _ character digit)

theorem mem_printFixed {format : Ieee.Format} {decimals bits : ℕ} {character : Char}
    (member : character ∈ printFixed format decimals bits) :
    character ∈ ['-', '.', 'n', 'a', 'i', 'f'] ∨ character.isDigit = true := by
  rcases List.mem_append.mp member with sign | number
  · split at sign
    · rw [List.mem_singleton.mp sign]
      decide
    · cases sign
  · split_ifs at number
    · left
      simp only [List.mem_cons] at number ⊢
      tauto
    · left
      simp only [List.mem_cons] at number ⊢
      tauto
    · rcases mem_printScaled number with point | digit
      · rw [point]
        decide
      · exact Or.inr digit

/-- The whole part of a fixed-point text is no longer than that of the number's bound; the
fraction takes the point and its places. -/
theorem length_printFixed_le {format : Ieee.Format} {decimals bits width bound : ℕ}
    (positive : 3 ≤ width) (small : bound < 10 ^ width)
    (value : format.magnitude bits < format.infinity →
      format.magnitudeValue (format.magnitude bits) < bound) :
    (printFixed format decimals bits).length ≤ width + 2 + decimals := by
  have sign : (if format.sign bits then ['-'] else []).length ≤ 1 := by split <;> simp
  rw [printFixed, List.length_append]
  refine (Nat.add_le_add_right sign _).trans ?_
  split_ifs with nan infinite
  · simp only [List.length_cons, List.length_nil]
    omega
  · simp only [List.length_cons, List.length_nil]
    omega
  · have finite := value (lt_of_le_of_ne (not_lt.mp nan) infinite)
    have scaledLe : scaledValue format decimals bits ≤ bound * 10 ^ decimals := by
      have rounded := @Ieee.roundEven_le
        (format.magnitudeValue (format.magnitude bits) * 10 ^ decimals)
        (bound * 10 ^ decimals : ℕ) (by
          push_cast
          exact mul_lt_mul_of_pos_right finite (by positivity))
      exact Int.toNat_le.mpr rounded
    have whole : Nat.log 10 (scaledValue format decimals bits / 10 ^ decimals) + 1 ≤ width := by
      rw [← length_toDigits]
      refine (Nat.length_toDigits_le_iff (by decide) (by omega)).mpr (lt_of_le_of_lt ?_ small)
      exact Nat.div_le_of_le_mul (by rwa [mul_comm])
    have length := length_printScaled decimals (scaledValue format decimals bits)
    rw [scaledValue] at length whole
    rw [length]
    split <;> omega

end Decimal
