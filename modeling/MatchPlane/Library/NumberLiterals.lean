import MatchPlane.Library.NumberTexts

/-!
# Literals of numbers

The numbers of a JSON text as they are written: a sign, digits without a leading zero, and
perhaps a fraction and an exponent.  A literal denotes a fraction exactly.
-/

namespace MatchPlane.Library

def isDecimalDigit (unit : UInt16) : Bool := 48 ≤ unit.toNat ∧ unit.toNat ≤ 57

@[ext] structure Digits where
  units : CodeUnits
  valid : ∀ unit ∈ units, isDecimalDigit unit = true
  deriving DecidableEq

/-- The digits after a point; without digits there is no point. -/
def Digits.pointed (digits : Digits) : CodeUnits :=
  if digits.units = [] then [] else 46 :: digits.units

/-- The digits before the point. -/
@[ext] structure IntegerPart extends Digits where
  nonempty : units ≠ []
  /-- A zero at the start stands alone. -/
  leading : units.head? = some 48 → units = [48]
  deriving DecidableEq

structure Exponent where
  mark : UInt16
  isMark : mark = 101 ∨ mark = 69
  sign : CodeUnits
  isSign : sign = [] ∨ sign = [43] ∨ sign = [45]
  digits : Digits
  nonempty : digits.units ≠ []
  deriving DecidableEq

/-- `-?(?:0|[1-9]\d*)(?:\.\d+)?(?:[eE][+-]?\d+)?`; a fraction that is left out has no digits. -/
structure NumberLiteral where
  negative : Bool
  integer : IntegerPart
  fraction : Digits
  exponent : Option Exponent
  deriving DecidableEq

namespace Exponent

/-- What comes after the mark. -/
def number (exponent : Exponent) : CodeUnits := exponent.sign ++ exponent.digits.units

def text (exponent : Exponent) : CodeUnits := exponent.mark :: exponent.number

def value (exponent : Exponent) : Int :=
  if exponent.sign = [45] then -(numberOfUnits exponent.digits.units : Int)
  else numberOfUnits exponent.digits.units

end Exponent

namespace NumberLiteral

variable (literal : NumberLiteral)

def signText : CodeUnits := if literal.negative then [45] else []

def exponentText : CodeUnits := (literal.exponent.map Exponent.text).getD []

def text : CodeUnits :=
  literal.signText ++ (literal.integer.units ++ (literal.fraction.pointed ++ literal.exponentText))

/-- All the digits before the exponent. -/
def digits : CodeUnits := literal.integer.units ++ literal.fraction.units

def exponentValue : Int := (literal.exponent.map Exponent.value).getD 0

/-- The number that a literal denotes. -/
def value : Rat :=
  (if literal.negative then -1 else 1) * (numberOfUnits literal.digits : Rat) *
    10 ^ (literal.exponentValue - literal.fraction.units.length)

end NumberLiteral

/-! ## Scanning -/

def takeDigits (text : CodeUnits) : Digits × CodeUnits :=
  (⟨text.takeWhile isDecimalDigit, fun _ => List.mem_takeWhile_imp⟩,
    text.dropWhile isDecimalDigit)

def IntegerPart.zero : IntegerPart where
  units := [48]
  valid := by simp [isDecimalDigit]
  nonempty := List.cons_ne_nil _ _
  leading _ := rfl

theorem takeDigits_leading {text : CodeUnits} (h : text.head? ≠ some 48) :
    (takeDigits text).1.units.head? ≠ some 48 := by
  cases text with
  | nil => simp [takeDigits]
  | cons unit rest =>
      have hne : unit ≠ 48 := by simpa using h
      change ((unit :: rest).takeWhile isDecimalDigit).head? ≠ some 48
      rw [List.takeWhile_cons]
      split <;> simp [hne]

def scanInteger (text : CodeUnits) : Option (IntegerPart × CodeUnits) :=
  if hzero : text.head? = some 48 then some (.zero, text.tail)
  else if hempty : (takeDigits text).1.units = [] then none
  else some (⟨(takeDigits text).1, hempty, fun hhead =>
    absurd hhead (takeDigits_leading hzero)⟩, (takeDigits text).2)

/-- A point counts only with a digit after it. -/
def scanFraction (text : CodeUnits) : Digits × CodeUnits :=
  if text.head? = some 46 ∧ (takeDigits text.tail).1.units ≠ [] then takeDigits text.tail
  else (⟨[], by simp⟩, text)

def scanSign (text : CodeUnits) : CodeUnits :=
  if text.head? = some 43 then [43] else if text.head? = some 45 then [45] else []

theorem scanSign_isSign (text : CodeUnits) :
    scanSign text = [] ∨ scanSign text = [43] ∨ scanSign text = [45] := by
  unfold scanSign
  split
  · simp
  · split <;> simp

def scanExponent (text : CodeUnits) : Option Exponent × CodeUnits :=
  match text with
  | [] => (none, [])
  | mark :: rest =>
      let sign := scanSign rest
      let digits := takeDigits (rest.drop sign.length)
      if h : (mark = 101 ∨ mark = 69) ∧ digits.1.units ≠ [] then
        (some ⟨mark, h.1, sign, scanSign_isSign rest, digits.1, h.2⟩, digits.2)
      else (none, mark :: rest)

/-- The longest literal at the start of a text, and what comes after it. -/
def scanNumber (text : CodeUnits) : Option (NumberLiteral × CodeUnits) :=
  let negative : Bool := text.head? = some 45
  match scanInteger (if negative then text.tail else text) with
  | none => none
  | some (integer, rest) =>
      let fraction := scanFraction rest
      let exponent := scanExponent fraction.2
      some (⟨negative, integer, fraction.1, exponent.1⟩, exponent.2)

/-- A text that is one literal. -/
def readLiteral (text : CodeUnits) : Option NumberLiteral :=
  match scanNumber text with
  | some (literal, []) => some literal
  | _ => none

/-! ## A scan splits its text -/

theorem takeDigits_split (text : CodeUnits) :
    (takeDigits text).1.units ++ (takeDigits text).2 = text :=
  List.takeWhile_append_dropWhile

theorem cons_tail_of_head {text : CodeUnits} {unit : UInt16} (h : text.head? = some unit) :
    unit :: text.tail = text := by
  cases text with
  | nil => cases h
  | cons first rest =>
      obtain rfl : first = unit := by simpa using h
      rfl

theorem scanInteger_split {text rest : CodeUnits} {integer : IntegerPart}
    (h : scanInteger text = some (integer, rest)) : integer.units ++ rest = text := by
  unfold scanInteger at h
  split at h
  · rename_i hzero
    cases h
    exact cons_tail_of_head hzero
  · split at h
    · cases h
    · cases h
      exact takeDigits_split text

theorem scanFraction_split (text : CodeUnits) :
    (scanFraction text).1.pointed ++ (scanFraction text).2 = text := by
  unfold scanFraction
  split
  · rename_i h
    rw [Digits.pointed, if_neg h.2, List.cons_append, takeDigits_split]
    exact cons_tail_of_head h.1
  · simp [Digits.pointed]

theorem scanSign_split (text : CodeUnits) :
    scanSign text ++ text.drop (scanSign text).length = text := by
  unfold scanSign
  split
  · rename_i h
    simpa using cons_tail_of_head h
  · split
    · rename_i h
      simpa using cons_tail_of_head h
    · simp

theorem scanExponent_split (text : CodeUnits) :
    (((scanExponent text).1.map Exponent.text).getD []) ++ (scanExponent text).2 = text := by
  cases text with
  | nil => rfl
  | cons mark rest =>
      rw [scanExponent]
      split
      · have hsign := scanSign_split rest
        have hdigits := takeDigits_split (rest.drop (scanSign rest).length)
        simp only [Option.map_some, Option.getD_some, Exponent.text, Exponent.number]
        rw [List.cons_append, List.append_assoc, hdigits, hsign]
      · rfl

theorem scanNumber_split {text rest : CodeUnits} {literal : NumberLiteral}
    (h : scanNumber text = some (literal, rest)) : literal.text ++ rest = text := by
  unfold scanNumber at h
  dsimp only at h
  split at h
  · cases h
  · rename_i integer rest' hinteger
    have hsplit := scanInteger_split hinteger
    have hfraction := scanFraction_split rest'
    have hexponent := scanExponent_split (scanFraction rest').2
    cases h
    simp only [NumberLiteral.text, NumberLiteral.signText, NumberLiteral.exponentText,
      List.append_assoc]
    rw [hexponent, hfraction, hsplit]
    by_cases hnegative : text.head? = some 45
    · simpa [hnegative] using cons_tail_of_head hnegative
    · simp [hnegative]

theorem readLiteral_text {text : CodeUnits} {literal : NumberLiteral}
    (h : readLiteral text = some literal) : literal.text = text := by
  unfold readLiteral at h
  split at h
  · rename_i scanned hscan
    cases h
    simpa using scanNumber_split hscan
  · cases h

/-! ## Every literal is scanned -/

theorem delimited_digit {rest : CodeUnits} (h : Delimited rest) :
    ∀ unit ∈ rest.head?, isDecimalDigit unit = false := by
  intro unit hunit
  have hother := h unit hunit
  simp only [isNumberUnit, decide_eq_false_iff_not, not_or] at hother
  simpa [isDecimalDigit] using hother.1

theorem takeDigits_append (digits : Digits) {rest : CodeUnits}
    (h : ∀ unit ∈ rest.head?, isDecimalDigit unit = false) :
    takeDigits (digits.units ++ rest) = (digits, rest) := by
  have hnone : rest.takeWhile isDecimalDigit = [] := by
    cases rest with
    | nil => rfl
    | cons unit rest => simp [h unit rfl]
  have htake : (digits.units ++ rest).takeWhile isDecimalDigit = digits.units := by
    rw [List.takeWhile_append_of_pos digits.valid, hnone, List.append_nil]
  have hsplit := takeDigits_split (digits.units ++ rest)
  have hfirst : (takeDigits (digits.units ++ rest)).1 = digits := Digits.ext htake
  rw [hfirst] at hsplit
  exact Prod.ext hfirst (List.append_cancel_left hsplit)

theorem scanInteger_append (integer : IntegerPart) {rest : CodeUnits}
    (h : ∀ unit ∈ rest.head?, isDecimalDigit unit = false) :
    scanInteger (integer.units ++ rest) = some (integer, rest) := by
  have hhead : (integer.units ++ rest).head? = integer.units.head? := by
    cases hunits : integer.units with
    | nil => exact absurd hunits integer.nonempty
    | cons unit units => rfl
  by_cases hzero : integer.units.head? = some 48
  · have hunits := integer.leading hzero
    have hinteger : integer = .zero := IntegerPart.ext hunits
    rw [scanInteger, dif_pos (hhead.trans hzero), hinteger]
    rfl
  · have htake := takeDigits_append integer.toDigits h
    simp [scanInteger, hhead, hzero, htake, integer.nonempty]

theorem scanFraction_append (fraction : Digits) {rest : CodeUnits}
    (h : ∀ unit ∈ rest.head?, isDecimalDigit unit = false) (hpoint : rest.head? ≠ some 46) :
    scanFraction (fraction.pointed ++ rest) = (fraction, rest) := by
  by_cases hempty : fraction.units = []
  · have hfraction : fraction = ⟨[], by simp⟩ := Digits.ext hempty
    simp [scanFraction, Digits.pointed, hpoint, hfraction]
  · have htake := takeDigits_append fraction h
    simp [scanFraction, Digits.pointed, hempty, htake]

/-- A digit is no sign. -/
theorem scanSign_append (exponent : Exponent) (rest : CodeUnits) :
    scanSign (exponent.number ++ rest) = exponent.sign := by
  rcases exponent.isSign with hsign | hsign | hsign
  · cases hdigits : exponent.digits.units with
    | nil => exact absurd hdigits exponent.nonempty
    | cons unit units =>
        have hdigit := exponent.digits.valid unit (by simp [hdigits])
        have hplus : unit ≠ 43 := by
          rintro rfl
          simp [isDecimalDigit] at hdigit
        have hminus : unit ≠ 45 := by
          rintro rfl
          simp [isDecimalDigit] at hdigit
        simp [scanSign, Exponent.number, hsign, hdigits, hplus, hminus]
  · simp [scanSign, Exponent.number, hsign]
  · simp [scanSign, Exponent.number, hsign]

theorem scanExponent_append (exponent : Option Exponent) {rest : CodeUnits} (h : Delimited rest) :
    scanExponent (((exponent.map Exponent.text).getD []) ++ rest) = (exponent, rest) := by
  cases exponent with
  | none =>
      cases rest with
      | nil => rfl
      | cons unit rest =>
          have hother := h unit rfl
          have hmark : ¬(unit = 101 ∨ unit = 69) := by
            rintro (rfl | rfl) <;> simp [isNumberUnit] at hother
          simp [scanExponent, hmark]
  | some exponent =>
      have hsign := scanSign_append exponent rest
      have hdrop : (exponent.number ++ rest).drop exponent.sign.length =
          exponent.digits.units ++ rest := by simp [Exponent.number]
      have htake := takeDigits_append exponent.digits (delimited_digit h)
      simp [scanExponent, Exponent.text, hsign, hdrop, htake, exponent.isMark, exponent.nonempty]

/-- An exponent starts with its mark, and what is no number has no point. -/
theorem exponentText_head (literal : NumberLiteral) {rest : CodeUnits} (h : Delimited rest) :
    ∀ unit ∈ (literal.exponentText ++ rest).head?,
      isDecimalDigit unit = false ∧ unit ≠ 46 := by
  intro unit hunit
  cases hexponent : literal.exponent with
  | none =>
      have hrest : unit ∈ rest.head? := by simpa [NumberLiteral.exponentText, hexponent] using hunit
      refine ⟨delimited_digit h unit hrest, ?_⟩
      rintro rfl
      exact absurd (h 46 hrest) (by simp [isNumberUnit])
  | some exponent =>
      have hmark : exponent.mark = unit := by
        simpa [NumberLiteral.exponentText, hexponent, Exponent.text] using hunit
      rcases exponent.isMark with hletter | hletter <;>
        simp [← hmark, hletter, isDecimalDigit]

theorem scanNumber_append (literal : NumberLiteral) {rest : CodeUnits} (h : Delimited rest) :
    scanNumber (literal.text ++ rest) = some (literal, rest) := by
  have hend := exponentText_head literal h
  have hfraction := scanFraction_append literal.fraction (fun unit hunit => (hend unit hunit).1)
    (fun hpoint => (hend 46 hpoint).2 rfl)
  have hexponent := scanExponent_append literal.exponent h
  have hpointed : ∀ unit ∈ (literal.fraction.pointed ++ (literal.exponentText ++ rest)).head?,
      isDecimalDigit unit = false := by
    intro unit hunit
    by_cases hempty : literal.fraction.units = []
    · exact (hend unit (by simpa [Digits.pointed, hempty] using hunit)).1
    · have hpoint : (46 : UInt16) = unit := by simpa [Digits.pointed, hempty] using hunit
      rw [← hpoint]
      simp [isDecimalDigit]
  have hinteger := scanInteger_append literal.integer hpointed
  have hnegative : (literal.text ++ rest).head? = some 45 ↔ literal.negative = true := by
    cases hsign : literal.negative with
    | true => simp [NumberLiteral.text, NumberLiteral.signText, hsign]
    | false =>
        cases hunits : literal.integer.units with
        | nil => exact absurd hunits literal.integer.nonempty
        | cons unit units =>
            have hdigit := literal.integer.valid unit (by simp [hunits])
            have hminus : unit ≠ 45 := by
              rintro rfl
              simp [isDecimalDigit] at hdigit
            simp [NumberLiteral.text, NumberLiteral.signText, hsign, hunits, hminus]
  have hbody : (if literal.negative then (literal.text ++ rest).tail else literal.text ++ rest) =
      literal.integer.units ++ (literal.fraction.pointed ++ (literal.exponentText ++ rest)) := by
    cases hsign : literal.negative <;>
      simp [NumberLiteral.text, NumberLiteral.signText, hsign]
  simp only [scanNumber, hnegative, Bool.decide_eq_true, hbody, hinteger]
  rw [hfraction]
  dsimp only
  rw [NumberLiteral.exponentText, hexponent]

theorem readLiteral_of_text (literal : NumberLiteral) :
    readLiteral literal.text = some literal := by
  have hscan := scanNumber_append literal delimited_nil
  rw [List.append_nil] at hscan
  rw [readLiteral, hscan]

/-! ## Digits denote numbers -/

section Denoted

variable {digits first second : CodeUnits}

theorem isDecimalDigit_iff {unit : UInt16} :
    isDecimalDigit unit = true ↔ 48 ≤ unit.toNat ∧ unit.toNat ≤ 57 := by
  simp [isDecimalDigit]

/-- The character of a digit. -/
def digitChar (unit : UInt16) : Char := Char.ofNat unit.toNat

theorem digitChar_toNat {unit : UInt16} (h : isDecimalDigit unit = true) :
    (digitChar unit).toNat = unit.toNat := by
  have hbounds := isDecimalDigit_iff.mp h
  rw [digitChar, Char.toNat_ofNat, if_pos (.inl (by omega))]

theorem isDigit_digitChar {unit : UInt16} (h : isDecimalDigit unit = true) :
    (digitChar unit).isDigit = true := by
  rw [isDigit_iff_bounds, digitChar_toNat h]
  exact isDecimalDigit_iff.mp h

theorem isDigit_of_mem (h : ∀ unit ∈ digits, isDecimalDigit unit = true) :
    ∀ char ∈ digits.map digitChar, char.isDigit = true := by
  intro char hchar
  obtain ⟨unit, hunit, rfl⟩ := List.mem_map.mp hchar
  exact isDigit_digitChar (h unit hunit)

theorem numberOfUnits_append (first second : CodeUnits) :
    numberOfUnits (first ++ second) =
      10 ^ second.length * numberOfUnits first + numberOfUnits second := by
  simp only [numberOfUnits, List.map_append]
  rw [Nat.ofDigitChars_append, Nat.ofDigitChars_eq_ofDigitChars_zero, List.length_map]

theorem numberOfUnits_nil : numberOfUnits [] = 0 := rfl

theorem numberOfUnits_zeros (count : Nat) : numberOfUnits (List.replicate count 48) = 0 := by
  have hzero : Char.ofNat (48 : UInt16).toNat = '0' := rfl
  rw [numberOfUnits, List.map_replicate, hzero, Nat.ofDigitChars_replicate_zero, mul_zero]

theorem numberOfUnits_lt (h : ∀ unit ∈ digits, isDecimalDigit unit = true) :
    numberOfUnits digits < 10 ^ digits.length := by
  have hlt := ofDigitChars_lt (isDigit_of_mem h)
  rwa [List.length_map] at hlt

theorem digitChar_lt_iff {unit other : UInt16} (hunit : isDecimalDigit unit = true)
    (hother : isDecimalDigit other = true) : digitChar unit < digitChar other ↔ unit < other := by
  rw [char_lt_iff, digitChar_toNat hunit, digitChar_toNat hother, UInt16.lt_iff_toNat_lt]

theorem digitChar_inj {unit other : UInt16} (hunit : isDecimalDigit unit = true)
    (hother : isDecimalDigit other = true) : digitChar unit = digitChar other ↔ unit = other := by
  rw [← Char.toNat_inj, digitChar_toNat hunit, digitChar_toNat hother, UInt16.toNat_inj]

theorem map_digitChar_lt_iff (hfirst : ∀ unit ∈ first, isDecimalDigit unit = true)
    (hsecond : ∀ unit ∈ second, isDecimalDigit unit = true) :
    first.map digitChar < second.map digitChar ↔ first < second := by
  induction first generalizing second with
  | nil => cases second <;> simp
  | cons unit first ih =>
      cases second with
      | nil => simp
      | cons other second =>
          rw [List.forall_mem_cons] at hfirst hsecond
          rw [List.map_cons, List.map_cons, List.cons_lt_cons_iff, List.cons_lt_cons_iff,
            digitChar_lt_iff hfirst.1 hsecond.1, digitChar_inj hfirst.1 hsecond.1,
            ih hfirst.2 hsecond.2]

/-- Digits of one length are in the order of the numbers they denote. -/
theorem numberOfUnits_lt_iff (hfirst : ∀ unit ∈ first, isDecimalDigit unit = true)
    (hsecond : ∀ unit ∈ second, isDecimalDigit unit = true)
    (hlength : first.length = second.length) :
    numberOfUnits first < numberOfUnits second ↔ first < second := by
  rw [← map_digitChar_lt_iff hfirst hsecond]
  exact ofDigitChars_lt_iff (isDigit_of_mem hfirst) (isDigit_of_mem hsecond) (by simpa)

theorem eq_of_map_digitChar (hfirst : ∀ unit ∈ first, isDecimalDigit unit = true)
    (hsecond : ∀ unit ∈ second, isDecimalDigit unit = true)
    (h : first.map digitChar = second.map digitChar) : first = second := by
  induction first generalizing second with
  | nil => simpa using h.symm
  | cons unit first ih =>
      cases second with
      | nil => cases h
      | cons other second =>
          rw [List.forall_mem_cons] at hfirst hsecond
          obtain ⟨hunit, hrest⟩ := List.cons_eq_cons.mp h
          rw [(digitChar_inj hfirst.1 hsecond.1).mp hunit, ih hfirst.2 hsecond.2 hrest]

theorem numberOfUnits_inj (hfirst : ∀ unit ∈ first, isDecimalDigit unit = true)
    (hsecond : ∀ unit ∈ second, isDecimalDigit unit = true)
    (hlength : first.length = second.length) :
    numberOfUnits first = numberOfUnits second ↔ first = second := by
  refine ⟨fun hvalue => ?_, congrArg numberOfUnits⟩
  exact eq_of_map_digitChar hfirst hsecond (eq_of_ofDigitChars (isDigit_of_mem hfirst)
    (isDigit_of_mem hsecond) (by simpa) hvalue)

theorem numberOfUnits_cons (unit : UInt16) (rest : CodeUnits) :
    numberOfUnits (unit :: rest) =
      10 ^ rest.length * ((digitChar unit).toNat - 48) + numberOfUnits rest := by
  have hleading := ofDigitChars_leading (digitChar unit) (rest.map digitChar)
  rwa [List.length_map] at hleading

/-- A digit in front that is not zero makes a number large. -/
theorem pow_le_numberOfUnits {unit : UInt16} (rest : CodeUnits)
    (hdigit : isDecimalDigit unit = true) (hzero : unit ≠ 48) :
    10 ^ rest.length ≤ numberOfUnits (unit :: rest) := by
  have hbounds := isDecimalDigit_iff.mp hdigit
  have hne : unit.toNat ≠ 48 := fun hsame => hzero (UInt16.toNat_inj.mp hsame)
  have hscaled : 10 ^ rest.length * 1 ≤ 10 ^ rest.length * (unit.toNat - 48) :=
    Nat.mul_le_mul_left _ (by omega)
  rw [numberOfUnits_cons, digitChar_toNat hdigit]
  omega

theorem numberOfUnits_pos_iff (h : ∀ unit ∈ digits, isDecimalDigit unit = true) :
    0 < numberOfUnits digits ↔ ∃ unit ∈ digits, unit ≠ 48 := by
  induction digits with
  | nil => simp [numberOfUnits_nil]
  | cons unit rest ih =>
      rw [List.forall_mem_cons] at h
      by_cases hzero : unit = 48
      · have hcons : numberOfUnits (unit :: rest) = numberOfUnits rest := by
          rw [numberOfUnits_cons, digitChar_toNat h.1, hzero]
          simp
        rw [hcons, ih h.2, hzero]
        simp
      · have hpow := pow_le_numberOfUnits rest h.1 hzero
        have hpos : 0 < 10 ^ rest.length := by positivity
        simp only [List.mem_cons, exists_eq_or_imp, ne_eq, hzero, not_false_eq_true, true_or,
          iff_true]
        omega

end Denoted

end MatchPlane.Library
