import MatchPlane.Domain.JavaScript
import MatchPlane.Library.JsonText

/-!
# Amounts in the web client

The web client formats a stored amount by slicing its padded digits, and reads what a user
enters back into digits.  Neither of them divides.
-/

namespace MatchPlane.WebMoney

open MatchPlane.Library

def maxCurrencyScale : Nat := 18

def maxMinorUnitDigits : Nat := 38

def maxAmountTextLength : Nat := 128

/-- What the client reads of a payment. -/
structure PaymentAdminRecord where
  capturedAmount : String
  refundedAmount : String
  currencyScale : JsNumber
  deriving DecidableEq

def isValidCurrencyScale : JsNumber → Bool
  | .finite value => value.isInt && decide (0 ≤ value) && decide (value ≤ maxCurrencyScale)
  | .negativeZero => true
  | _ => false

/-- A valid scale as a count of digits. -/
def digitsOfScale : JsNumber → Nat
  | .finite value => value.num.toNat
  | _ => 0

/-! ## Reading -/

/-- `/^(\d+)(?:\.(\d+))?$/`: the digits before the dot and those after it, if there are any. -/
def matchAmount (text : List Char) : Option (List Char × Option (List Char)) :=
  let (whole, rest) := text.span Char.isDigit
  if whole.isEmpty then none
  else
    match rest with
    | [] => some (whole, none)
    | char :: fraction =>
      if char = '.' ∧ fraction ≠ [] ∧ fraction.all Char.isDigit then some (whole, some fraction)
      else none

/-- `replace(/^0+(?=\d)/, "")`. -/
def stripZeros : List Char → List Char
  | '0' :: char :: rest => if char.isDigit then stripZeros (char :: rest) else '0' :: char :: rest
  | chars => chars

def parseMinorUnitDigits (value : List Char) : Option Int :=
  let normalized := stripZeros value
  if normalized.length = 0 ∨ maxMinorUnitDigits < normalized.length then none
  else some (Nat.ofDigitChars 10 normalized 0)

def parseMoneyMinorUnits (value : String) (currencyScale : JsNumber) : Option Int :=
  if !isValidCurrencyScale currencyScale then none
  else
    let text := JavaScript.trim value
    if JavaScript.length text = 0 ∨ maxAmountTextLength < JavaScript.length text then none
    else
      match matchAmount text.toList with
      | none => none
      | some (whole, found) =>
        let fraction := found.getD []
        let scale := digitsOfScale currencyScale
        if scale < fraction.length then none
        else parseMinorUnitDigits
          (whole ++ (fraction ++ List.replicate (scale - fraction.length) '0'))

def parseStoredMinorUnits (value : String) : Option Int :=
  let text := (JavaScript.trim value).toList
  if text.isEmpty ∨ !text.all Char.isDigit then none else parseMinorUnitDigits text

/-! ## Formatting -/

/-- `padStart` with zeros. -/
def padStart (digits : List Char) (width : Nat) : List Char :=
  List.replicate (width - digits.length) '0' ++ digits

def formatMoneyMinorUnits (value : Int) (currencyScale : JsNumber) : String :=
  let scale := digitsOfScale currencyScale
  if scale = 0 then toString value
  else
    let digits := padStart (toString value).toList (scale + 1)
    String.ofList (digits.take (digits.length - scale)) ++ "." ++
      String.ofList (digits.drop (digits.length - scale))

def formatStoredMoneyAmount (value : String) (currencyScale : JsNumber) : Option String :=
  if !isValidCurrencyScale currencyScale then none
  else (parseStoredMinorUnits value).map fun minorUnits =>
    formatMoneyMinorUnits minorUnits currencyScale

/-! ## Refunds -/

def remainingRefundMinorUnits (payment : PaymentAdminRecord) : Option Int :=
  if !isValidCurrencyScale payment.currencyScale then none
  else
    match parseStoredMinorUnits payment.capturedAmount,
        parseStoredMinorUnits payment.refundedAmount with
    | some captured, some refunded =>
      if captured < refunded then none else some (captured - refunded)
    | _, _ => none

def refundAmountMinorUnits (payment : PaymentAdminRecord) (amount : String) : Option String :=
  match parseMoneyMinorUnits amount payment.currencyScale, remainingRefundMinorUnits payment with
  | some requested, some remaining =>
    if 0 < requested ∧ requested ≤ remaining then some (toString requested) else none
  | _, _ => none

/-! ## What is read -/

section Reading

variable {digits text whole : List Char} {found : Option (List Char)} {amount : Int}

/-- Leading zeros count nothing, and one digit always stays. -/
theorem stripZeros_spec (hdigits : ∀ char ∈ digits, char.isDigit = true) (hne : digits ≠ []) :
    (∀ char ∈ stripZeros digits, char.isDigit = true) ∧ stripZeros digits ≠ [] ∧
      Nat.ofDigitChars 10 (stripZeros digits) 0 = Nat.ofDigitChars 10 digits 0 ∧
      ((stripZeros digits).head? ≠ some '0' ∨ stripZeros digits = ['0']) := by
  fun_induction stripZeros digits with
  | case1 char rest hchar ih =>
      obtain ⟨hrest, hstays, hvalue, hhead⟩ :=
        ih (fun other hother => hdigits other (List.mem_cons_of_mem _ hother)) (by simp)
      refine ⟨hrest, hstays, ?_, hhead⟩
      rw [hvalue, Nat.ofDigitChars_cons]
      rfl
  | case2 char rest hchar =>
      exact absurd (hdigits char (by simp)) hchar
  | case3 digits hshape =>
      refine ⟨hdigits, hne, rfl, ?_⟩
      cases digits with
      | nil => exact absurd rfl hne
      | cons char rest =>
          by_cases hzero : char = '0'
          · cases rest with
            | nil => simp [hzero]
            | cons other rest => exact (hshape other rest (by rw [hzero])).elim
          · simp [hzero]

theorem parseMinorUnitDigits_iff (hdigits : ∀ char ∈ digits, char.isDigit = true)
    (hne : digits ≠ []) : parseMinorUnitDigits digits = some amount ↔
      amount = Nat.ofDigitChars 10 digits 0 ∧ Nat.ofDigitChars 10 digits 0 < 10 ^ 38 := by
  obtain ⟨hstripped, hstays, hvalue, hhead⟩ := stripZeros_spec hdigits hne
  have hlength : (stripZeros digits).length ≤ 38 ↔ Nat.ofDigitChars 10 digits 0 < 10 ^ 38 := by
    constructor
    · intro hshort
      rw [← hvalue]
      exact (ofDigitChars_lt hstripped).trans_le (Nat.pow_le_pow_right (by omega) hshort)
    · intro hsmall
      rcases hhead with hhead | hzero
      · have hpow := (IsNumeral.mk hstripped hstays hhead).pow_le
        rw [hvalue] at hpow
        have hexponent := (Nat.pow_lt_pow_iff_right (by omega)).mp (hpow.trans_lt hsmall)
        omega
      · simp [hzero]
  have hlong : (stripZeros digits).length ≠ 0 := by simpa using hstays
  rw [← hlength]
  simp only [parseMinorUnitDigits, maxMinorUnitDigits, hlong, false_or, hvalue]
  by_cases hshort : (stripZeros digits).length ≤ 38
  · simp [hshort, Nat.not_lt.mpr hshort, eq_comm]
  · simp [hshort, Nat.not_le.mp hshort]

theorem span_digits (rest : List Char) (hwhole : ∀ char ∈ whole, char.isDigit = true)
    (hrest : ∀ char, rest.head? = some char → char.isDigit = false) :
    (whole ++ rest).span Char.isDigit = (whole, rest) := by
  rw [List.span_eq_takeWhile_dropWhile, List.takeWhile_append_of_pos hwhole,
    List.dropWhile_append_of_pos hwhole]
  cases rest with
  | nil => simp
  | cons char rest => simp [hrest char rfl]

/-- What matches has digits, and at most one dot between them. -/
theorem matchAmount_iff : matchAmount text = some (whole, found) ↔
    (whole ≠ [] ∧ ∀ char ∈ whole, char.isDigit = true) ∧
      ((found = none ∧ text = whole) ∨ ∃ fraction, found = some fraction ∧ fraction ≠ [] ∧
        (∀ char ∈ fraction, char.isDigit = true) ∧ text = whole ++ '.' :: fraction) := by
  constructor
  · intro h
    have htext := List.takeWhile_append_dropWhile (p := Char.isDigit) (l := text)
    have hdigits : ∀ char ∈ text.takeWhile Char.isDigit, char.isDigit = true :=
      fun char hchar => List.mem_takeWhile_imp hchar
    simp only [matchAmount, List.span_eq_takeWhile_dropWhile] at h
    split at h
    · cases h
    · next hwhole =>
      split at h
      · next hrest =>
        cases h
        rw [hrest, List.append_nil] at htext
        exact ⟨⟨by simpa using hwhole, hdigits⟩, .inl ⟨rfl, htext.symm⟩⟩
      · next char fraction hrest =>
        split at h
        · next hfraction =>
          obtain ⟨rfl, hne, hall⟩ := hfraction
          cases h
          rw [hrest] at htext
          exact ⟨⟨by simpa using hwhole, hdigits⟩,
            .inr ⟨fraction, rfl, hne, by simpa using hall, htext.symm⟩⟩
        · cases h
  · rintro ⟨⟨hne, hwhole⟩, ⟨rfl, rfl⟩ | ⟨fraction, rfl, hfraction, hall, rfl⟩⟩
    · have hspan := span_digits [] hwhole (by simp)
      rw [List.append_nil] at hspan
      rw [matchAmount, hspan]
      simp [hne]
    · have hspan := span_digits ('.' :: fraction) hwhole (by simp)
      rw [matchAmount, hspan]
      simpa [hne, hfraction] using hall

end Reading

theorem isBlank_of_isDigit {char : Char} (h : char.isDigit = true) :
    JavaScript.isBlank char = false := by
  have hbounds := isDigit_iff_bounds.mp h
  simp only [JavaScript.isBlank, not_isWhitespace_of_isDigit h, Bool.false_eq_true, false_and,
    false_or, decide_eq_false_iff_not]
  omega

section Scales

variable {scale : Nat}

@[simp] theorem isValidCurrencyScale_iff :
    isValidCurrencyScale (.finite scale) = true ↔ scale ≤ 18 := by
  simp [isValidCurrencyScale, maxCurrencyScale, Rat.isInt]

@[simp] theorem digitsOfScale_natCast : digitsOfScale (.finite scale) = scale := by
  simp [digitsOfScale]

end Scales

section Amounts

variable {value : String} {scale : Nat} {amount : Int}

/-- What is read are the digits of the trimmed text, filled up to the scale. -/
theorem parseMoneyMinorUnits_digits
    (h : parseMoneyMinorUnits value (.finite scale) = some amount) : scale ≤ 18 ∧
      ∃ whole fraction, IsDecimal (JavaScript.trim value) whole fraction ∧
        fraction.length ≤ scale ∧
        amount = Nat.ofDigitChars 10
          (whole ++ fraction ++ List.replicate (scale - fraction.length) '0') 0 ∧
        amount < 10 ^ 38 := by
  unfold parseMoneyMinorUnits at h
  split at h
  · cases h
  · next hscale =>
    have hscale : scale ≤ 18 := by simpa using hscale
    refine ⟨hscale, ?_⟩
    dsimp only at h
    split at h
    · cases h
    · split at h
      · cases h
      · next whole found hmatch =>
        obtain ⟨⟨hne, hwhole⟩, hfound⟩ := matchAmount_iff.mp hmatch
        have hdecimal : IsDecimal (JavaScript.trim value) whole (found.getD []) := by
          rcases hfound with ⟨rfl, htext⟩ | ⟨fraction, rfl, -, hfraction, htext⟩
          · exact ⟨.inr ⟨htext, rfl⟩, hne, hwhole, by simp⟩
          · exact ⟨.inl htext, hne, hwhole, hfraction⟩
        rw [digitsOfScale_natCast] at h
        split at h
        · cases h
        · next hlength =>
          rw [← List.append_assoc] at h
          have hdigits := hdecimal.isDigit_filled (scale - (found.getD []).length)
          obtain ⟨rfl, hsmall⟩ := (parseMinorUnitDigits_iff hdigits (by simp [hne])).mp h
          exact ⟨whole, found.getD [], hdecimal, Nat.not_lt.mp hlength, rfl,
            by exact_mod_cast hsmall⟩

/-- The blanks of the client are blanks of the service, but for the byte order mark. -/
theorem isWhitespace_of_isBlank {char : Char} (h : JavaScript.isBlank char = true)
    (hmark : char ≠ '\uFEFF') : isWhitespace char = true := by
  have hnumber : char.toNat ≠ 0xFEFF := fun hnumber => hmark (Char.toNat_inj.mp hnumber)
  simp only [JavaScript.isBlank, decide_eq_true_eq] at h
  rcases h with hblank | hblank
  · exact hblank.1
  · exact absurd hblank hnumber

/-- What the client reads without a byte order mark, the service reads as the same amount. -/
theorem decimalMoney_of_parse (h : parseMoneyMinorUnits value (.finite scale) = some amount)
    (hmark : '\uFEFF' ∉ value.toList) (currency : String) :
    decimalMoney value currency scale = Money.new amount currency scale := by
  obtain ⟨-, whole, fraction, hdecimal, hlength, rfl, hsmall⟩ := parseMoneyMinorUnits_digits h
  obtain ⟨before, after, hbefore, hafter, htext⟩ := JavaScript.trim_spec value
  have hne : (JavaScript.trim value).toList ≠ [] := by
    rcases hdecimal.form with hform | ⟨hform, -⟩
    · simp [hform]
    · simp [hform, hdecimal.nonempty]
  have hblank (part : List Char) (hpart : ∀ char ∈ part, JavaScript.isBlank char = true)
      (hsub : part ⊆ value.toList) : ∀ char ∈ part, isWhitespace char = true := by
    intro char hchar
    exact isWhitespace_of_isBlank (hpart char hchar) fun hbom => hmark (hbom ▸ hsub hchar)
  have htrim : trim value.toList = (JavaScript.trim value).toList := by
    rw [htext]
    apply trim_between _ hdecimal.not_isWhitespace _ hne
    · exact hblank before hbefore fun char hchar => by simp [htext, hchar]
    · exact hblank after hafter fun char hchar => by simp [htext, hchar]
  have hfits : (Nat.ofDigitChars 10
      (whole ++ fraction ++ List.replicate (scale - fraction.length) '0') 0 : Int) ≤ i128Max :=
    hsmall.le.trans (by decide)
  have hread := @decimalMoney_digits currency _ _ _ _ _ hdecimal hlength rfl hfits
  rw [← hread, decimalMoney, decimalMoney, htrim, trim_eq hdecimal.not_isWhitespace]

theorem splitDot_cons (char : Char) (rest : List Char) : splitDot (char :: rest) =
    if char = '.' then ([], rest) else (char :: (splitDot rest).1, (splitDot rest).2) := by
  by_cases hdot : char = '.'
  · simp [splitDot, List.span_eq_takeWhile_dropWhile, hdot]
  · simp [splitDot, List.span_eq_takeWhile_dropWhile, hdot]

/-- Splitting at a dot loses no other character. -/
theorem mem_splitDot {chars : List Char} {char : Char} (h : char ∈ chars) (hchar : char ≠ '.') :
    char ∈ (splitDot chars).1 ∨ char ∈ (splitDot chars).2 := by
  induction chars with
  | nil => cases h
  | cons first rest ih =>
      rw [splitDot_cons]
      rcases List.mem_cons.mp h with rfl | hrest
      · simp [hchar]
      · split
        · exact .inr hrest
        · rcases ih hrest with hwhole | hfraction
          · exact .inl (List.mem_cons_of_mem _ hwhole)
          · exact .inr hfraction

/-- The service reads no text with a byte order mark. -/
theorem decimalMoney_mark (hmark : '\uFEFF' ∈ value.toList) (currency : String) :
    decimalMoney value currency scale = .error (.invalid "provider amount is invalid") := by
  have hdigit : ('\uFEFF').isDigit = false := by decide
  have hpart := mem_splitDot (mem_trim hmark (by decide)) (by decide)
  unfold decimalMoney
  dsimp only
  split
  · rfl
  · rw [if_pos]
    simp only [List.all_eq_false]
    rcases hpart with hwhole | hfraction
    · exact .inr (.inl ⟨_, hwhole, by simp [hdigit]⟩)
    · exact .inr (.inr (.inl ⟨_, hfraction, by simp [hdigit]⟩))

end Amounts

/-! ## What is formatted -/

section Formatting

variable {amount scale : Nat}

/-- A number that has more digits than the scale loses as many by the division. -/
theorem length_toDigits_div (h : 10 ^ scale ≤ amount) :
    (Nat.toDigits 10 (amount / 10 ^ scale)).length + scale = (Nat.toDigits 10 amount).length := by
  have hquotient (bound : Nat) :
      amount / 10 ^ scale < 10 ^ bound ↔ amount < 10 ^ (bound + scale) := by
    rw [Nat.div_lt_iff_lt_mul (by positivity), ← pow_add]
  have hlong : scale < (Nat.toDigits 10 amount).length := by
    by_contra hshort
    by_cases hzero : scale = 0
    · have hnone : (Nat.toDigits 10 amount).length = 0 := by omega
      exact Nat.toDigits_ne_nil (List.length_eq_zero_iff.mp hnone)
    · have hless := (@Nat.length_toDigits_le_iff 10 amount _ (by omega) (by omega)).mp
        (not_lt.mp hshort)
      omega
  have hpositive : 0 < (Nat.toDigits 10 (amount / 10 ^ scale)).length :=
    List.length_pos_of_ne_nil Nat.toDigits_ne_nil
  apply le_antisymm
  · have hless := (@Nat.length_toDigits_le_iff 10 amount _ (by omega) (by omega)).mp le_rfl
    have hbound := (hquotient ((Nat.toDigits 10 amount).length - scale)).mpr
      (by rwa [Nat.sub_add_cancel hlong.le])
    have hshort := (@Nat.length_toDigits_le_iff 10 _ _ (by omega) (by omega)).mpr hbound
    omega
  · have hless :=
      (@Nat.length_toDigits_le_iff 10 (amount / 10 ^ scale) _ (by omega) hpositive).mp le_rfl
    exact (Nat.length_toDigits_le_iff (by omega) (by omega)).mpr ((hquotient _).mp hless)

/-- The padded digits are those of the quotient and those of the remainder. -/
theorem padStart_split (amount : Nat) (hscale : scale ≠ 0) :
    padStart (Nat.toDigits 10 amount) (scale + 1) = Nat.toDigits 10 (amount / 10 ^ scale) ++
      (List.replicate (scale - (Nat.toDigits 10 (amount % 10 ^ scale)).length) '0' ++
        Nat.toDigits 10 (amount % 10 ^ scale)) := by
  have hrest : (Nat.toDigits 10 (amount % 10 ^ scale)).length ≤ scale :=
    length_toDigits_mod_le hscale
  apply eq_of_ofDigitChars
  · exact isDigit_padded _ _
  · intro char hchar
    rcases List.mem_append.mp hchar with hchar | hchar
    · exact isDigit_toDigits char hchar
    · exact isDigit_padded _ _ char hchar
  · simp only [padStart, List.length_append, List.length_replicate]
    by_cases hsmall : amount < 10 ^ scale
    · have hshort := (@Nat.length_toDigits_le_iff 10 amount _ (by omega) (by omega)).mpr hsmall
      have hone : (Nat.toDigits 10 (amount / 10 ^ scale)).length = 1 := by
        rw [Nat.div_eq_of_lt hsmall]
        rfl
      omega
    · have hlost := length_toDigits_div (not_lt.mp hsmall)
      have hpositive : 0 < (Nat.toDigits 10 (amount / 10 ^ scale)).length :=
        List.length_pos_of_ne_nil Nat.toDigits_ne_nil
      omega
  · rw [ofDigitChars_padded _ hrest, Nat.ofDigitChars_ten_toDigits, padStart,
      Nat.ofDigitChars_append, Nat.ofDigitChars_replicate_zero, mul_zero,
      Nat.ofDigitChars_ten_toDigits, mul_comm]
    exact (Nat.div_add_mod amount _).symm

theorem toList_toString (amount : Nat) :
    (toString (amount : Int)).toList = Nat.toDigits 10 amount := Nat.toList_repr

/-- The client slices the quotient and the remainder out of the digits. -/
theorem formatMoneyMinorUnits_split (amount : Nat) (hzero : scale ≠ 0) :
    formatMoneyMinorUnits amount (.finite scale) = toString (amount / 10 ^ scale) ++ "." ++
      Money.zeroPadded scale (amount % 10 ^ scale : Nat) := by
  have hrest : (Nat.toDigits 10 (amount % 10 ^ scale)).length ≤ scale :=
    length_toDigits_mod_le hzero
  have hlength : (List.replicate (scale - (Nat.toDigits 10 (amount % 10 ^ scale)).length) '0' ++
      Nat.toDigits 10 (amount % 10 ^ scale)).length = scale := by
    simp only [List.length_append, List.length_replicate]
    omega
  simp only [formatMoneyMinorUnits, digitsOfScale_natCast, if_neg hzero, toList_toString,
    padStart_split amount hzero, hlength,
    @List.length_append _ (Nat.toDigits 10 (amount / 10 ^ scale)), Nat.add_sub_cancel,
    List.take_left, List.drop_left]
  rw [← Money.toList_zeroPadded, String.ofList_toList]
  rfl

/-- The client slices what the service divides. -/
theorem decimalString_eq_format (currency : String) (hamount : amount < 10 ^ 38)
    (hscale : scale ≤ 18) :
    Money.decimalString ⟨toString (amount : Int), currency, scale⟩ =
      .ok (formatMoneyMinorUnits amount (.finite scale)) := by
  have hfits : (amount : Int) ≤ i128Max := by
    have hint : (amount : Int) < 10 ^ 38 := by exact_mod_cast hamount
    exact hint.le.trans (by decide)
  have hexact : Money.exactAmount ⟨toString (amount : Int), currency, scale⟩ = .ok amount := by
    rw [Money.exactAmount, parseInteger_toString hfits]
  by_cases hzero : scale = 0
  · rw [Money.decimalString, hexact]
    simp only [bind, Except.bind, formatMoneyMinorUnits, digitsOfScale_natCast, if_pos hzero]
  · rw [Money.decimalString_eq hexact hzero hscale, formatMoneyMinorUnits_split amount hzero]

theorem parseStoredMinorUnits_toString (hamount : amount < 10 ^ 38) :
    parseStoredMinorUnits (toString (amount : Int)) = some (amount : Int) := by
  have hblank : ∀ char ∈ (toString (amount : Int)).toList, JavaScript.isBlank char = false := by
    rw [toList_toString]
    intro char hchar
    exact isBlank_of_isDigit (isDigit_toDigits char hchar)
  have hvalue : Nat.ofDigitChars 10 (Nat.toDigits 10 amount) 0 = amount :=
    Nat.ofDigitChars_ten_toDigits
  have hdigits : (Nat.toDigits 10 amount).all Char.isDigit = true := by
    simpa using isDigit_toDigits
  rw [parseStoredMinorUnits, JavaScript.trim_eq_self hblank, toList_toString]
  simp only [List.isEmpty_iff, Nat.toDigits_ne_nil, hdigits, Bool.not_true, Bool.false_eq_true,
    or_self, if_false]
  exact (parseMinorUnitDigits_iff isDigit_toDigits Nat.toDigits_ne_nil).mpr
    ⟨by rw [hvalue], by rwa [hvalue]⟩

/-- A text of digits and dots has one unit for each of its characters. -/
theorem length_eq {text : String} (h : ∀ char ∈ text.toList, char.isDigit = true ∨ char = '.') :
    JavaScript.length text = text.toList.length := by
  have hunits : ∀ char ∈ text.toList, (JavaScript.codeUnits char).length = 1 := by
    intro char hchar
    have hsmall : char.toNat < 0x10000 := by
      rcases h char hchar with hdigit | rfl
      · have hbounds := isDigit_iff_bounds.mp hdigit
        omega
      · decide
    simp [JavaScript.codeUnits, hsmall]
  rw [JavaScript.length, List.length_flatMap, List.map_congr_left hunits]
  simp

theorem parseMoneyMinorUnits_of_match {text : String} {whole : List Char}
    {found : Option (List Char)} (hmatch : matchAmount text.toList = some (whole, found))
    (hscale : scale ≤ 18) (hwhole : whole.length ≤ 38) (hfraction : (found.getD []).length = scale)
    (hvalue : Nat.ofDigitChars 10 (whole ++ found.getD []) 0 = amount)
    (hamount : amount < 10 ^ 38) :
    parseMoneyMinorUnits text (.finite scale) = some (amount : Int) := by
  obtain ⟨⟨hne, hdigits⟩, hform⟩ := matchAmount_iff.mp hmatch
  have hpart : ∀ char ∈ found.getD [], char.isDigit = true := by
    rcases hform with ⟨rfl, -⟩ | ⟨fraction, rfl, -, hpart, -⟩
    · simp
    · exact hpart
  have hchars : ∀ char ∈ text.toList, char.isDigit = true ∨ char = '.' := by
    intro char hchar
    rcases hform with ⟨-, htext⟩ | ⟨fraction, rfl, -, -, htext⟩
    · exact .inl (hdigits char (htext ▸ hchar))
    · rw [htext, List.mem_append, List.mem_cons] at hchar
      rcases hchar with hchar | hdot | hchar
      · exact .inl (hdigits char hchar)
      · exact .inr hdot
      · exact .inl (hpart char hchar)
  have hlength : text.toList.length ≠ 0 ∧ text.toList.length ≤ 128 := by
    have hpositive := List.length_pos_of_ne_nil hne
    rcases hform with ⟨-, htext⟩ | ⟨fraction, rfl, -, -, htext⟩
    · rw [htext]
      omega
    · simp only [Option.getD_some] at hfraction
      rw [htext, List.length_append, List.length_cons]
      omega
  have hblank : ∀ char ∈ text.toList, JavaScript.isBlank char = false := by
    intro char hchar
    rcases hchars char hchar with hdigit | rfl
    · exact isBlank_of_isDigit hdigit
    · decide
  have hparse : parseMinorUnitDigits (whole ++ found.getD []) = some (amount : Int) := by
    apply (parseMinorUnitDigits_iff _ (by simp [hne])).mpr
    · rw [hvalue]
      exact ⟨rfl, hamount⟩
    · intro char hchar
      rcases List.mem_append.mp hchar with hchar | hchar
      · exact hdigits char hchar
      · exact hpart char hchar
  rw [parseMoneyMinorUnits, JavaScript.trim_eq_self hblank]
  simp only [hmatch, hfraction, digitsOfScale_natCast, isValidCurrencyScale_iff.mpr hscale,
    length_eq hchars, hlength.1, maxAmountTextLength, not_lt.mpr hlength.2, Nat.sub_self,
    List.replicate_zero, List.append_nil, lt_irrefl, Bool.not_true, Bool.false_eq_true, or_self,
    if_false]
  exact hparse

/-- What is formatted is read back. -/
theorem parseMoneyMinorUnits_format (hamount : amount < 10 ^ 38) (hscale : scale ≤ 18) :
    parseMoneyMinorUnits (formatMoneyMinorUnits amount (.finite scale)) (.finite scale) =
      some (amount : Int) := by
  by_cases hzero : scale = 0
  · have hlength : (Nat.toDigits 10 amount).length ≤ 38 :=
      (Nat.length_toDigits_le_iff (by omega) (by omega)).mpr hamount
    have hmatch : matchAmount (formatMoneyMinorUnits amount (.finite scale)).toList =
        some (Nat.toDigits 10 amount, none) := by
      rw [formatMoneyMinorUnits, digitsOfScale_natCast, if_pos hzero, toList_toString]
      exact matchAmount_iff.mpr ⟨⟨Nat.toDigits_ne_nil, isDigit_toDigits⟩, .inl ⟨rfl, rfl⟩⟩
    exact parseMoneyMinorUnits_of_match hmatch hscale hlength (by simp [hzero])
      (by simp [Nat.ofDigitChars_ten_toDigits]) hamount
  · have hrest : (Nat.toDigits 10 (amount % 10 ^ scale)).length ≤ scale :=
      length_toDigits_mod_le hzero
    have hlength : (Nat.toDigits 10 (amount / 10 ^ scale)).length ≤ 38 :=
      (Nat.length_toDigits_le_iff (by omega) (by omega)).mpr
        ((Nat.div_le_self _ _).trans_lt hamount)
    have hmatch : matchAmount (formatMoneyMinorUnits amount (.finite scale)).toList =
        some (Nat.toDigits 10 (amount / 10 ^ scale), some
          (List.replicate (scale - (Nat.toDigits 10 (amount % 10 ^ scale)).length) '0' ++
            Nat.toDigits 10 (amount % 10 ^ scale))) := by
      rw [formatMoneyMinorUnits_split amount hzero, String.toList_append, String.toList_append,
        Money.toList_zeroPadded, List.append_assoc]
      apply matchAmount_iff.mpr
      refine ⟨⟨Nat.toDigits_ne_nil, isDigit_toDigits⟩, .inr ⟨_, rfl, ?_, isDigit_padded _ _, ?_⟩⟩
      · simp [Nat.toDigits_ne_nil]
      · exact congrArg (· ++ _) Nat.toList_repr
    apply parseMoneyMinorUnits_of_match hmatch hscale hlength _ _ hamount
    · simp only [Option.getD_some, List.length_append, List.length_replicate]
      omega
    · rw [Option.getD_some, ofDigitChars_padded _ hrest, Nat.ofDigitChars_ten_toDigits, mul_comm]
      exact Nat.div_add_mod amount _

end Formatting

/-! ## Agreement with the service -/

theorem refundAmountMinorUnits_le {payment : PaymentAdminRecord} {entered text : String}
    (h : refundAmountMinorUnits payment entered = some text) : ∃ requested captured refunded,
      text = toString requested ∧
      parseMoneyMinorUnits entered payment.currencyScale = some requested ∧
      parseStoredMinorUnits payment.capturedAmount = some captured ∧
      parseStoredMinorUnits payment.refundedAmount = some refunded ∧
      0 < requested ∧ requested ≤ captured - refunded := by
  unfold refundAmountMinorUnits at h
  split at h
  · next requested remaining hrequested hremaining =>
    split at h
    · next hwithin =>
      cases h
      unfold remainingRefundMinorUnits at hremaining
      split at hremaining
      · cases hremaining
      · split at hremaining
        · next captured refunded hcaptured hrefunded =>
          split at hremaining
          · cases hremaining
          · cases hremaining
            exact ⟨requested, captured, refunded, rfl, hrequested, hcaptured, hrefunded,
              hwithin.1, hwithin.2⟩
        · cases hremaining
    · cases h
  · cases h

theorem new_of_currency {amount : Int} {currency : String} {scale : Nat} (hamount : 0 ≤ amount)
    (hscale : scale ≤ 18) (hsize : currency.utf8ByteSize = 3)
    (hupper : currency.toList.all Char.isUpper = true) :
    Money.new amount currency scale = .ok ⟨toString amount, currency, scale⟩ := by
  rw [Money.new, if_neg (not_lt.mpr hamount), if_neg (not_lt.mpr hscale), if_neg]
  simp [hsize, hupper]

/-- The client formats as the service does and reads its own texts back.  What it accepts, the
service reads as the same amount, unless it trimmed a byte order mark; and it refunds no more
than remains. -/
theorem amounts_agree :
    (∀ (amount scale : Nat) (currency : String), amount < 10 ^ 38 → scale ≤ 18 → ∃ text,
      formatStoredMoneyAmount (toString (amount : Int)) (.finite scale) = some text ∧
      Money.decimalString ⟨toString (amount : Int), currency, scale⟩ = .ok text ∧
      parseMoneyMinorUnits text (.finite scale) = some (amount : Int)) ∧
    (∀ (value : String) (scale : Nat) (amount : Int) (currency : String),
      parseMoneyMinorUnits value (.finite scale) = some amount →
      currency.utf8ByteSize = 3 → currency.toList.all Char.isUpper = true →
      (decimalMoney value currency scale = .ok ⟨toString amount, currency, scale⟩ ↔
        '\uFEFF' ∉ value.toList)) ∧
    ∀ (payment : PaymentAdminRecord) (entered text : String),
      refundAmountMinorUnits payment entered = some text → ∃ requested captured refunded,
        text = toString requested ∧
        parseMoneyMinorUnits entered payment.currencyScale = some requested ∧
        parseStoredMinorUnits payment.capturedAmount = some captured ∧
        parseStoredMinorUnits payment.refundedAmount = some refunded ∧
        0 < requested ∧ requested ≤ captured - refunded := by
  refine ⟨?_, ?_, fun payment entered text => refundAmountMinorUnits_le⟩
  · intro amount scale currency hamount hscale
    refine ⟨formatMoneyMinorUnits amount (.finite scale), ?_,
      decimalString_eq_format currency hamount hscale,
      parseMoneyMinorUnits_format hamount hscale⟩
    rw [formatStoredMoneyAmount, parseStoredMinorUnits_toString hamount,
      isValidCurrencyScale_iff.mpr hscale]
    rfl
  · intro value scale amount currency hparse hsize hupper
    constructor
    · intro hread hmark
      rw [decimalMoney_mark hmark] at hread
      cases hread
    · intro hmark
      obtain ⟨hscale, whole, fraction, -, -, hamount, -⟩ := parseMoneyMinorUnits_digits hparse
      rw [decimalMoney_of_parse hparse hmark]
      exact new_of_currency (by omega) hscale hsize hupper

theorem amounts_agree_dollars :
    (∃ text, formatStoredMoneyAmount (toString (5 : Int)) (.finite (2 : Nat)) = some text ∧
      Money.decimalString ⟨toString (5 : Int), "USD", 2⟩ = .ok text ∧
      parseMoneyMinorUnits text (.finite (2 : Nat)) = some 5) ∧
    (decimalMoney " 1.5" "USD" 2 = .ok ⟨toString (150 : Int), "USD", 2⟩ ↔
      '\uFEFF' ∉ " 1.5".toList) ∧
    ∃ requested captured refunded, "2000" = toString requested ∧
      parseMoneyMinorUnits "20.00" (.finite (2 : Nat)) = some requested ∧
      parseStoredMinorUnits "12000" = some captured ∧
      parseStoredMinorUnits "0" = some refunded ∧
      0 < requested ∧ requested ≤ captured - refunded :=
  ⟨amounts_agree.1 5 2 "USD" (by decide) (by decide),
    amounts_agree.2.1 " 1.5" 2 150 "USD" (by decide +kernel) (by decide +kernel)
      (by decide +kernel),
    amounts_agree.2.2 ⟨"12000", "0", .finite (2 : Nat)⟩ "20.00" "2000" (by decide +kernel)⟩

/-- The client trims a byte order mark, which the service does not read. -/
theorem accepts_mark : ¬ ∀ (value : String) (scale : Nat) (amount : Int) (currency : String),
    parseMoneyMinorUnits value (.finite scale) = some amount →
    currency.utf8ByteSize = 3 → currency.toList.all Char.isUpper = true →
    decimalMoney value currency scale = .ok ⟨toString amount, currency, scale⟩ := by
  intro hagree
  have hread := hagree "\uFEFF1" 0 1 "USD" (by decide +kernel) (by decide +kernel)
    (by decide +kernel)
  rw [decimalMoney_mark (by decide +kernel)] at hread
  cases hread

end MatchPlane.WebMoney
