import MatchPlane.Domain.Characters
import MatchPlane.Library.Decimal
import MatchPlane.Payments.Provider

/-!
# Decimal amounts

Providers take and report amounts as decimal numbers.  An amount is formatted by
dividing it, with the fraction padded by zeros, and read by putting the digits of
both parts together again.
-/

namespace MatchPlane

open MatchPlane.Library

namespace Money

def new (amount : Int) (currency : String) (scale : Nat) : Except PaymentError Money :=
  if amount < 0 then .error (.invalid "money amount cannot be negative")
  else if 18 < scale then .error (.invalid "money scale must be in 0..=18")
  else if currency.utf8ByteSize ≠ 3 ∨ currency.toList.all Char.isUpper = false then
    .error (.invalid "currency must contain three uppercase ASCII letters")
  else .ok ⟨toString amount, currency, scale⟩

/-- Formats with leading zeros; a sign counts as a digit of the width. -/
def zeroPadded (width : Nat) (value : Int) : String :=
  let digits := toString value.natAbs
  if value < 0 then
    "-" ++ String.ofList (List.replicate (width - 1 - digits.length) '0') ++ digits
  else String.ofList (List.replicate (width - digits.length) '0') ++ digits

def decimalString (money : Money) : Except PaymentError String := do
  let amount ← money.exactAmount
  if money.scale = 0 then .ok (toString amount)
  else
    match I128.ofInt? (10 ^ money.scale) with
    | none => .error (.invalid "money scale overflow")
    | some divisor => .ok (toString (amount.tdiv divisor.1) ++ "." ++
        zeroPadded money.scale (amount.tmod divisor.1))

end Money

/-- `str::split_once`, with an empty rest where there is no dot. -/
def splitDot (chars : List Char) : List Char × List Char :=
  let (whole, rest) := chars.span fun char => char ≠ '.'
  (whole, rest.drop 1)

def decimalMoney (value currency : String) (scale : Nat) : Except PaymentError Money :=
  let value := trim value.toList
  if value.isEmpty ∨ value.head? = some '-' ∨ value.head? = some '+' then
    .error (.invalid "provider amount is invalid")
  else
    let (whole, fraction) := splitDot value
    if whole.isEmpty ∨ whole.all Char.isDigit = false ∨ fraction.all Char.isDigit = false ∨
        scale < fraction.length then
      .error (.invalid "provider amount is invalid")
    else
      let digits := whole ++ fraction ++ List.replicate (scale - fraction.length) '0'
      match parseInteger (String.ofList digits) with
      | none => .error (.invalid "provider amount exceeds i128")
      | some amount => Money.new amount.1 currency scale

/-! ## Digits -/

section Digits

variable {digits : List Char}

theorem foldl_digits (hdigits : ∀ char ∈ digits, char.isDigit = true) (value : Nat) :
    digits.foldl (fun value digit => 10 * value + ((digit.toNat : Int) - 48)) (value : Int) =
      (Nat.ofDigitChars 10 digits value : Int) := by
  induction digits generalizing value with
  | nil => rfl
  | cons char rest ih =>
      have hchar := isDigit_iff_bounds.mp (hdigits char List.mem_cons_self)
      rw [List.foldl_cons, Nat.ofDigitChars_cons,
        ← ih fun other hother => hdigits other (List.mem_cons_of_mem _ hother)]
      congr 1
      push_cast [show '0'.toNat = 48 from rfl, Nat.cast_sub hchar.1]
      rfl

theorem parseInteger_digits (hne : digits ≠ [])
    (hdigits : ∀ char ∈ digits, char.isDigit = true) :
    parseInteger (String.ofList digits) =
      I128.ofInt? (Nat.ofDigitChars 10 digits 0 : Int) := by
  have hsign : ∀ char ∈ digits, char ≠ '-' ∧ char ≠ '+' := by
    intro char hchar
    have hdigit := hdigits char hchar
    constructor <;> rintro rfl <;> cases hdigit
  have hany : digits.any (fun digit => !digit.isDigit) = false := by
    simpa [List.any_eq_false] using hdigits
  have hfold := foldl_digits hdigits 0
  unfold parseInteger
  rw [String.toList_ofList]
  cases digits with
  | nil => exact absurd rfl hne
  | cons char rest =>
      have hchar := hsign char List.mem_cons_self
      split
      rename_i negative value hmatch
      split at hmatch
      · rename_i hminus
        cases hminus
        exact absurd rfl hchar.1
      · rename_i hplus
        cases hplus
        exact absurd rfl hchar.2
      · cases hmatch
        simp only [hany]
        simpa using congrArg I128.ofInt? hfold

end Digits

/-! ## The round trip -/

/-- A text has no more characters than bytes. -/
theorem length_le_utf8ByteSize (text : String) : text.length ≤ text.utf8ByteSize := by
  rw [← String.length_toList, ← String.utf8Len_toList]
  induction text.toList with
  | nil => exact le_refl _
  | cons char rest ih =>
      have hsize := Char.utf8Size_pos char
      simp only [List.length_cons, String.utf8Len]
      omega

theorem utf8Len_of_ascii {chars : List Char} (h : ∀ char ∈ chars, char.utf8Size = 1) :
    String.utf8Len chars = chars.length := by
  induction chars with
  | nil => rfl
  | cons char rest ih =>
      rw [String.utf8Len_cons, h char List.mem_cons_self, List.length_cons,
        ih fun other hother => h other (List.mem_cons_of_mem _ hother)]

theorem not_isWhitespace_of_isDigit {char : Char} (h : char.isDigit = true) :
    isWhitespace char = false := by
  have hbounds := isDigit_iff_bounds.mp h
  simp only [isWhitespace, List.mem_cons, List.not_mem_nil, or_false, decide_eq_false_iff_not]
  omega

theorem ne_dot_of_isDigit {char : Char} (h : char.isDigit = true) : char ≠ '.' := by
  rintro rfl
  cases h

/-- Digits before the dot, and digits or nothing after it. -/
theorem splitDot_digits {whole fraction : List Char}
    (hwhole : ∀ char ∈ whole, char.isDigit = true) :
    splitDot (whole ++ '.' :: fraction) = (whole, fraction) ∧ splitDot whole = (whole, []) := by
  have hspan : ∀ rest : List Char, (∀ char, rest.head? = some char → char = '.') →
      (whole ++ rest).span (fun char => char ≠ '.') = (whole, rest) := by
    intro rest hrest
    rw [List.span_eq_takeWhile_dropWhile, List.takeWhile_append_of_pos,
      List.dropWhile_append_of_pos]
    · cases rest with
      | nil => simp
      | cons char rest => simp [hrest char rfl]
    · intro char hchar
      simpa using ne_dot_of_isDigit (hwhole char hchar)
    · intro char hchar
      simpa using ne_dot_of_isDigit (hwhole char hchar)
  unfold splitDot
  constructor
  · rw [hspan _ (by simp)]
    rfl
  · rw [show whole = whole ++ [] by simp, hspan [] (by simp)]
    simp

/-- Digits, with or without a dot and more digits. -/
structure IsDecimal (value : String) (whole fraction : List Char) : Prop where
  form : value.toList = whole ++ '.' :: fraction ∨ value.toList = whole ∧ fraction = []
  nonempty : whole ≠ []
  whole : ∀ char ∈ whole, char.isDigit = true
  fraction : ∀ char ∈ fraction, char.isDigit = true

namespace IsDecimal

variable {value : String} {whole fraction : List Char}

theorem not_isWhitespace (h : IsDecimal value whole fraction) :
    ∀ char ∈ value.toList, isWhitespace char = false := by
  intro char hchar
  rcases h.form with hform | ⟨hform, _⟩
  · rw [hform, List.mem_append, List.mem_cons] at hchar
    rcases hchar with hchar | rfl | hchar
    · exact not_isWhitespace_of_isDigit (h.whole char hchar)
    · decide
    · exact not_isWhitespace_of_isDigit (h.fraction char hchar)
  · rw [hform] at hchar
    exact not_isWhitespace_of_isDigit (h.whole char hchar)

/-- Zeros after the fraction are digits too. -/
theorem isDigit_filled (h : IsDecimal value whole fraction) (count : Nat) :
    ∀ char ∈ whole ++ fraction ++ List.replicate count '0', char.isDigit = true := by
  intro char hchar
  rw [List.mem_append, List.mem_append, List.mem_replicate] at hchar
  rcases hchar with (hchar | hchar) | ⟨_, rfl⟩
  · exact h.whole char hchar
  · exact h.fraction char hchar
  · rfl

end IsDecimal

section RoundTrip

variable {currency : String} {scale number : Nat}

/-- Digits with or without a fraction of at most the scale are put together. -/
theorem decimalMoney_digits {value : String} {whole fraction : List Char}
    (h : IsDecimal value whole fraction) (hlength : fraction.length ≤ scale)
    (hnumber : Nat.ofDigitChars 10
      (whole ++ fraction ++ List.replicate (scale - fraction.length) '0') 0 = number)
    (hfits : (number : Int) ≤ i128Max) :
    decimalMoney value currency scale = Money.new number currency scale := by
  have hblank := h.not_isWhitespace
  have hdigits := h.isDigit_filled (scale - fraction.length)
  obtain ⟨hvalue, hne, hwhole, hfraction⟩ := h
  have hsplit : splitDot value.toList = (whole, fraction) := by
    rcases hvalue with h | ⟨h, hnone⟩
    · rw [h, (splitDot_digits hwhole).1]
    · have hbare := (splitDot_digits hwhole : splitDot (whole ++ '.' :: []) = (whole, []) ∧ _).2
      rw [h, hnone, hbare]
  obtain ⟨first, rest, hfirst⟩ := List.exists_cons_of_ne_nil hne
  have hhead : value.toList.head? = some first := by
    rcases hvalue with h | ⟨h, _⟩ <;> rw [h, hfirst] <;> rfl
  have hdigit : first.isDigit = true := hwhole first (by rw [hfirst]; exact List.mem_cons_self)
  have hguard : ¬(value.toList.isEmpty ∨ value.toList.head? = some '-' ∨
      value.toList.head? = some '+') := by
    rw [hhead]
    rintro (hempty | hsign | hsign)
    · rw [List.isEmpty_iff] at hempty
      rw [hempty] at hhead
      cases hhead
    · cases hsign
      cases hdigit
    · cases hsign
      cases hdigit
  have hform : ¬(whole.isEmpty ∨ whole.all Char.isDigit = false ∨
      fraction.all Char.isDigit = false ∨ scale < fraction.length) := by
    simp only [List.isEmpty_iff, hne, List.all_eq_false, false_or, not_or, not_exists, not_and,
      Bool.not_eq_true, Bool.not_eq_false, not_lt]
    exact ⟨hwhole, hfraction, hlength⟩
  have hamount : InI128 (number : Int) := ⟨by simp only [i128Min]; omega, hfits⟩
  have hparse : parseInteger (String.ofList
      (whole ++ fraction ++ List.replicate (scale - fraction.length) '0')) =
        some ⟨number, hamount⟩ := by
    rw [parseInteger_digits (by simp [hne]) hdigits, hnumber, I128.ofInt?_eq_some hamount]
  unfold decimalMoney
  simp only [trim_eq hblank, if_neg hguard, hsplit, if_neg hform, hparse]

theorem isDigit_padded (count number : Nat) :
    ∀ char ∈ List.replicate count '0' ++ Nat.toDigits 10 number, char.isDigit = true := by
  intro char hchar
  rw [List.mem_append, List.mem_replicate] at hchar
  rcases hchar with ⟨-, rfl⟩ | hchar
  · rfl
  · exact isDigit_toDigits char hchar

/-- A remainder has no more digits than the scale. -/
theorem length_toDigits_mod_le (hzero : scale ≠ 0) :
    (Nat.toDigits 10 (number % 10 ^ scale)).length ≤ scale := by
  rw [Nat.length_toDigits_le_iff (by omega) (by omega)]
  exact Nat.mod_lt _ (by positivity)

/-- Digits padded to the scale come after the others. -/
theorem ofDigitChars_padded (whole : List Char) {rest : Nat}
    (h : (Nat.toDigits 10 rest).length ≤ scale) :
    Nat.ofDigitChars 10 (whole ++ (List.replicate (scale - (Nat.toDigits 10 rest).length) '0' ++
      Nat.toDigits 10 rest)) 0 = Nat.ofDigitChars 10 whole 0 * 10 ^ scale + rest := by
  rw [Nat.ofDigitChars_append, Nat.ofDigitChars_append, Nat.ofDigitChars_replicate_zero,
    Nat.ofDigitChars_eq_ofDigitChars_zero, Nat.ofDigitChars_ten_toDigits, ← mul_assoc, ← pow_add,
    Nat.add_sub_cancel' h, mul_comm]

theorem parseInteger_toString (h : (number : Int) ≤ i128Max) :
    parseInteger (toString (number : Int)) =
      some ⟨number, by simp only [i128Min]; omega, h⟩ := by
  have hprinted : toString (number : Int) = String.ofList (Nat.toDigits 10 number) :=
    Nat.repr_eq_ofList_toDigits
  rw [hprinted, parseInteger_digits Nat.toDigits_ne_nil isDigit_toDigits,
    Nat.ofDigitChars_ten_toDigits]
  exact I128.ofInt?_eq_some _

end RoundTrip

namespace Money

variable {amount : Int} {currency : String} {scale number : Nat} {money : Money}

theorem new_eq_ok (h : new amount currency scale = .ok money) :
    0 ≤ amount ∧ scale ≤ 18 ∧ money = ⟨toString amount, currency, scale⟩ := by
  unfold new at h
  split at h
  · cases h
  · split at h
    · cases h
    · split at h
      · cases h
      · cases h
        exact ⟨by omega, by omega, rfl⟩

theorem exactAmount_new (h : new amount currency scale = .ok money) (hfits : amount ≤ i128Max) :
    money.exactAmount = .ok amount := by
  obtain ⟨hnonneg, _, rfl⟩ := new_eq_ok h
  obtain ⟨number, rfl⟩ := Int.eq_ofNat_of_zero_le hnonneg
  unfold exactAmount
  rw [parseInteger_toString hfits]

theorem le_of_exactAmount (h : money.exactAmount = .ok amount) : amount ≤ i128Max := by
  unfold exactAmount at h
  split at h
  · rename_i value _
    cases h
    exact value.2.2
  · cases h

theorem toList_zeroPadded (width number : Nat) : (zeroPadded width number).toList =
    List.replicate (width - (Nat.toDigits 10 number).length) '0' ++ Nat.toDigits 10 number := by
  have hdigits : toString number = String.ofList (Nat.toDigits 10 number) :=
    Nat.repr_eq_ofList_toDigits
  have hsign : ¬((number : Int) < 0) := by omega
  simp only [zeroPadded, if_neg hsign, Int.natAbs_natCast, hdigits, String.toList_append,
    String.toList_ofList, String.length_ofList]

/-- The amount is divided by a power of ten that fits. -/
theorem decimalString_eq (h : money.exactAmount = .ok (number : Int)) (hzero : money.scale ≠ 0)
    (hscale : money.scale ≤ 18) : money.decimalString =
      .ok (toString (number / 10 ^ money.scale) ++ "." ++
        zeroPadded money.scale (number % 10 ^ money.scale : Nat)) := by
  have hpow : (10 : Int) ^ money.scale ≤ i128Max := by
    calc (10 : Int) ^ money.scale ≤ 10 ^ 18 := pow_le_pow_right₀ (by norm_num) hscale
      _ ≤ i128Max := by decide
  have hpos : (0 : Int) < 10 ^ money.scale := by positivity
  have hdivisor : I128.ofInt? (10 ^ money.scale) =
      some ⟨10 ^ money.scale, by simp only [i128Min]; omega, hpow⟩ := I128.ofInt?_eq_some _
  have hdiv : (number : Int).tdiv (10 ^ money.scale) = (number / 10 ^ money.scale : Nat) := by
    rw [Int.tdiv_eq_ediv_of_nonneg (by omega)]
    push_cast
    rfl
  have hmod : (number : Int).tmod (10 ^ money.scale) = (number % 10 ^ money.scale : Nat) := by
    rw [Int.tmod_eq_emod_of_nonneg (by omega)]
    push_cast
    rfl
  unfold decimalString
  rw [h]
  simp only [bind, Except.bind, if_neg hzero, hdivisor, hdiv, hmod]
  rfl

/-- What is printed has as many digits after the dot as the scale says. -/
theorem decimalString_digits (h : money.exactAmount = .ok (number : Int))
    (hscale : money.scale ≤ 18) : ∃ value whole fraction, money.decimalString = .ok value ∧
      IsDecimal value whole fraction ∧ fraction.length = money.scale ∧
      Nat.ofDigitChars 10 (whole ++ fraction) 0 = number := by
  by_cases hzero : money.scale = 0
  · refine ⟨toString (number : Int), Nat.toDigits 10 number, [], ?_, ?_, by simp [hzero], by simp⟩
    · simp [decimalString, h, hzero, bind, Except.bind]
    · exact ⟨.inr ⟨Nat.toList_repr, rfl⟩, Nat.toDigits_ne_nil, isDigit_toDigits, by simp⟩
  · have hlength : (Nat.toDigits 10 (number % 10 ^ money.scale)).length ≤ money.scale :=
      length_toDigits_mod_le hzero
    refine ⟨toString (number / 10 ^ money.scale) ++ "." ++
      zeroPadded money.scale (number % 10 ^ money.scale : Nat),
      Nat.toDigits 10 (number / 10 ^ money.scale), List.replicate
      (money.scale - (Nat.toDigits 10 (number % 10 ^ money.scale)).length) '0' ++
        Nat.toDigits 10 (number % 10 ^ money.scale), decimalString_eq h hzero hscale, ?_, ?_, ?_⟩
    · refine ⟨.inl ?_, Nat.toDigits_ne_nil, isDigit_toDigits, isDigit_padded _ _⟩
      rw [String.toList_append, String.toList_append, toList_zeroPadded, List.append_assoc]
      exact congrArg (· ++ _) Nat.toList_repr
    · simp only [List.length_append, List.length_replicate]
      omega
    · rw [ofDigitChars_padded _ hlength, Nat.ofDigitChars_ten_toDigits, mul_comm]
      exact Nat.div_add_mod _ _

/-- A printed amount is read back as it was. -/
theorem decimalMoney_decimalString (h : money.exactAmount = .ok amount) (hnonneg : 0 ≤ amount)
    (hscale : money.scale ≤ 18) : ∃ value, money.decimalString = .ok value ∧
      decimalMoney value currency money.scale = Money.new amount currency money.scale := by
  obtain ⟨number, rfl⟩ := Int.eq_ofNat_of_zero_le hnonneg
  obtain ⟨value, whole, fraction, hprinted, hdecimal, hlength, hnumber⟩ :=
    decimalString_digits h hscale
  refine ⟨value, hprinted, decimalMoney_digits hdecimal hlength.le ?_ (le_of_exactAmount h)⟩
  simpa [hlength] using hnumber

end Money

/-- What is read is money of the currency and the scale it is read in. -/
theorem decimalMoney_eq_ok {value currency : String} {scale : Nat} {money : Money}
    (h : decimalMoney value currency scale = .ok money) :
    money.currency = currency ∧ money.scale = scale := by
  unfold decimalMoney at h
  dsimp only at h
  split at h
  · cases h
  · split at h
    · cases h
    · split at h
      · cases h
      · obtain ⟨_, _, rfl⟩ := Money.new_eq_ok h
        exact ⟨rfl, rfl⟩

end MatchPlane
