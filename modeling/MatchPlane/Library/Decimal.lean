import Mathlib

/-!
# Decimal numerals

A numeral is a list of digits without a leading zero.  Of two numerals the
shorter one denotes the smaller number, and numerals of one length are in the
order of the numbers they denote.
-/

namespace MatchPlane.Library

/-- The digits of a positive number, the most significant one first. -/
structure IsNumeral (digits : List Char) : Prop where
  digit : ∀ char ∈ digits, char.isDigit = true
  nonempty : digits ≠ []
  leading : digits.head? ≠ some '0'

section Digits

variable {digits first second : List Char}

theorem isDigit_iff_bounds {char : Char} : char.isDigit = true ↔
    48 ≤ char.toNat ∧ char.toNat ≤ 57 := by
  simp only [Char.isDigit, Bool.and_eq_true, decide_eq_true_eq]
  rfl

theorem isDigit_toDigits {number : Nat} : ∀ char ∈ Nat.toDigits 10 number,
    char.isDigit = true := fun _ hchar => Nat.isDigit_of_mem_toDigits (by omega) (by omega) hchar

theorem char_lt_iff {char other : Char} : char < other ↔ char.toNat < other.toNat := by
  rw [Char.lt_def, UInt32.lt_iff_toNat_lt]
  rfl

/-- The first digit counts as often as the remaining ones have room for. -/
theorem ofDigitChars_leading (char : Char) (rest : List Char) :
    Nat.ofDigitChars 10 (char :: rest) 0 =
      10 ^ rest.length * (char.toNat - 48) + Nat.ofDigitChars 10 rest 0 := by
  rw [Nat.ofDigitChars_cons, Nat.ofDigitChars_eq_ofDigitChars_zero, mul_zero, zero_add]
  rfl

theorem ofDigitChars_lt (h : ∀ char ∈ digits, char.isDigit = true) :
    Nat.ofDigitChars 10 digits 0 < 10 ^ digits.length := by
  induction digits with
  | nil => simp
  | cons char rest ih =>
      have hchar := isDigit_iff_bounds.mp (h char List.mem_cons_self)
      have hrest := ih fun other hother => h other (List.mem_cons_of_mem _ hother)
      have hdigit : char.toNat - 48 ≤ 9 := by omega
      have hscaled : 10 ^ rest.length * (char.toNat - 48) ≤ 10 ^ rest.length * 9 :=
        Nat.mul_le_mul_left _ hdigit
      rw [ofDigitChars_leading, List.length_cons, pow_succ]
      omega

/-- Digit lists of one length are in the order of the numbers they denote. -/
theorem ofDigitChars_lt_iff (hfirst : ∀ char ∈ first, char.isDigit = true)
    (hsecond : ∀ char ∈ second, char.isDigit = true) (hlength : first.length = second.length) :
    Nat.ofDigitChars 10 first 0 < Nat.ofDigitChars 10 second 0 ↔ first < second := by
  induction first generalizing second with
  | nil =>
      cases second with
      | nil => simp
      | cons _ _ => cases hlength
  | cons char rest ih =>
      cases second with
      | nil => cases hlength
      | cons other rest' =>
          have hchar := isDigit_iff_bounds.mp (hfirst char List.mem_cons_self)
          have hother := isDigit_iff_bounds.mp (hsecond other List.mem_cons_self)
          have hrest := fun digit hdigit => hfirst digit (List.mem_cons_of_mem _ hdigit)
          have hrest' := fun digit hdigit => hsecond digit (List.mem_cons_of_mem _ hdigit)
          have hlength : rest.length = rest'.length := by simpa using hlength
          have hbound := ofDigitChars_lt hrest
          have hbound' := ofDigitChars_lt hrest'
          rw [ofDigitChars_leading, ofDigitChars_leading, List.cons_lt_cons_iff,
            ← ih hrest hrest' hlength, char_lt_iff, hlength]
          rw [hlength] at hbound
          rcases lt_trichotomy char.toNat other.toNat with hlt | heq | hgt
          · -- A smaller leading digit outweighs all the digits after it.
            have hstep : 10 ^ rest'.length * (char.toNat - 48 + 1) ≤
                10 ^ rest'.length * (other.toNat - 48) := Nat.mul_le_mul_left _ (by omega)
            rw [mul_add, mul_one] at hstep
            simp only [hlt, true_or, iff_true]
            omega
          · have hsame : char = other := Char.toNat_inj.mp heq
            subst hsame
            simp
          · have hstep : 10 ^ rest'.length * (other.toNat - 48 + 1) ≤
                10 ^ rest'.length * (char.toNat - 48) := Nat.mul_le_mul_left _ (by omega)
            have hne : char ≠ other := fun hsame => absurd (congrArg Char.toNat hsame) hgt.ne'
            rw [mul_add, mul_one] at hstep
            simp only [hne, false_and, or_false]
            omega

/-- Digits of one length are told apart by their number. -/
theorem eq_of_ofDigitChars (hfirst : ∀ char ∈ first, char.isDigit = true)
    (hsecond : ∀ char ∈ second, char.isDigit = true) (hlength : first.length = second.length)
    (hvalue : Nat.ofDigitChars 10 first 0 = Nat.ofDigitChars 10 second 0) : first = second := by
  have hless := ofDigitChars_lt_iff hfirst hsecond hlength
  have hgreater := ofDigitChars_lt_iff hsecond hfirst hlength.symm
  rcases lt_trichotomy first second with h | h | h
  · exact absurd (hless.mpr h) hvalue.not_lt
  · exact h
  · exact absurd (hgreater.mpr h) hvalue.symm.not_lt

theorem IsNumeral.pow_le (h : IsNumeral digits) :
    10 ^ (digits.length - 1) ≤ Nat.ofDigitChars 10 digits 0 := by
  cases digits with
  | nil => exact absurd rfl h.nonempty
  | cons char rest =>
      have hchar := isDigit_iff_bounds.mp (h.digit char List.mem_cons_self)
      have hne : char.toNat ≠ 48 := by
        intro hzero
        apply h.leading
        rw [List.head?_cons, Char.toNat_inj.mp (show char.toNat = '0'.toNat from hzero)]
      have hscaled : 10 ^ rest.length * 1 ≤ 10 ^ rest.length * (char.toNat - 48) :=
        Nat.mul_le_mul_left _ (by omega)
      rw [ofDigitChars_leading, List.length_cons, Nat.add_sub_cancel]
      omega

theorem IsNumeral.positive (h : IsNumeral digits) : 0 < Nat.ofDigitChars 10 digits 0 :=
  lt_of_lt_of_le (by positivity) h.pow_le

/-- Of two numerals the shorter one denotes the smaller number. -/
theorem IsNumeral.lt_of_length_lt (hfirst : IsNumeral first) (hsecond : IsNumeral second)
    (hlength : first.length < second.length) :
    Nat.ofDigitChars 10 first 0 < Nat.ofDigitChars 10 second 0 :=
  calc Nat.ofDigitChars 10 first 0 < 10 ^ first.length := ofDigitChars_lt hfirst.digit
    _ ≤ 10 ^ (second.length - 1) := Nat.pow_le_pow_right (by omega) (by omega)
    _ ≤ Nat.ofDigitChars 10 second 0 := hsecond.pow_le

/-- Digits that denote enough have no leading zero. -/
theorem head_ne_zero (hdigits : ∀ char ∈ digits, char.isDigit = true)
    (hvalue : 10 ^ (digits.length - 1) ≤ Nat.ofDigitChars 10 digits 0) :
    digits.head? ≠ some '0' := by
  cases digits with
  | nil => simp
  | cons char rest =>
      rintro ⟨rfl⟩
      have hrest := ofDigitChars_lt fun other hother => hdigits other (List.mem_cons_of_mem _ hother)
      rw [ofDigitChars_leading, List.length_cons, Nat.add_sub_cancel] at hvalue
      simp only [show '0'.toNat = 48 from rfl, Nat.sub_self, mul_zero, zero_add] at hvalue
      omega

theorem head_toDigits {number : Nat} (h : 0 < number) :
    (Nat.toDigits 10 number).head? ≠ some '0' := by
  induction number using Nat.strong_induction_on with
  | _ number ih =>
      by_cases hsmall : number < 10
      · rw [Nat.toDigits_of_lt_base hsmall]
        interval_cases number <;> decide
      · have hquotient : 0 < number / 10 := Nat.div_pos (by omega) (by omega)
        have hhead := ih (number / 10) (Nat.div_lt_self h (by omega)) hquotient
        rw [Nat.toDigits_of_base_le (by omega) (by omega), List.head?_append]
        cases hfound : (Nat.toDigits 10 (number / 10)).head? with
        | none => exact absurd (List.head?_eq_none_iff.mp hfound) Nat.toDigits_ne_nil
        | some char =>
            rw [hfound] at hhead
            simpa using hhead

theorem isNumeral_toDigits {number : Nat} (h : 0 < number) :
    IsNumeral (Nat.toDigits 10 number) :=
  ⟨isDigit_toDigits, Nat.toDigits_ne_nil, head_toDigits h⟩

end Digits

end MatchPlane.Library
