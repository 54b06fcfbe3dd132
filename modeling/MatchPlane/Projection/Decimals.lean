import MatchPlane.Projection.Levels

/-!
# Decimals of the script

The script that stores a book has no exact integers.  It counts with texts of digits: it
strips their zeros, compares them, adds one, and pads the prices that it sorts by.
-/

namespace MatchPlane

open MatchPlane.Library

/-! ## The functions of the script -/

def normalizeDecimal (value : String) : Option String :=
  if isDigits value = false then none
  else
    let normalized := String.ofList (value.toList.dropWhile fun char => char = '0')
    if normalized = "" then some "0" else some normalized

/-- Adds the carry to a digit, before the digits that come after it. -/
def addDigit (char : Char) (state : List Char × Nat) : List Char × Nat :=
  let (result, carry) := state
  let digit := char.toNat - 48 + carry
  if 10 ≤ digit then (Char.ofNat (48 + (digit - 10)) :: result, carry)
  else (Char.ofNat (48 + digit) :: result, 0)

def incrementDecimal (value : String) : String :=
  let (result, carry) := value.toList.foldr addDigit ([], 1)
  String.ofList (if carry = 1 then '1' :: result else result)

/-- The member of a sorted set that a price is stored as. -/
def priceMember (price : String) : String :=
  String.ofList (List.replicate (38 - price.utf8ByteSize) '0') ++ price

/-! ## Texts and numbers -/

section Texts

variable {value other : String}

theorem isDigits_iff : isDigits value = true ↔
    value.toList ≠ [] ∧ ∀ char ∈ value.toList, char.isDigit = true := by
  simp [isDigits]

/-- Normalized texts of one number are one text. -/
theorem IsNormalized.eq_of_magnitude (h : IsNormalized value) (hother : IsNormalized other)
    (hmagnitude : magnitude value = magnitude other) : value = other := by
  have hlength : value.length = other.length := by
    rcases lt_trichotomy value.length other.length with hlt | heq | hgt
    · exact absurd hmagnitude (h.lt_of_length_lt hother hlt).ne
    · exact heq
    · exact absurd hmagnitude (hother.lt_of_length_lt h hgt).ne'
  rw [← String.length_toList, ← String.length_toList] at hlength
  exact String.toList_injective
    (eq_of_ofDigitChars h.digit hother.digit hlength (Nat.cast_inj.mp hmagnitude))

/-- Zeros before a number count nothing. -/
theorem ofDigitChars_dropZeros (digits : List Char) :
    Nat.ofDigitChars 10 (digits.dropWhile fun char => char = '0') 0 =
      Nat.ofDigitChars 10 digits 0 := by
  induction digits with
  | nil => rfl
  | cons char rest ih =>
      by_cases hzero : char = '0'
      · rw [List.dropWhile_cons_of_pos (by simp [hzero]), ih, hzero, Nat.ofDigitChars_cons]
        rfl
      · rw [List.dropWhile_cons_of_neg (by simp [hzero])]

theorem head_dropZeros (digits : List Char) :
    (digits.dropWhile fun char => char = '0').head? ≠ some '0' := by
  induction digits with
  | nil => simp
  | cons char rest ih =>
      by_cases hzero : char = '0'
      · rw [List.dropWhile_cons_of_pos (by simp [hzero])]
        exact ih
      · rw [List.dropWhile_cons_of_neg (by simp [hzero])]
        simpa using hzero

/-- Every text of digits is normalized to the text of its number. -/
theorem normalizeDecimal_spec (h : isDigits value = true) : ∃ normalized,
    normalizeDecimal value = some normalized ∧ IsNormalized normalized ∧
      magnitude normalized = magnitude value := by
  obtain ⟨-, hdigits⟩ := isDigits_iff.mp h
  have hvalue := ofDigitChars_dropZeros value.toList
  unfold normalizeDecimal
  rw [if_neg (by simp [h])]
  dsimp only
  split
  · next hempty =>
    rw [String.ofList_eq_empty_iff] at hempty
    rw [hempty] at hvalue
    exact ⟨"0", rfl, .inl rfl, congrArg Nat.cast hvalue⟩
  · next hne =>
    rw [String.ofList_eq_empty_iff] at hne
    refine ⟨_, rfl, .inr ?_, ?_⟩
    · rw [String.toList_ofList]
      exact ⟨fun char hchar => hdigits char ((List.dropWhile_suffix _).subset hchar), hne,
        head_dropZeros _⟩
    · rw [magnitude, String.toList_ofList, hvalue]
      rfl

end Texts

/-! ## Adding one -/

section Increment

variable {digits : List Char}

theorem toNat_digit {number : Nat} (h : number ≤ 9) :
    (Char.ofNat (48 + number)).toNat = 48 + number := by
  interval_cases number <;> rfl

/-- The digits behind the carry denote what the added digits denote. -/
theorem foldr_addDigit (hdigits : ∀ char ∈ digits, char.isDigit = true) :
    ∃ result carry, digits.foldr addDigit ([], 1) = (result, carry) ∧ carry ≤ 1 ∧
      result.length = digits.length ∧ (∀ char ∈ result, char.isDigit = true) ∧
      Nat.ofDigitChars 10 result 0 + carry * 10 ^ digits.length =
        Nat.ofDigitChars 10 digits 0 + 1 := by
  induction digits with
  | nil => exact ⟨[], 1, rfl, le_rfl, rfl, by simp, rfl⟩
  | cons char rest ih =>
      obtain ⟨result, carry, hfold, hcarry, hlength, hresult, hvalue⟩ :=
        ih fun other hother => hdigits other (List.mem_cons_of_mem _ hother)
      have hchar := isDigit_iff_bounds.mp (hdigits char List.mem_cons_self)
      have hnew (number : Nat) (hnumber : number ≤ 9) :
          ∀ other ∈ Char.ofNat (48 + number) :: result, other.isDigit = true := by
        intro other hother
        rcases List.mem_cons.mp hother with rfl | hother
        · rw [isDigit_iff_bounds, toNat_digit hnumber]
          omega
        · exact hresult other hother
      rw [List.foldr_cons, hfold, addDigit, ofDigitChars_leading char rest, List.length_cons, pow_succ]
      split
      · next hten =>
        refine ⟨_, carry, rfl, hcarry, by simp [hlength], hnew _ (by omega), ?_⟩
        rw [ofDigitChars_leading, toNat_digit (by omega), hlength]
        obtain rfl : carry = 1 := by omega
        have hnine : char.toNat - 48 = 9 := by omega
        rw [hnine]
        omega
      · next hten =>
        refine ⟨_, 0, rfl, by omega, by simp [hlength], hnew _ (by omega), ?_⟩
        rw [ofDigitChars_leading, toNat_digit (by omega), hlength, Nat.add_sub_cancel_left,
          Nat.mul_add]
        rcases Nat.le_one_iff_eq_zero_or_eq_one.mp hcarry with rfl | rfl
        · omega
        · omega

/-- The successor of a normalized text is normalized. -/
theorem incrementDecimal_spec {value : String} (h : IsNormalized value) :
    IsNormalized (incrementDecimal value) ∧
      magnitude (incrementDecimal value) = magnitude value + 1 := by
  obtain ⟨result, carry, hfold, hcarry, hlength, hresult, hvalue⟩ := foldr_addDigit h.digit
  rw [incrementDecimal, hfold]
  dsimp only
  rcases Nat.le_one_iff_eq_zero_or_eq_one.mp hcarry with rfl | rfl
  · rw [if_neg (by omega)]
    rw [zero_mul, add_zero] at hvalue
    have hne : value.toList ≠ [] := by
      rcases h with rfl | h
      · simp
      · exact h.nonempty
    have hlarge : 10 ^ (result.length - 1) ≤ Nat.ofDigitChars 10 result 0 := by
      rw [hvalue, hlength]
      rcases h with rfl | h
      · exact le_rfl
      · exact h.pow_le.trans (Nat.le_succ _)
    refine ⟨.inr ?_, ?_⟩
    · rw [String.toList_ofList]
      refine ⟨hresult, ?_, head_ne_zero hresult hlarge⟩
      rw [← List.length_pos_iff, hlength]
      exact List.length_pos_of_ne_nil hne
    · rw [magnitude, String.toList_ofList, hvalue]
      rfl
  · rw [if_pos rfl]
    refine ⟨.inr ?_, ?_⟩
    · rw [String.toList_ofList]
      refine ⟨?_, by simp, by simp⟩
      intro char hchar
      rcases List.mem_cons.mp hchar with rfl | hchar
      · rfl
      · exact hresult char hchar
    · rw [magnitude, String.toList_ofList, ofDigitChars_leading, hlength, add_comm]
      have hone : 10 ^ value.toList.length * ('1'.toNat - 48) = 1 * 10 ^ value.toList.length :=
        mul_comm _ _
      exact congrArg Nat.cast (by rw [hone, hvalue])

end Increment

/-! ## Sorted prices -/

section Prices

variable {price other : String}

theorem toList_priceMember (h : IsExact price) : (priceMember price).toList =
    List.replicate (38 - price.toList.length) '0' ++ price.toList := by
  rw [priceMember, String.toList_append, String.toList_ofList, h.utf8ByteSize_eq,
    String.length_toList]

/-- Members are in the order of their prices. -/
theorem priceMember_lt_iff (h : IsExact price) (hother : IsExact other) :
    priceMember price < priceMember other ↔ magnitude price < magnitude other := by
  have hdigits {text : String} (htext : IsExact text) :
      ∀ char ∈ (priceMember text).toList, char.isDigit = true := by
    rw [toList_priceMember htext]
    intro char hchar
    rw [List.mem_append, List.mem_replicate] at hchar
    rcases hchar with ⟨-, rfl⟩ | hchar
    · rfl
    · exact htext.numeral.digit char hchar
  have hlength {text : String} (htext : IsExact text) : (priceMember text).toList.length = 38 := by
    have hbounded := htext.bounded
    rw [toList_priceMember htext, List.length_append, List.length_replicate, String.length_toList]
    omega
  have hvalue {text : String} (htext : IsExact text) :
      Nat.ofDigitChars 10 (priceMember text).toList 0 = Nat.ofDigitChars 10 text.toList 0 := by
    rw [toList_priceMember htext, Nat.ofDigitChars_append, Nat.ofDigitChars_replicate_zero,
      mul_zero]
  rw [String.lt_iff, ← ofDigitChars_lt_iff (hdigits h) (hdigits hother)
    ((hlength h).trans (hlength hother).symm), hvalue h, hvalue hother]
  exact Nat.cast_lt.symm

theorem priceMember_injective (h : IsExact price) (hother : IsExact other)
    (hmember : priceMember price = priceMember other) : price = other := by
  have hmagnitude : magnitude price = magnitude other := by
    apply le_antisymm
    · rw [← not_lt, ← priceMember_lt_iff hother h, hmember]
      exact lt_irrefl _
    · rw [← not_lt, ← priceMember_lt_iff h hother, hmember]
      exact lt_irrefl _
  exact IsNormalized.eq_of_magnitude (.inr h.numeral) (.inr hother.numeral) hmagnitude

end Prices

/-- The texts of the script count as the numbers that they denote. -/
theorem decimals_count :
    (∀ value other, isDigits value = true → isDigits other = true →
      (normalizeDecimal value = normalizeDecimal other ↔ magnitude value = magnitude other)) ∧
    (∀ value other left right, normalizeDecimal value = some left →
      normalizeDecimal other = some right →
      (compareDecimal left right < 0 ↔ magnitude value < magnitude other) ∧
        (compareDecimal left right = 0 ↔ magnitude value = magnitude other) ∧
        (0 < compareDecimal left right ↔ magnitude other < magnitude value)) ∧
    (∀ value successor normalized, normalizeDecimal value = some normalized →
      isDigits successor = true → magnitude successor = magnitude value + 1 →
      normalizeDecimal successor = some (incrementDecimal normalized)) ∧
    ∀ price other, validExact price = true → validExact other = true →
      (priceMember price < priceMember other ↔ magnitude price < magnitude other) ∧
        (priceMember price = priceMember other → price = other) := by
  have hspec {value normalized : String} (h : normalizeDecimal value = some normalized) :
      IsNormalized normalized ∧ magnitude normalized = magnitude value := by
    have hdigits : isDigits value = true := by
      by_contra hnot
      rw [normalizeDecimal, if_pos (Bool.not_eq_true _ ▸ hnot)] at h
      cases h
    obtain ⟨text, htext, hnormalized, hmagnitude⟩ := normalizeDecimal_spec hdigits
    rw [h] at htext
    cases htext
    exact ⟨hnormalized, hmagnitude⟩
  refine ⟨?_, ?_, ?_, ?_⟩
  · intro value other hvalue hother
    obtain ⟨left, hleft, hnormal, hmagnitude⟩ := normalizeDecimal_spec hvalue
    obtain ⟨right, hright, hnormal', hmagnitude'⟩ := normalizeDecimal_spec hother
    rw [hleft, hright, ← hmagnitude, ← hmagnitude', Option.some.injEq]
    exact ⟨congrArg magnitude, hnormal.eq_of_magnitude hnormal'⟩
  · intro value other left right hleft hright
    obtain ⟨hnormal, hmagnitude⟩ := hspec hleft
    obtain ⟨hnormal', hmagnitude'⟩ := hspec hright
    have hcases := compareDecimal_of_normalized hnormal hnormal'
    rw [← hmagnitude, ← hmagnitude']
    omega
  · intro value successor normalized hnormalized hsuccessor hmagnitude
    obtain ⟨hnormal, hvalue⟩ := hspec hnormalized
    obtain ⟨hincremented, hnext⟩ := incrementDecimal_spec hnormal
    obtain ⟨text, htext, htextNormal, htextMagnitude⟩ := normalizeDecimal_spec hsuccessor
    rw [htext, Option.some.injEq]
    apply htextNormal.eq_of_magnitude hincremented
    rw [htextMagnitude, hmagnitude, hnext, hvalue]
  · intro price other hprice hother
    rw [validExact_iff] at hprice hother
    exact ⟨priceMember_lt_iff hprice hother, priceMember_injective hprice hother⟩

theorem decimals_count_hundred :
    (normalizeDecimal "099" = normalizeDecimal "99" ↔ magnitude "099" = magnitude "99") ∧
    (compareDecimal "99" "100" < 0 ↔ magnitude "099" < magnitude "100") ∧
    normalizeDecimal "100" = some (incrementDecimal "99") ∧
    (priceMember "99" < priceMember "100" ↔ magnitude "99" < magnitude "100") :=
  ⟨decimals_count.1 "099" "99" (by decide +kernel) (by decide +kernel),
    (decimals_count.2.1 "099" "100" "99" "100" (by decide +kernel) (by decide +kernel)).1,
    decimals_count.2.2.1 "99" "100" "99" (by decide +kernel) (by decide +kernel)
      (by decide +kernel),
    (decimals_count.2.2.2 "99" "100" (by decide +kernel) (by decide +kernel)).1⟩

end MatchPlane
