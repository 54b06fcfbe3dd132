import MatchPlane.Library.JsonLiterals

/-!
# Exact decimals of rates

A rate is kept as a decimal text.  The shift of the decimal point, the stripping of zeros and
the comparison with the limit work on digits, never on a floating point number.
-/

namespace MatchPlane.ExchangeRate

open MatchPlane.Library

/-- The digits of an exponent after its sign. -/
def exponentDigits (exponentText : CodeUnits) : CodeUnits :=
  exponentText.drop (scanSign exponentText).length

/-- `/^[+-]?\d{1,3}$/` -/
def isShortExponent (exponentText : CodeUnits) : Bool :=
  (exponentDigits exponentText).all isDecimalDigit ∧
    1 ≤ (exponentDigits exponentText).length ∧ (exponentDigits exponentText).length ≤ 3

/-- `Number` of an exponent. -/
def exponentNumber (exponentText : CodeUnits) : Int :=
  if scanSign exponentText = [45] then -(numberOfUnits (exponentDigits exponentText) : Int)
  else numberOfUnits (exponentDigits exponentText)

def expandDecimal (integer fraction : CodeUnits) (exponent : Int) : CodeUnits :=
  let digits := integer ++ fraction
  let decimalIndex : Int := integer.length + exponent
  if decimalIndex ≤ 0 then 48 :: 46 :: (List.replicate (-decimalIndex).toNat 48 ++ digits)
  else if digits.length ≤ decimalIndex then
    digits ++ List.replicate (decimalIndex - digits.length).toNat 48
  else digits.take decimalIndex.toNat ++ 46 :: digits.drop decimalIndex.toNat

/-- `10 ^ 12` -/
def rateLimit : CodeUnits := 49 :: List.replicate 12 48

def exactRateExceedsLimit (whole fraction : CodeUnits) : Bool :=
  if whole.length ≠ 13 then 13 < whole.length
  else if whole ≠ rateLimit then rateLimit < whole
  else 0 < fraction.length

/-- The part of a text before its first point. -/
def beforePoint (text : CodeUnits) : CodeUnits := text.takeWhile (· != 46)

/-- The part between the first point and the next one. -/
def afterPoint (text : CodeUnits) : CodeUnits :=
  ((text.dropWhile (· != 46)).drop 1).takeWhile (· != 46)

/-- Zeros at the start go, as long as a digit follows. -/
def stripLeadingZeros : CodeUnits → CodeUnits
  | 48 :: next :: rest =>
      if isDecimalDigit next then stripLeadingZeros (next :: rest) else 48 :: next :: rest
  | text => text

def stripTrailingZeros (text : CodeUnits) : CodeUnits := text.rdropWhile (· == 48)

def normalizeExactPositiveDecimal (value : JsValue) : Option CodeUnits :=
  match value with
  | .string value =>
      if 256 < value.length then none
      else
        match readLiteral value with
        | none => none
        | some literal =>
            -- The pattern has no sign.
            if literal.negative then none
            else
              let exponentText := (literal.exponent.map Exponent.number).getD [48]
              if !isShortExponent exponentText then none
              else if 100 < |exponentNumber exponentText| then none
              else
                let expanded := expandDecimal literal.integer.units literal.fraction.units
                  (exponentNumber exponentText)
                let whole := stripLeadingZeros (beforePoint expanded)
                let fraction := stripTrailingZeros (afterPoint expanded)
                let normalized := if fraction = [] then whole else whole ++ 46 :: fraction
                if !normalized.any fun unit => 49 ≤ unit.toNat ∧ unit.toNat ≤ 57 then none
                else if exactRateExceedsLimit whole fraction then none
                else some normalized
  | _ => none

/-- A decimal without zeros that say nothing. -/
@[ext] structure PlainDecimal where
  whole : IntegerPart
  fraction : Digits
  trailing : fraction.units.getLast? ≠ some 48

def decimalValue (whole fraction : CodeUnits) : Rat :=
  (numberOfUnits (whole ++ fraction) : Rat) / 10 ^ fraction.length

namespace PlainDecimal

variable (decimal : PlainDecimal)

def text : CodeUnits := decimal.whole.units ++ decimal.fraction.pointed

def value : Rat := decimalValue decimal.whole.units decimal.fraction.units

end PlainDecimal

/-! ## Expanding -/

theorem decimalValue_zeros (whole digits : CodeUnits) (count : Nat) :
    decimalValue (whole ++ digits ++ List.replicate count 48) [] =
      numberOfUnits (whole ++ digits) * 10 ^ (count : Int) := by
  rw [decimalValue, List.append_nil, numberOfUnits_append, numberOfUnits_zeros,
    List.length_replicate]
  push_cast
  rw [List.length_nil, pow_zero, div_one, add_zero, zpow_natCast, mul_comm]

theorem expandDecimal_parts (integer : IntegerPart) (fraction : Digits) (exponent : Int) :
    ∃ whole after : Digits, whole.units ≠ [] ∧
      expandDecimal integer.units fraction.units exponent = whole.units ++ after.pointed ∧
      decimalValue whole.units after.units =
        numberOfUnits (integer.units ++ fraction.units) *
          10 ^ (exponent - fraction.units.length) := by
  have hdigits : ∀ unit ∈ integer.units ++ fraction.units, isDecimalDigit unit = true := by
    intro unit hunit
    rcases List.mem_append.mp hunit with h | h
    · exact integer.valid unit h
    · exact fraction.valid unit h
  have hpositive := List.length_pos_iff.mpr integer.nonempty
  have hlength : (integer.units ++ fraction.units).length =
      integer.units.length + fraction.units.length := List.length_append
  have hsome : integer.units ++ fraction.units ≠ [] := by simp [integer.nonempty]
  unfold expandDecimal
  dsimp only
  generalize hall : integer.units ++ fraction.units = digits at *
  split
  · rename_i hindex
    -- The point goes before all the digits.
    refine ⟨⟨[48], by simp [isDecimalDigit]⟩,
      ⟨List.replicate (-(integer.units.length + exponent)).toNat 48 ++ digits, ?_⟩,
      List.cons_ne_nil _ _, ?_, ?_⟩
    · intro unit hunit
      rcases List.mem_append.mp hunit with hzero | hdigit
      · rw [List.eq_of_mem_replicate hzero]
        simp [isDecimalDigit]
      · exact hdigits unit hdigit
    · simp [Digits.pointed, hsome]
    · have hvalue : numberOfUnits
          ([48] ++ (List.replicate (-(integer.units.length + exponent)).toNat 48 ++ digits)) =
          numberOfUnits digits := by
        have hzeros := numberOfUnits_zeros
          ((-(integer.units.length + exponent)).toNat + 1)
        rw [← List.append_assoc, List.singleton_append, ← List.replicate_succ,
          numberOfUnits_append, hzeros]
        simp
      have hshift : exponent - fraction.units.length = -(((List.replicate
          (-(integer.units.length + exponent)).toNat (48 : UInt16) ++ digits).length : Nat) : Int)
          := by
        rw [List.length_append, List.length_replicate]
        omega
      rw [decimalValue, hvalue, hshift, zpow_neg, zpow_natCast, div_eq_mul_inv]
  · rename_i hindex
    split
    · rename_i hbeyond
      -- The point goes after all the digits.
      refine ⟨⟨digits ++ List.replicate (integer.units.length + exponent - digits.length).toNat 48,
        ?_⟩, ⟨[], by simp⟩, ?_, by simp [Digits.pointed], ?_⟩
      · intro unit hunit
        rcases List.mem_append.mp hunit with hdigit | hzero
        · exact hdigits unit hdigit
        · rw [List.eq_of_mem_replicate hzero]
          simp [isDecimalDigit]
      · simp [hsome]
      · have hzeros := decimalValue_zeros [] digits
          (integer.units.length + exponent - digits.length).toNat
        have hshift : ((integer.units.length + exponent - digits.length).toNat : Int) =
            exponent - fraction.units.length := by omega
        rw [hshift] at hzeros
        exact hzeros
    · rename_i hinside
      refine ⟨⟨digits.take (integer.units.length + exponent).toNat,
        fun unit hunit => hdigits unit (List.mem_of_mem_take hunit)⟩,
        ⟨digits.drop (integer.units.length + exponent).toNat,
          fun unit hunit => hdigits unit (List.mem_of_mem_drop hunit)⟩, ?_, ?_, ?_⟩
      · apply List.ne_nil_of_length_pos
        rw [List.length_take]
        omega
      · have hsome : digits.drop (integer.units.length + exponent).toNat ≠ [] := by
          apply List.ne_nil_of_length_pos
          rw [List.length_drop]
          omega
        simp only [Digits.pointed, hsome, if_false]
      · have hshift : exponent - fraction.units.length =
            -((digits.drop (integer.units.length + exponent).toNat).length : Int) := by
          rw [List.length_drop]
          omega
        rw [decimalValue, List.take_append_drop, hshift, zpow_neg, zpow_natCast, div_eq_mul_inv]

/-! ## Splitting and stripping -/

theorem not_point_of_digits (digits : Digits) :
    ∀ unit ∈ digits.units, (unit != 46) = true := by
  intro unit hunit
  have hdigit := digits.valid unit hunit
  rw [bne_iff_ne]
  rintro rfl
  simp [isDecimalDigit] at hdigit

theorem beforePoint_parts (whole after : Digits) :
    beforePoint (whole.units ++ after.pointed) = whole.units := by
  rw [beforePoint, List.takeWhile_append_of_pos (not_point_of_digits whole)]
  by_cases hempty : after.units = []
  · simp [Digits.pointed, hempty]
  · simp [Digits.pointed, hempty]

theorem afterPoint_parts (whole after : Digits) :
    afterPoint (whole.units ++ after.pointed) = after.units := by
  rw [afterPoint, List.dropWhile_append_of_pos (not_point_of_digits whole)]
  by_cases hempty : after.units = []
  · simp [Digits.pointed, hempty]
  · have hall : after.units.takeWhile (· != 46) = after.units :=
      List.takeWhile_eq_self_iff.mpr (not_point_of_digits after)
    simp [Digits.pointed, hempty, hall]

theorem stripLeadingZeros_whole (digits : CodeUnits)
    (hdigits : ∀ unit ∈ digits, isDecimalDigit unit = true) (hsome : digits ≠ []) :
    ∃ integer : IntegerPart, stripLeadingZeros digits = integer.units ∧
      ∀ rest, numberOfUnits (integer.units ++ rest) = numberOfUnits (digits ++ rest) := by
  fun_induction stripLeadingZeros digits with
  | case1 next rest hnext ih =>
      rw [List.forall_mem_cons] at hdigits
      obtain ⟨integer, hstrip, hvalue⟩ := ih hdigits.2 (List.cons_ne_nil _ _)
      refine ⟨integer, hstrip, fun after => ?_⟩
      have hzero : numberOfUnits [48] = 0 := numberOfUnits_zeros 1
      rw [hvalue after, ← List.singleton_append (x := 48), List.append_assoc,
        numberOfUnits_append [48], hzero]
      simp
  | case2 next rest hnext =>
      have hdigit := hdigits next (by simp)
      exact absurd hdigit hnext
  | case3 text hother =>
      refine ⟨⟨⟨text, hdigits⟩, hsome, fun hhead => ?_⟩, rfl, fun _ => rfl⟩
      cases text with
      | nil => cases hhead
      | cons unit rest =>
          obtain rfl : unit = 48 := by simpa using hhead
          cases rest with
          | nil => rfl
          | cons next rest => exact absurd rfl (hother next rest)

theorem stripTrailingZeros_fraction (fraction : Digits) (whole : CodeUnits) :
    ∃ stripped : Digits, stripTrailingZeros fraction.units = stripped.units ∧
      stripped.units.getLast? ≠ some 48 ∧
      decimalValue whole stripped.units = decimalValue whole fraction.units := by
  obtain ⟨units, hdigits⟩ := fraction
  dsimp only
  induction units using List.reverseRecOn with
  | nil => exact ⟨⟨[], by simp⟩, rfl, by simp, rfl⟩
  | append_singleton units unit ih =>
      have hunits : ∀ digit ∈ units, isDecimalDigit digit = true := fun digit hdigit =>
        hdigits digit (List.mem_append_left _ hdigit)
      by_cases hzero : unit = 48
      · obtain ⟨stripped, hstrip, hlast, hvalue⟩ := ih hunits
        refine ⟨stripped, ?_, hlast, hvalue.trans ?_⟩
        · rw [← hstrip, stripTrailingZeros, stripTrailingZeros, List.rdropWhile_concat_pos]
          simp [hzero]
        · have hnumber : numberOfUnits (whole ++ (units ++ [unit])) =
              10 * numberOfUnits (whole ++ units) := by
            have hlastZero : numberOfUnits [unit] = 0 := by
              rw [hzero]
              exact numberOfUnits_zeros 1
            rw [← List.append_assoc, numberOfUnits_append, hlastZero]
            simp
          rw [decimalValue, decimalValue, hnumber, List.length_append, List.length_singleton,
            pow_succ]
          push_cast
          rw [mul_comm (10 : Rat), mul_div_mul_right _ _ (by norm_num)]
      · refine ⟨⟨units ++ [unit], hdigits⟩, ?_, by simp [hzero], rfl⟩
        rw [stripTrailingZeros, List.rdropWhile_concat_neg]
        simp [hzero]

/-! ## Comparing -/

namespace PlainDecimal

variable (decimal : PlainDecimal)

theorem valid : ∀ unit ∈ decimal.whole.units ++ decimal.fraction.units,
    isDecimalDigit unit = true := by
  intro unit hunit
  rcases List.mem_append.mp hunit with h | h
  · exact decimal.whole.valid unit h
  · exact decimal.fraction.valid unit h

/-- A fraction that is written counts. -/
theorem fraction_pos_iff :
    0 < numberOfUnits decimal.fraction.units ↔ decimal.fraction.units ≠ [] := by
  rw [numberOfUnits_pos_iff decimal.fraction.valid]
  constructor
  · rintro ⟨unit, hunit, -⟩ hnil
    rw [hnil] at hunit
    cases hunit
  · intro hsome
    have hlast := List.getLast?_eq_some_getLast hsome
    refine ⟨_, List.getLast_mem hsome, fun hzero => ?_⟩
    rw [hzero] at hlast
    exact decimal.trailing hlast

theorem value_pos_iff : 0 < decimal.value ↔
    (decimal.text.any fun unit => 49 ≤ unit.toNat ∧ unit.toNat ≤ 57) = true := by
  have hpositive : 0 < decimal.value ↔
      0 < numberOfUnits (decimal.whole.units ++ decimal.fraction.units) := by
    rw [value, decimalValue, div_pos_iff_of_pos_right (by positivity), Nat.cast_pos]
  have hdigit : ∀ unit, isDecimalDigit unit = true →
      (unit ≠ 48 ↔ 49 ≤ unit.toNat ∧ unit.toNat ≤ 57) := by
    intro unit hunit
    have hbounds := isDecimalDigit_iff.mp hunit
    rw [ne_eq, ← UInt16.toNat_inj]
    change ¬unit.toNat = 48 ↔ _
    omega
  rw [hpositive, numberOfUnits_pos_iff decimal.valid, List.any_eq_true]
  simp only [decide_eq_true_eq]
  constructor
  · rintro ⟨unit, hunit, hzero⟩
    refine ⟨unit, ?_, (hdigit unit (decimal.valid unit hunit)).mp hzero⟩
    rcases List.mem_append.mp hunit with h | h
    · exact List.mem_append_left _ h
    · have hsome : decimal.fraction.units ≠ [] := List.ne_nil_of_mem h
      exact List.mem_append_right _ (by simp [Digits.pointed, hsome, h])
  · rintro ⟨unit, hunit, hbounds⟩
    have hmem : unit ∈ decimal.whole.units ++ decimal.fraction.units := by
      rcases List.mem_append.mp hunit with h | h
      · exact List.mem_append_left _ h
      · rw [Digits.pointed] at h
        split at h
        · cases h
        · rcases List.mem_cons.mp h with rfl | h
          · exact absurd hbounds (by decide)
          · exact List.mem_append_right _ h
    exact ⟨unit, hmem, (hdigit unit (decimal.valid unit hmem)).mpr hbounds⟩

theorem limit_lt_value_iff : 10 ^ 12 < decimal.value ↔
    10 ^ 12 < numberOfUnits decimal.whole.units ∨
      numberOfUnits decimal.whole.units = 10 ^ 12 ∧ decimal.fraction.units ≠ [] := by
  have hfraction := numberOfUnits_lt decimal.fraction.valid
  have hscale : 10 ^ 12 < decimal.value ↔ 10 ^ decimal.fraction.units.length * 10 ^ 12 <
      10 ^ decimal.fraction.units.length * numberOfUnits decimal.whole.units +
        numberOfUnits decimal.fraction.units := by
    rw [value, decimalValue, lt_div_iff₀ (by positivity), numberOfUnits_append]
    norm_cast
    rw [mul_comm]
  rw [hscale, ← decimal.fraction_pos_iff]
  generalize numberOfUnits decimal.whole.units = whole
  generalize numberOfUnits decimal.fraction.units = fraction at *
  generalize 10 ^ decimal.fraction.units.length = scale at *
  rcases lt_trichotomy whole (10 ^ 12) with hlt | rfl | hgt
  · have hbound : scale * (whole + 1) ≤ scale * 10 ^ 12 := Nat.mul_le_mul_left _ hlt
    rw [mul_add, mul_one] at hbound
    omega
  · simp
  · have hbound : scale * (10 ^ 12 + 1) ≤ scale * whole := Nat.mul_le_mul_left _ hgt
    rw [mul_add, mul_one] at hbound
    omega

theorem exceeds_iff : exactRateExceedsLimit decimal.whole.units decimal.fraction.units = true ↔
    10 ^ 12 < decimal.value := by
  have hlimit : numberOfUnits rateLimit = 10 ^ 12 := by
    rw [rateLimit, numberOfUnits_cons, numberOfUnits_zeros]
    rfl
  have hlimitDigits : ∀ unit ∈ rateLimit, isDecimalDigit unit = true := by
    simp [rateLimit, isDecimalDigit]
  have hbound := numberOfUnits_lt decimal.whole.valid
  rw [limit_lt_value_iff, exactRateExceedsLimit]
  split
  · rename_i hlength
    rw [decide_eq_true_eq]
    constructor
    · intro hlong
      cases hunits : decimal.whole.units with
      | nil => exact absurd hunits decimal.whole.nonempty
      | cons unit rest =>
          rw [hunits, List.length_cons] at hlong
          have hzero : unit ≠ 48 := by
            rintro rfl
            have halone := decimal.whole.leading (by rw [hunits]; rfl)
            rw [hunits] at halone
            simp [List.cons_eq_cons.mp halone |>.2] at hlong
          have hpow := pow_le_numberOfUnits rest
            (decimal.whole.valid unit (by simp [hunits])) hzero
          have hmono : 10 ^ 13 ≤ 10 ^ rest.length := Nat.pow_le_pow_right (by omega) (by omega)
          exact .inl (by omega)
    · intro hvalue
      by_contra hshort
      have hmono : 10 ^ decimal.whole.units.length ≤ 10 ^ 12 :=
        Nat.pow_le_pow_right (by omega) (by omega)
      omega
  · rename_i hlength
    have hsame : rateLimit.length = decimal.whole.units.length := by
      rw [not_not] at hlength
      rw [hlength]
      rfl
    have hlt := numberOfUnits_lt_iff hlimitDigits decimal.whole.valid hsame
    have heq := numberOfUnits_inj hlimitDigits decimal.whole.valid hsame
    rw [hlimit] at hlt heq
    split
    · rename_i hother
      have hne : numberOfUnits decimal.whole.units ≠ 10 ^ 12 := fun hvalue =>
        hother (heq.mp hvalue.symm).symm
      rw [decide_eq_true_eq, ← hlt]
      exact ⟨.inl, fun h => h.resolve_right fun hsame => hne hsame.1⟩
    · rename_i hlimited
      rw [not_not] at hlimited
      have hvalue := heq.mpr hlimited.symm
      rw [decide_eq_true_eq, List.length_pos_iff]
      simp [← hvalue]

/-! ## One text for one number -/

theorem value_eq : decimal.value = numberOfUnits decimal.whole.units +
    (numberOfUnits decimal.fraction.units : Rat) / 10 ^ decimal.fraction.units.length := by
  rw [value, decimalValue, numberOfUnits_append]
  push_cast
  rw [add_div, mul_div_cancel_left₀ _ (by positivity)]

theorem floor_value : ⌊decimal.value⌋ = numberOfUnits decimal.whole.units := by
  have hfraction := numberOfUnits_lt decimal.fraction.valid
  have hpart : (numberOfUnits decimal.fraction.units : Rat) /
      10 ^ decimal.fraction.units.length < 1 := by
    rw [div_lt_one (by positivity)]
    exact_mod_cast hfraction
  rw [Int.floor_eq_iff, value_eq]
  constructor
  · simp only [Int.cast_natCast, le_add_iff_nonneg_right]
    positivity
  · simpa using hpart

/-- Whole parts that denote one number have one length. -/
theorem length_le_of_value {first second : IntegerPart}
    (h : numberOfUnits first.units = numberOfUnits second.units) :
    first.units.length ≤ second.units.length := by
  by_contra hlonger
  have hsecond := numberOfUnits_lt second.valid
  have hnonempty := List.length_pos_iff.mpr second.nonempty
  cases hunits : first.units with
  | nil => exact absurd hunits first.nonempty
  | cons unit rest =>
      rw [hunits, List.length_cons] at hlonger
      have hzero : unit ≠ 48 := by
        rintro rfl
        have halone := first.leading (by rw [hunits]; rfl)
        rw [hunits] at halone
        simp [(List.cons_eq_cons.mp halone).2] at hlonger
        exact second.nonempty hlonger
      have hpow := pow_le_numberOfUnits rest (first.valid unit (by simp [hunits])) hzero
      have hmono : 10 ^ second.units.length ≤ 10 ^ rest.length :=
        Nat.pow_le_pow_right (by omega) (by omega)
      rw [← hunits] at hpow
      omega

theorem whole_eq_of_value {first second : IntegerPart}
    (h : numberOfUnits first.units = numberOfUnits second.units) : first = second :=
  IntegerPart.ext ((numberOfUnits_inj first.valid second.valid
    (le_antisymm (length_le_of_value h) (length_le_of_value h.symm))).mp h)

/-- A longer fraction of the same value would end in a zero. -/
theorem fraction_length_le {first second : PlainDecimal}
    (h : (numberOfUnits first.fraction.units : Rat) / 10 ^ first.fraction.units.length =
      numberOfUnits second.fraction.units / 10 ^ second.fraction.units.length) :
    first.fraction.units.length ≤ second.fraction.units.length := by
  by_contra hlonger
  obtain ⟨extra, hextra⟩ := Nat.exists_eq_add_of_lt (not_le.mp hlonger)
  have hscaled : numberOfUnits first.fraction.units =
      10 * (10 ^ extra * numberOfUnits second.fraction.units) := by
    rw [hextra, div_eq_div_iff (by positivity) (by positivity), pow_add, pow_add] at h
    have hsecond : (10 : Rat) ^ second.fraction.units.length ≠ 0 := by positivity
    have hcast : (numberOfUnits first.fraction.units : Rat) =
        10 * (10 ^ extra * numberOfUnits second.fraction.units) := by
      apply mul_right_cancel₀ hsecond
      rw [h]
      ring
    exact_mod_cast hcast
  have hsome : first.fraction.units ≠ [] := by
    intro hnil
    rw [hnil] at hlonger
    exact hlonger (Nat.zero_le _)
  have hlast := List.dropLast_append_getLast hsome
  have hdigit := first.fraction.valid _ (List.getLast_mem hsome)
  have hbounds := isDecimalDigit_iff.mp hdigit
  have hnumber := numberOfUnits_append first.fraction.units.dropLast
    [first.fraction.units.getLast hsome]
  rw [hlast, numberOfUnits_cons, digitChar_toNat hdigit, hscaled] at hnumber
  simp only [List.length_nil, List.length_singleton, pow_zero, pow_one, one_mul,
    numberOfUnits_nil, add_zero] at hnumber
  have hzero : (first.fraction.units.getLast hsome).toNat = 48 := by omega
  apply first.trailing
  have hlastZero : first.fraction.units.getLast hsome = 48 :=
    UInt16.toNat_inj.mp (show _ = (48 : UInt16).toNat from hzero)
  rw [List.getLast?_eq_some_getLast hsome, hlastZero]

theorem eq_of_value {first second : PlainDecimal} (h : first.value = second.value) :
    first = second := by
  have hwhole : numberOfUnits first.whole.units = numberOfUnits second.whole.units := by
    have hfloor := congrArg Int.floor h
    rw [floor_value, floor_value] at hfloor
    exact_mod_cast hfloor
  have hparts : (numberOfUnits first.fraction.units : Rat) / 10 ^ first.fraction.units.length =
      numberOfUnits second.fraction.units / 10 ^ second.fraction.units.length := by
    rw [value_eq, value_eq, hwhole] at h
    exact add_left_cancel h
  have hlength := le_antisymm (fraction_length_le hparts) (fraction_length_le hparts.symm)
  have hfraction : numberOfUnits first.fraction.units = numberOfUnits second.fraction.units := by
    rw [hlength, div_left_inj' (by positivity)] at hparts
    exact_mod_cast hparts
  exact PlainDecimal.ext (whole_eq_of_value hwhole) (Digits.ext
    ((numberOfUnits_inj first.fraction.valid second.fraction.valid hlength).mp hfraction))

end PlainDecimal

/-! ## Normalizing -/

theorem exponentDigits_number (exponent : Exponent) :
    exponentDigits exponent.number = exponent.digits.units ∧
      scanSign exponent.number = exponent.sign := by
  have hsign := scanSign_append exponent []
  rw [List.append_nil] at hsign
  rw [exponentDigits, hsign, Exponent.number, List.drop_left]
  exact ⟨rfl, rfl⟩

theorem exponentNumber_literal (literal : NumberLiteral) :
    exponentNumber ((literal.exponent.map Exponent.number).getD [48]) = literal.exponentValue := by
  cases hexponent : literal.exponent with
  | none =>
      rw [NumberLiteral.exponentValue, hexponent]
      rfl
  | some exponent =>
      obtain ⟨hdigits, hsign⟩ := exponentDigits_number exponent
      simp only [NumberLiteral.exponentValue, hexponent, Option.map_some, Option.getD_some,
        exponentNumber, hdigits, hsign, Exponent.value]

theorem isShortExponent_literal (literal : NumberLiteral) :
    isShortExponent ((literal.exponent.map Exponent.number).getD [48]) = true ↔
      ∀ exponent ∈ literal.exponent, exponent.digits.units.length ≤ 3 := by
  cases hexponent : literal.exponent with
  | none =>
      have hzero : isShortExponent [48] = true := by
        simp [isShortExponent, exponentDigits, scanSign, isDecimalDigit]
      simp [hzero]
  | some exponent =>
      obtain ⟨hdigits, -⟩ := exponentDigits_number exponent
      have hall : exponent.digits.units.all isDecimalDigit = true :=
        List.all_eq_true.mpr exponent.digits.valid
      have hpositive := List.length_pos_iff.mpr exponent.nonempty
      simp only [Option.map_some, Option.getD_some, isShortExponent, hdigits, hall,
        Option.mem_def, Option.some.injEq, forall_eq', true_and, decide_eq_true_eq]
      omega

/-- What becomes of a literal without a sign whose exponent is small. -/
theorem normalize_unsigned {text : CodeUnits} {literal : NumberLiteral}
    (hread : readLiteral text = some literal) (hsize : text.length ≤ 256)
    (hshort : ∀ exponent ∈ literal.exponent, exponent.digits.units.length ≤ 3)
    (hsmall : |literal.exponentValue| ≤ 100) (hsign : literal.negative = false) :
    ∃ decimal : PlainDecimal, decimal.value = literal.value ∧
      normalizeExactPositiveDecimal (.string text) =
        if 0 < literal.value ∧ literal.value ≤ 10 ^ 12 then some decimal.text else none := by
  obtain ⟨whole, after, hsome, hexpanded, hvalue⟩ :=
    expandDecimal_parts literal.integer literal.fraction literal.exponentValue
  obtain ⟨integer, hinteger, hwhole⟩ := stripLeadingZeros_whole whole.units whole.valid hsome
  obtain ⟨fraction, hfraction, htrailing, hafter⟩ :=
    stripTrailingZeros_fraction after integer.units
  have hdecimal : PlainDecimal.value ⟨integer, fraction, htrailing⟩ = literal.value := by
    have hsame : decimalValue integer.units after.units =
        decimalValue whole.units after.units := by
      rw [decimalValue, decimalValue, hwhole]
    rw [PlainDecimal.value, hafter, hsame, hvalue, NumberLiteral.value, hsign]
    simp [NumberLiteral.digits]
  refine ⟨⟨integer, fraction, htrailing⟩, hdecimal, ?_⟩
  have htext : (if fraction.units = [] then integer.units
      else integer.units ++ 46 :: fraction.units) =
      PlainDecimal.text ⟨integer, fraction, htrailing⟩ := by
    rw [PlainDecimal.text, Digits.pointed]
    split
    · rw [List.append_nil]
    · rfl
  have hlarge := PlainDecimal.exceeds_iff ⟨integer, fraction, htrailing⟩
  have hpositive := PlainDecimal.value_pos_iff ⟨integer, fraction, htrailing⟩
  rw [hdecimal] at hlarge hpositive
  have hshortText := (isShortExponent_literal literal).mpr hshort
  simp only [normalizeExactPositiveDecimal, hread, hsign, hshortText, exponentNumber_literal,
    hexpanded, beforePoint_parts, afterPoint_parts, hinteger, hfraction, htext]
  rw [if_neg (by omega), if_neg (by simp), if_neg (by simp), if_neg (by omega)]
  by_cases hzero : 0 < literal.value
  · rw [hpositive.mp hzero, Bool.not_true, if_neg (by simp)]
    by_cases hlimit : 10 ^ 12 < literal.value
    · rw [if_pos (hlarge.mpr hlimit), if_neg fun h => absurd h.2 (not_le.mpr hlimit)]
    · rw [if_neg fun h => hlimit (hlarge.mp h), if_pos ⟨hzero, not_lt.mp hlimit⟩]
  · have hnone : ((PlainDecimal.text ⟨integer, fraction, htrailing⟩).any fun unit =>
        49 ≤ unit.toNat ∧ unit.toNat ≤ 57) = false := by
      rw [Bool.eq_false_iff]
      exact fun h => hzero (hpositive.mpr h)
    rw [hnone, Bool.not_false, if_pos rfl, if_neg fun h => hzero h.1]

theorem value_nonpos {literal : NumberLiteral} (hsign : literal.negative = true) :
    literal.value ≤ 0 := by
  rw [NumberLiteral.value, hsign]
  have hsize : (0 : Rat) ≤ (numberOfUnits literal.digits : Rat) *
      10 ^ (literal.exponentValue - literal.fraction.units.length) := by positivity
  simp only [if_true]
  rw [mul_assoc]
  linarith

/-- A rate that is kept denotes the number that was sent. -/
theorem normalizeExactPositiveDecimal_spec {text : CodeUnits} {literal : NumberLiteral}
    (hread : readLiteral text = some literal) (hsize : text.length ≤ 256)
    (hshort : ∀ exponent ∈ literal.exponent, exponent.digits.units.length ≤ 3)
    (hsmall : |literal.exponentValue| ≤ 100) :
    (0 < literal.value ∧ literal.value ≤ 10 ^ 12 → ∃ decimal : PlainDecimal,
      normalizeExactPositiveDecimal (.string text) = some decimal.text ∧
        decimal.value = literal.value) ∧
    (¬(0 < literal.value ∧ literal.value ≤ 10 ^ 12) →
      normalizeExactPositiveDecimal (.string text) = none) := by
  cases hsign : literal.negative with
  | true =>
      have hvalue := value_nonpos hsign
      refine ⟨fun h => absurd h.1 (not_lt.mpr hvalue), fun _ => ?_⟩
      simp only [normalizeExactPositiveDecimal, hread, hsign, if_true]
      rw [if_neg (by omega)]
  | false =>
      obtain ⟨decimal, hvalue, hresult⟩ := normalize_unsigned hread hsize hshort hsmall hsign
      refine ⟨fun h => ⟨decimal, ?_, hvalue⟩, fun h => ?_⟩
      · rw [hresult, if_pos h]
      · rw [hresult, if_neg h]

/-- `1.50e1` and `15` -/
theorem normalizeExactPositiveDecimal_fifteen :
    normalizeExactPositiveDecimal (.string [49, 46, 53, 48, 101, 49]) = some [49, 53] ∧
    ∃ decimal : PlainDecimal,
      normalizeExactPositiveDecimal (.string [49, 46, 53, 48, 101, 49]) = some decimal.text ∧
        decimal.value = 15 := by
  have hvalue : NumberLiteral.value ⟨false, ⟨⟨[49], by simp [isDecimalDigit]⟩, by simp, by simp⟩,
      ⟨[53, 48], by simp [isDecimalDigit]⟩,
      some ⟨101, .inl rfl, [], .inl rfl, ⟨[49], by simp [isDecimalDigit]⟩, by simp⟩⟩ = 15 := by
    decide +kernel
  refine ⟨by decide +kernel, ?_⟩
  rw [← hvalue]
  exact (normalizeExactPositiveDecimal_spec (by decide +kernel) (by decide) (by simp)
    (by decide +kernel)).1 (by rw [hvalue]; norm_num)

/-- A rate that is kept comes from a literal whose exponent is small. -/
theorem normalize_some {value : JsValue} {rate : CodeUnits}
    (h : normalizeExactPositiveDecimal value = some rate) :
    ∃ text literal decimal, value = .string text ∧ readLiteral text = some literal ∧
      rate = PlainDecimal.text decimal ∧ decimal.value = literal.value ∧
      0 < literal.value ∧ literal.value ≤ 10 ^ 12 := by
  have hresult := h
  unfold normalizeExactPositiveDecimal at h
  split at h
  · rename_i text
    split at h
    · cases h
    rename_i hsize
    split at h
    · cases h
    rename_i literal hread
    split at h
    · cases h
    rename_i hsign
    dsimp only at h
    split at h
    · cases h
    rename_i hshort
    split at h
    · cases h
    rename_i hsmall
    rw [exponentNumber_literal] at hsmall
    simp only [Bool.not_eq_true', Bool.not_eq_false] at hshort
    obtain ⟨decimal, hvalue, hkept⟩ := normalize_unsigned hread (not_lt.mp hsize)
      ((isShortExponent_literal literal).mp hshort) (not_lt.mp hsmall) (by simpa using hsign)
    rw [hresult] at hkept
    split at hkept
    · rename_i hrange
      exact ⟨text, literal, decimal, rfl, hread, Option.some.inj hkept, hvalue, hrange⟩
    · cases hkept
  · cases h

/-- The text of a decimal is a literal. -/
theorem readLiteral_decimal (decimal : PlainDecimal) :
    readLiteral decimal.text = some ⟨false, decimal.whole, decimal.fraction, none⟩ := by
  have htext : NumberLiteral.text ⟨false, decimal.whole, decimal.fraction, none⟩ =
      decimal.text := by
    simp [NumberLiteral.text, NumberLiteral.signText, NumberLiteral.exponentText,
      PlainDecimal.text]
  rw [← htext]
  exact readLiteral_of_text _

theorem value_of_text {first second : PlainDecimal} (h : first.text = second.text) :
    first.value = second.value := by
  have hread := readLiteral_decimal first
  rw [h, readLiteral_decimal second] at hread
  obtain ⟨-, hwhole, hfraction, -⟩ := NumberLiteral.mk.injEq .. ▸ Option.some.inj hread
  rw [PlainDecimal.value, PlainDecimal.value, hwhole, hfraction]

/-- Rates that are kept are equal as texts exactly when they are equal as numbers. -/
theorem normalizeExactPositiveDecimal_eq_iff {first second rate otherRate : CodeUnits}
    {literal other : NumberLiteral}
    (hfirst : readLiteral first = some literal) (hsecond : readLiteral second = some other)
    (hrate : normalizeExactPositiveDecimal (.string first) = some rate)
    (hother : normalizeExactPositiveDecimal (.string second) = some otherRate) :
    rate = otherRate ↔ literal.value = other.value := by
  obtain ⟨_, _, decimal, ⟨⟩, hread, rfl, hvalue, -⟩ := normalize_some hrate
  obtain ⟨_, _, otherDecimal, ⟨⟩, hread', rfl, hvalue', -⟩ := normalize_some hother
  rw [hfirst] at hread
  rw [hsecond] at hread'
  cases hread
  cases hread'
  rw [← hvalue, ← hvalue']
  constructor
  · exact value_of_text
  · intro hsame
    rw [PlainDecimal.eq_of_value hsame]

/-- `1.50e1` and `15.0` are kept alike. -/
theorem normalizeExactPositiveDecimal_eq_fifteen :
    normalizeExactPositiveDecimal (.string [49, 46, 53, 48, 101, 49]) = some [49, 53] ∧
      normalizeExactPositiveDecimal (.string [49, 53, 46, 48]) = some [49, 53] ∧
      (([49, 53] : CodeUnits) = [49, 53] ↔
        NumberLiteral.value ⟨false, ⟨⟨[49], by simp [isDecimalDigit]⟩, by simp, by simp⟩,
          ⟨[53, 48], by simp [isDecimalDigit]⟩,
          some ⟨101, .inl rfl, [], .inl rfl, ⟨[49], by simp [isDecimalDigit]⟩, by simp⟩⟩ =
        NumberLiteral.value ⟨false, ⟨⟨[49, 53], by simp [isDecimalDigit]⟩, by simp, by simp⟩,
          ⟨[48], by simp [isDecimalDigit]⟩, none⟩) :=
  ⟨by decide +kernel, by decide +kernel,
    @normalizeExactPositiveDecimal_eq_iff [49, 46, 53, 48, 101, 49] [49, 53, 46, 48] [49, 53]
      [49, 53] _ _ (by decide +kernel) (by decide +kernel) (by decide +kernel)
      (by decide +kernel)⟩

end MatchPlane.ExchangeRate
