import MatchPlane.Engine.Runs
import MatchPlane.Library.Decimal
import MatchPlane.Payments.Money
import MatchPlane.Storage.Matching

/-!
# Price levels

A side of a published book is checked three times: by the projector that consumes
it, by the script that stores it, and by the reader of what was stored.  The first
and the last parse the numbers; the script compares them as text.
-/

namespace MatchPlane

open MatchPlane.Library

namespace V1

/-- The Protobuf message of a level. -/
structure PriceLevel where
  price : String
  quantity : String
  deriving DecidableEq, Repr

end V1

structure CachedLevel where
  price : String
  quantity : String
  deriving DecidableEq, Repr

inductive KafkaFailureClass where
  | invalidPayload
  | protocolViolation
  | processingInvariant
  deriving DecidableEq, Repr

structure PermanentRecordFailure where
  failureClass : KafkaFailureClass
  message : String
  deriving DecidableEq, Repr

/-! ## The three validators -/

/-- The body that the projector and the reader of the cache share. -/
def canonicalValue (value : String) : Option I128 :=
  if value.isEmpty ∨ 38 < value.utf8ByteSize ∨
      (1 < value.utf8ByteSize ∧ value.toList.head? = some '0') ∨
      value.toList.all Char.isDigit = false then none
  else (parseInteger value).filter fun number => 0 < number.1

/-- Whether a price may not follow the previous one. -/
def outOfOrder (descending : Bool) (price : I128) (previousPrice : Option I128) : Bool :=
  previousPrice.any fun previous =>
    if descending then previous.1 ≤ price.1 else price.1 ≤ previous.1

def exactPositiveValue (value : String) : Option I128 := canonicalValue value

def validatedLevelsFrom (descending : Bool) :
    Option I128 → List V1.PriceLevel → Except PermanentRecordFailure (List CachedLevel)
  | _, [] => .ok []
  | previousPrice, level :: levels =>
      match exactPositiveValue level.price with
      | none => .error ⟨.protocolViolation,
          "order-book price is not a canonical positive exact integer"⟩
      | some price =>
          if outOfOrder descending price previousPrice then
            .error ⟨.protocolViolation, "order-book levels are duplicated or out of price order"⟩
          else if (exactPositiveValue level.quantity).isNone then
            .error ⟨.protocolViolation,
              "order-book quantity is not a canonical positive exact integer"⟩
          else do
            let validated ← validatedLevelsFrom descending (some price) levels
            .ok (⟨level.price, level.quantity⟩ :: validated)

def validatedLevels (levels : List V1.PriceLevel) (descending : Bool) :
    Except PermanentRecordFailure (List CachedLevel) :=
  validatedLevelsFrom descending none levels

def validExactValue (value : String) : Option I128 := canonicalValue value

def validBookSideFrom (descending : Bool) : Option I128 → List CachedLevel → Bool
  | _, [] => true
  | previousPrice, level :: levels =>
      match validExactValue level.price with
      | none => false
      | some price =>
          if (validExactValue level.quantity).isNone ∨ outOfOrder descending price previousPrice then
            false
          else validBookSideFrom descending (some price) levels

def validBookSide (levels : List CachedLevel) (descending : Bool) : Bool :=
  validBookSideFrom descending none levels

/-- The pattern of one or more digits, matched against the whole text. -/
def isDigits (value : String) : Bool := !value.isEmpty && value.toList.all Char.isDigit

/-- The script's `valid_exact`. -/
def validExact (value : String) : Bool :=
  if value.utf8ByteSize = 0 ∨ 38 < value.utf8ByteSize then false
  else if isDigits value = false ∨ value = "0" then false
  else if 1 < value.utf8ByteSize ∧ value.toList.head? = some '0' then false
  else true

/-- The script's `compare_decimal`. -/
def compareDecimal (left right : String) : Int :=
  if left.utf8ByteSize < right.utf8ByteSize then -1
  else if right.utf8ByteSize < left.utf8ByteSize then 1
  else if left < right then -1
  else if right < left then 1
  else 0

def validSideFrom (descending : Bool) : Option String → List CachedLevel → Bool
  | _, [] => true
  | previous, level :: levels =>
      if validExact level.price = false ∨ validExact level.quantity = false then false
      else if previous.any fun previous =>
          (descending && 0 ≤ compareDecimal level.price previous) ||
            (!descending && compareDecimal level.price previous ≤ 0) then false
      else validSideFrom descending (some level.price) levels

/-- The script's `valid_side`. -/
def validSide (levels : List CachedLevel) (descending : Bool) : Bool :=
  validSideFrom descending none levels

example : validSide [⟨"10", "5"⟩, ⟨"9", "1"⟩] true = true ∧
    validSide [⟨"10", "5"⟩, ⟨"9", "1"⟩] false = false ∧
    validBookSide [⟨"10", "05"⟩] true = false := by decide +kernel

/-! ## Exact values -/

/-- At most 38 digits of a positive number. -/
structure IsExact (value : String) : Prop where
  numeral : IsNumeral value.toList
  bounded : value.length ≤ 38

/-- The number that digits denote. -/
def magnitude (value : String) : Int := Nat.ofDigitChars 10 value.toList 0

section Exact

variable {value left right : String}

theorem utf8Size_of_isDigit {char : Char} (h : char.isDigit = true) : char.utf8Size = 1 := by
  have hbounds := isDigit_iff_bounds.mp h
  have hsmall : char.val.toNat ≤ 127 := hbounds.2.trans (by norm_num)
  rw [Char.utf8Size, if_pos (UInt32.le_iff_toNat_le.mpr hsmall)]

theorem utf8ByteSize_of_digits (h : ∀ char ∈ value.toList, char.isDigit = true) :
    value.utf8ByteSize = value.length := by
  rw [← String.utf8Len_toList, ← String.length_toList]
  exact utf8Len_of_ascii fun char hchar => utf8Size_of_isDigit (h char hchar)

theorem IsExact.utf8ByteSize_eq (h : IsExact value) : value.utf8ByteSize = value.length :=
  utf8ByteSize_of_digits h.numeral.digit

theorem IsExact.magnitude_lt (h : IsExact value) : magnitude value < 10 ^ 38 := by
  have hlength : value.toList.length ≤ 38 := by
    rw [String.length_toList]
    exact h.bounded
  have hvalue := calc Nat.ofDigitChars 10 value.toList 0
      _ < 10 ^ value.toList.length := ofDigitChars_lt h.numeral.digit
      _ ≤ 10 ^ 38 := Nat.pow_le_pow_right (by omega) hlength
  unfold magnitude
  exact_mod_cast hvalue

theorem IsExact.magnitude_pos (h : IsExact value) : 0 < magnitude value := by
  have hpositive := h.numeral.positive
  unfold magnitude
  omega

/-- The number zero, or digits without a leading zero. -/
def IsNormalized (value : String) : Prop := value = "0" ∨ IsNumeral value.toList

theorem IsNormalized.digit (h : IsNormalized value) :
    ∀ char ∈ value.toList, char.isDigit = true := by
  rcases h with rfl | h
  · intro char hchar
    rw [show "0".toList = ['0'] from rfl, List.mem_singleton] at hchar
    rw [hchar]
    rfl
  · exact h.digit

/-- Of two normalized texts the shorter one denotes the smaller number. -/
theorem IsNormalized.lt_of_length_lt (hleft : IsNormalized left) (hright : IsNormalized right)
    (hlength : left.length < right.length) : magnitude left < magnitude right := by
  rcases hleft with rfl | hleft
  · rcases hright with rfl | hright
    · exact absurd hlength (lt_irrefl _)
    · exact Nat.cast_lt.mpr hright.positive
  · rcases hright with rfl | hright
    · have hpositive := List.length_pos_of_ne_nil hleft.nonempty
      rw [String.length_toList] at hpositive
      have hone : "0".length = 1 := rfl
      omega
    · rw [← String.length_toList, ← String.length_toList] at hlength
      exact Nat.cast_lt.mpr (hleft.lt_of_length_lt hright hlength)

/-- What the checks on the text alone leave: digits, the number zero excluded or not. -/
theorem isExact_iff : IsExact value ↔ value.toList ≠ [] ∧ value.utf8ByteSize ≤ 38 ∧
    (∀ char ∈ value.toList, char.isDigit = true) ∧ value.toList.head? ≠ some '0' := by
  constructor
  · intro h
    refine ⟨h.numeral.nonempty, ?_, h.numeral.digit, h.numeral.leading⟩
    rw [h.utf8ByteSize_eq]
    exact h.bounded
  · rintro ⟨hne, hbounded, hdigits, hleading⟩
    refine ⟨⟨hdigits, hne, hleading⟩, ?_⟩
    rw [← utf8ByteSize_of_digits hdigits]
    exact hbounded

theorem head_zero_of_le_one (hdigits : ∀ char ∈ value.toList, char.isDigit = true)
    (hbytes : value.utf8ByteSize ≤ 1) : value.toList.head? = some '0' ↔ value = "0" := by
  rw [utf8ByteSize_of_digits hdigits, ← String.length_toList] at hbytes
  constructor
  · intro hhead
    apply String.toList_injective
    cases hlist : value.toList with
    | nil => simp [hlist] at hhead
    | cons char rest =>
        have hrest : rest = [] := by
          rw [hlist, List.length_cons] at hbytes
          exact List.length_eq_zero_iff.mp (by omega)
        rw [hlist] at hhead
        cases hhead
        rw [hrest]
        rfl
  · rintro rfl
    rfl

theorem validExact_iff : validExact value = true ↔ IsExact value := by
  have hempty : value.utf8ByteSize = 0 ↔ value.toList = [] := by
    rw [String.utf8ByteSize_eq_zero_iff, String.toList_eq_nil_iff]
  have hdigits : isDigits value = true ↔ value.toList ≠ [] ∧
      ∀ char ∈ value.toList, char.isDigit = true := by
    simp [isDigits]
  rw [isExact_iff]
  unfold validExact
  by_cases hall : ∀ char ∈ value.toList, char.isDigit = true
  · have hzero := head_zero_of_le_one hall
    by_cases hbytes : value.utf8ByteSize ≤ 1
    · have hzero := hzero hbytes
      grind
    · have hne : value ≠ "0" := by
        rintro rfl
        exact hbytes (by decide)
      grind
  · grind

theorem magnitude_zero : magnitude "0" = 0 := rfl

theorem canonicalValue_eq_some_iff {number : I128} :
    canonicalValue value = some number ↔ IsExact value ∧ number.1 = magnitude value := by
  have hempty : value.isEmpty = true ↔ value.toList = [] := by
    rw [String.isEmpty_iff, String.toList_eq_nil_iff]
  have hparse : value.toList ≠ [] → (∀ char ∈ value.toList, char.isDigit = true) →
      parseInteger value = I128.ofInt? (magnitude value) := by
    intro hne hall
    have hparsed := parseInteger_digits hne hall
    rwa [String.ofList_toList] at hparsed
  unfold canonicalValue
  rw [Option.ite_none_left_eq_some]
  constructor
  · rintro ⟨hguard, hvalue⟩
    simp only [hempty, not_or, not_and, not_lt, Bool.not_eq_false, List.all_eq_true] at hguard
    obtain ⟨hne, hbounded, hleading, hall⟩ := hguard
    rw [hparse hne hall, Option.filter_eq_some_iff, I128.ofInt?] at hvalue
    obtain ⟨hfits, hpositive⟩ := hvalue
    split at hfits
    · cases hfits
      refine ⟨isExact_iff.mpr ⟨hne, hbounded, hall, ?_⟩, rfl⟩
      intro hhead
      by_cases hbytes : value.utf8ByteSize ≤ 1
      · have hpositive : 0 < magnitude value := by simpa using hpositive
        rw [(head_zero_of_le_one hall hbytes).mp hhead] at hpositive
        exact absurd hpositive (by decide)
      · exact hleading (by omega) hhead
    · cases hfits
  · rintro ⟨hexact, hnumber⟩
    obtain ⟨hne, hbounded, hall, hleading⟩ := isExact_iff.mp hexact
    have hpositive := hexact.magnitude_pos
    have hfits : InI128 (magnitude value) := by
      have hbound := hexact.magnitude_lt
      simp only [InI128, i128Min, i128Max]
      omega
    refine ⟨?_, ?_⟩
    · simp only [hempty, not_or, not_and, not_lt, Bool.not_eq_false, List.all_eq_true]
      exact ⟨hne, hbounded, fun _ => hleading, hall⟩
    · rw [hparse hne hall, I128.ofInt?_eq_some hfits, Option.filter_eq_some_iff]
      refine ⟨congrArg some (Subtype.ext hnumber.symm), ?_⟩
      simpa [hnumber] using hpositive

/-- The script compares normalized texts as the numbers they denote. -/
theorem compareDecimal_of_normalized (hleft : IsNormalized left) (hright : IsNormalized right) :
    (compareDecimal left right < 0 ↔ magnitude left < magnitude right) ∧
      (0 < compareDecimal left right ↔ magnitude right < magnitude left) := by
  have hsame : ∀ {first second : String}, IsNormalized first → IsNormalized second →
      first.length = second.length → (magnitude first < magnitude second ↔ first < second) := by
    intro first second hfirst hsecond hlength
    rw [← String.length_toList, ← String.length_toList] at hlength
    rw [String.lt_iff, ← ofDigitChars_lt_iff hfirst.digit hsecond.digit hlength]
    exact Nat.cast_lt
  unfold compareDecimal
  rw [utf8ByteSize_of_digits hleft.digit, utf8ByteSize_of_digits hright.digit]
  rcases lt_trichotomy left.length right.length with hlt | heq | hgt
  · have hvalues := hleft.lt_of_length_lt hright hlt
    rw [if_pos hlt]
    omega
  · have hforward := hsame hleft hright heq
    have hbackward := hsame hright hleft heq.symm
    rw [if_neg (by omega), if_neg (by omega)]
    split <;> rename_i hlt
    · rw [← hforward] at hlt
      omega
    · split <;> rename_i hgt <;> rw [← hforward] at hlt <;> rw [← hbackward] at hgt <;> omega
  · have hvalues := hright.lt_of_length_lt hleft hgt
    rw [if_neg (by omega), if_pos hgt]
    omega

/-- The script compares numerals as the numbers they denote. -/
theorem compareDecimal_cases (hleft : IsExact left) (hright : IsExact right) :
    (compareDecimal left right < 0 ↔ magnitude left < magnitude right) ∧
      (0 < compareDecimal left right ↔ magnitude right < magnitude left) :=
  compareDecimal_of_normalized (.inr hleft.numeral) (.inr hright.numeral)

end Exact

/-! ## Accepted sides -/

/-- Whether a price may come after a previous one. -/
def Follows (descending : Bool) (previous price : Int) : Prop :=
  if descending = true then price < previous else previous < price

theorem Follows.trans {descending : Bool} {first second third : Int}
    (h : Follows descending first second) (h' : Follows descending second third) :
    Follows descending first third := by
  cases descending <;> simp only [Follows] at * <;> grind

/-- The levels that can come after the level of a price. -/
structure AcceptedFrom (descending : Bool) (previousPrice : Option Int)
    (levels : List CachedLevel) : Prop where
  exact : ∀ level ∈ levels, IsExact level.price ∧ IsExact level.quantity
  ordered : levels.Pairwise fun first second =>
    Follows descending (magnitude first.price) (magnitude second.price)
  follows : ∀ previous ∈ previousPrice, ∀ level ∈ levels,
    Follows descending previous (magnitude level.price)

/-- Exact values at prices that leave the best one in strict order. -/
abbrev Accepted (descending : Bool) (levels : List CachedLevel) : Prop :=
  AcceptedFrom descending none levels

section Validators

variable {descending : Bool} {previousPrice : Option Int} {level : CachedLevel}
  {levels : List CachedLevel}

theorem AcceptedFrom.nil : AcceptedFrom descending previousPrice [] :=
  ⟨by simp, List.Pairwise.nil, by simp⟩

theorem acceptedFrom_cons : AcceptedFrom descending previousPrice (level :: levels) ↔
    IsExact level.price ∧ IsExact level.quantity ∧
      (∀ previous ∈ previousPrice, Follows descending previous (magnitude level.price)) ∧
      AcceptedFrom descending (some (magnitude level.price)) levels := by
  constructor
  · rintro ⟨hexact, hordered, hfollows⟩
    rw [List.pairwise_cons] at hordered
    have hlevel := hexact level List.mem_cons_self
    refine ⟨hlevel.1, hlevel.2, fun previous hprevious =>
      hfollows previous hprevious level List.mem_cons_self,
      fun other hother => hexact other (List.mem_cons_of_mem _ hother), hordered.2, ?_⟩
    rintro previous ⟨⟩
    exact hordered.1
  · rintro ⟨hprice, hquantity, hprevious, hexact, hordered, hfollows⟩
    have hafter := hfollows _ rfl
    refine ⟨?_, List.pairwise_cons.mpr ⟨hafter, hordered⟩, ?_⟩
    · intro other hother
      rcases List.mem_cons.mp hother with rfl | hother
      · exact ⟨hprice, hquantity⟩
      · exact hexact other hother
    · intro previous hmem other hother
      rcases List.mem_cons.mp hother with rfl | hother
      · exact hprevious previous hmem
      · exact (hprevious previous hmem).trans (hafter other hother)

theorem outOfOrder_eq_false_iff {price : I128} {previousPrice : Option I128} :
    outOfOrder descending price previousPrice = false ↔
      ∀ previous ∈ previousPrice.map Subtype.val, Follows descending previous price.1 := by
  cases previousPrice with
  | none => simp [outOfOrder]
  | some previous => cases descending <;> simp [outOfOrder, Follows]

theorem isNone_eq_false_iff {value : String} :
    (canonicalValue value).isNone = false ↔ IsExact value := by
  rw [Option.isNone_eq_false_iff, Option.isSome_iff_exists]
  constructor
  · rintro ⟨number, hnumber⟩
    exact (canonicalValue_eq_some_iff.mp hnumber).1
  · intro hexact
    have hfits : InI128 (magnitude value) := by
      have hbound := hexact.magnitude_lt
      have hpositive := hexact.magnitude_pos
      simp only [InI128, i128Min, i128Max]
      omega
    exact ⟨⟨magnitude value, hfits⟩, canonicalValue_eq_some_iff.mpr ⟨hexact, rfl⟩⟩

theorem validBookSideFrom_iff {previousPrice : Option I128} :
    validBookSideFrom descending previousPrice levels = true ↔
      AcceptedFrom descending (previousPrice.map Subtype.val) levels := by
  induction levels generalizing previousPrice with
  | nil => simp [validBookSideFrom, AcceptedFrom.nil]
  | cons level levels ih =>
      rw [acceptedFrom_cons]
      unfold validBookSideFrom validExactValue
      cases hprice : canonicalValue level.price with
      | none =>
          have hexact : ¬IsExact level.price := by
            rw [← isNone_eq_false_iff, hprice]
            simp
          simp [hexact]
      | some price =>
          obtain ⟨hexact, hvalue⟩ := canonicalValue_eq_some_iff.mp hprice
          have hrest := @ih (some price)
          have hquantity := @isNone_eq_false_iff level.quantity
          have horder := @outOfOrder_eq_false_iff descending price previousPrice
          rw [Option.map_some, hvalue] at hrest
          rw [hvalue] at horder
          rw [← hquantity, ← horder, ← hrest]
          simp only [hexact, true_and]
          cases (canonicalValue level.quantity).isNone <;>
            cases outOfOrder descending price previousPrice <;> simp

theorem validBookSide_iff : validBookSide levels descending = true ↔
    Accepted descending levels := validBookSideFrom_iff

/-- The message of a level as it is cached. -/
def CachedLevel.ofMessage (level : V1.PriceLevel) : CachedLevel := ⟨level.price, level.quantity⟩

theorem validatedLevelsFrom_eq_ok_iff {previousPrice : Option I128}
    {levels : List V1.PriceLevel} {validated : List CachedLevel} :
    validatedLevelsFrom descending previousPrice levels = .ok validated ↔
      AcceptedFrom descending (previousPrice.map Subtype.val)
        (levels.map CachedLevel.ofMessage) ∧ validated = levels.map CachedLevel.ofMessage := by
  induction levels generalizing previousPrice validated with
  | nil => simp [validatedLevelsFrom, AcceptedFrom.nil, eq_comm]
  | cons level levels ih =>
      rw [List.map_cons, acceptedFrom_cons]
      unfold validatedLevelsFrom exactPositiveValue
      cases hprice : canonicalValue level.price with
      | none =>
          have hexact : ¬IsExact (CachedLevel.ofMessage level).price := by
            change ¬IsExact level.price
            rw [← isNone_eq_false_iff, hprice]
            simp
          simp [hexact]
      | some price =>
          obtain ⟨hexact, hvalue⟩ := canonicalValue_eq_some_iff.mp hprice
          have hrest := fun validated => @ih (some price) validated
          have hquantity := @isNone_eq_false_iff level.quantity
          have horder := @outOfOrder_eq_false_iff descending price previousPrice
          simp only [Option.map_some, hvalue] at hrest
          rw [hvalue] at horder
          simp only [CachedLevel.ofMessage] at hrest ⊢
          rw [← hquantity, ← horder]
          simp only [guard_eq_ok_iff, bind_eq_ok_iff, hrest, hexact, true_and, Except.ok.injEq,
            Bool.not_eq_true]
          constructor
          · rintro ⟨horder, hquantity, _, ⟨haccepted, rfl⟩, rfl⟩
            exact ⟨⟨hquantity, horder, haccepted⟩, rfl⟩
          · rintro ⟨⟨hquantity, horder, haccepted⟩, rfl⟩
            exact ⟨horder, hquantity, _, ⟨haccepted, rfl⟩, rfl⟩

/-- The projector accepts levels by returning all of them as they are. -/
theorem validatedLevels_eq_ok_iff {levels : List V1.PriceLevel} {validated : List CachedLevel} :
    validatedLevels levels descending = .ok validated ↔
      Accepted descending (levels.map CachedLevel.ofMessage) ∧
        validated = levels.map CachedLevel.ofMessage := validatedLevelsFrom_eq_ok_iff

theorem validSideFrom_iff {previous : Option String}
    (hprevious : ∀ price ∈ previous, IsExact price) :
    validSideFrom descending previous levels = true ↔
      AcceptedFrom descending (previous.map magnitude) levels := by
  induction levels generalizing previous with
  | nil => simp [validSideFrom, AcceptedFrom.nil]
  | cons level levels ih =>
      have horder : IsExact level.price → ((previous.any fun previous =>
          (descending && 0 ≤ compareDecimal level.price previous) ||
            (!descending && compareDecimal level.price previous ≤ 0)) = false ↔
          ∀ price ∈ previous.map magnitude,
            Follows descending price (magnitude level.price)) := by
        intro hexact
        cases previous with
        | none => simp
        | some price =>
            have hcases := compareDecimal_cases hexact (hprevious price rfl)
            cases descending <;> simp [Follows] <;> omega
      rw [acceptedFrom_cons]
      unfold validSideFrom
      by_cases hprice : IsExact level.price
      · have hrest := @ih (some level.price) (by rintro _ ⟨⟩; exact hprice)
        rw [Option.map_some] at hrest
        rw [← horder hprice, ← hrest]
        by_cases hquantity : IsExact level.quantity
        · simp [validExact_iff.mpr hprice, validExact_iff.mpr hquantity, hprice, hquantity]
        · have hinvalid : validExact level.quantity = false := by
            rwa [← Bool.not_eq_true, validExact_iff]
          simp [hinvalid, hquantity]
      · have hinvalid : validExact level.price = false := by
          rwa [← Bool.not_eq_true, validExact_iff]
        simp [hinvalid, hprice]

theorem validSide_iff : validSide levels descending = true ↔ Accepted descending levels :=
  validSideFrom_iff (by simp)

end Validators

end MatchPlane
