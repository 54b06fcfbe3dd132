import MatchPlane.Library.Checked

/-!
# Exact numeric values

Prices are strictly positive and quantities non-negative 128-bit integers.  The
bounds are fields, so neither type has an ill-formed value.
-/

namespace MatchPlane

open MatchPlane.Library

inductive NumericError where
  | nonPositivePrice
  | nonPositiveQuantity
  | negativeQuantity
  | overflow
  | invalidScale
  deriving DecidableEq, Repr

namespace NumericError

def message : NumericError → String
  | nonPositivePrice => "price must be greater than zero"
  | nonPositiveQuantity => "quantity must be greater than zero"
  | negativeQuantity => "quantity would become negative"
  | overflow => "exact integer arithmetic overflow"
  | invalidScale => "scale must be between 0 and 18"

end NumericError

/-- A non-negative `numeric(38, 0)`, the column type of every stored amount. -/
def isNumeric (value : Int) : Bool := 0 ≤ value ∧ value < 10 ^ 38

theorem isNumeric_iff {value : Int} : isNumeric value = true ↔ 0 ≤ value ∧ value < 10 ^ 38 := by
  simp [isNumeric]

/-- `str::parse`: an optional sign and at least one decimal digit, within 128 bits. -/
def parseInteger (value : String) : Option I128 :=
  let (negative, digits) := match value.toList with
    | '-' :: digits => (true, digits)
    | '+' :: digits => (false, digits)
    | digits => (false, digits)
  if digits.isEmpty ∨ digits.any (fun digit => !digit.isDigit) then none
  else
    let magnitude : Int := digits.foldl (fun value digit => 10 * value + (digit.toNat - 48)) 0
    I128.ofInt? (if negative then -magnitude else magnitude)

example : parseInteger "-0120" = I128.ofInt? (-120) ∧ parseInteger "+" = none ∧
    parseInteger "1.5" = none := by decide

structure Price where
  value : Int
  positive : 0 < value
  bounded : value ≤ i128Max
  deriving Repr

theorem Price.value_injective : Function.Injective Price.value := by
  rintro ⟨first, _, _⟩ ⟨second, _, _⟩ h
  cases h
  rfl

instance : LinearOrder Price := LinearOrder.lift' Price.value Price.value_injective

instance : Std.TransOrd Price := inferInstance

instance : Std.TransOrd Priceᵒᵈ := inferInstance

/-- A price written out. -/
def Price.literal (value : Int) (h : decide (0 < value ∧ value ≤ i128Max) = true) : Price :=
  ⟨value, (of_decide_eq_true h).1, (of_decide_eq_true h).2⟩

structure Quantity where
  value : Int
  nonnegative : 0 ≤ value
  bounded : value ≤ i128Max
  deriving Repr

theorem Quantity.value_injective : Function.Injective Quantity.value := by
  rintro ⟨first, _, _⟩ ⟨second, _, _⟩ h
  cases h
  rfl

instance : LinearOrder Quantity :=
  LinearOrder.lift' Quantity.value Quantity.value_injective

/-- A quantity written out. -/
def Quantity.literal (value : Int) (h : decide (0 ≤ value ∧ value ≤ i128Max) = true) : Quantity :=
  ⟨value, (of_decide_eq_true h).1, (of_decide_eq_true h).2⟩

namespace Price

def new (value : I128) : Except NumericError Price :=
  if h : 0 < value.1 then .ok ⟨value.1, h, value.2.2⟩
  else .error .nonPositivePrice

def toI128 (price : Price) : I128 :=
  ⟨price.value, by
    have := price.positive
    simp only [i128Min]
    omega, price.bounded⟩

theorem le_def (first second : Price) :
    first ≤ second ↔ first.value ≤ second.value := Iff.rfl

theorem lt_def (first second : Price) :
    first < second ↔ first.value < second.value := Iff.rfl

end Price

namespace Quantity

def zero : Quantity := ⟨0, le_refl 0, by decide⟩

def new (value : I128) : Except NumericError Quantity :=
  if h : 0 < value.1 then .ok ⟨value.1, h.le, value.2.2⟩
  else .error .nonPositiveQuantity

def fromNonNegative (value : I128) : Except NumericError Quantity :=
  if h : 0 ≤ value.1 then .ok ⟨value.1, h, value.2.2⟩
  else .error .negativeQuantity

def toI128 (quantity : Quantity) : I128 :=
  ⟨quantity.value, by
    have := quantity.nonnegative
    simp only [i128Min]
    omega, quantity.bounded⟩

def isZero (quantity : Quantity) : Bool := quantity.value == 0

def checkedAdd (quantity other : Quantity) : Except NumericError Quantity :=
  if h : quantity.value + other.value ≤ i128Max then
    .ok ⟨quantity.value + other.value,
      Int.add_nonneg quantity.nonnegative other.nonnegative, h⟩
  else .error .overflow

def checkedSub (quantity other : Quantity) : Except NumericError Quantity :=
  match quantity.toI128.checkedSub other.toI128 with
  | none => .error .overflow
  | some value => fromNonNegative value

/-- Subtraction once the result is known to be a quantity. -/
def sub (quantity other : Quantity) (h : other ≤ quantity) : Quantity :=
  ⟨quantity.value - other.value, Int.sub_nonneg_of_le h, by
    have := quantity.bounded
    have := other.nonnegative
    omega⟩

theorem le_def (first second : Quantity) :
    first ≤ second ↔ first.value ≤ second.value := Iff.rfl

theorem lt_def (first second : Quantity) :
    first < second ↔ first.value < second.value := Iff.rfl

@[simp] theorem zero_value : zero.value = 0 := rfl

@[simp] theorem sub_value (quantity other : Quantity) (h : other ≤ quantity) :
    (quantity.sub other h).value = quantity.value - other.value := rfl

theorem isZero_iff (quantity : Quantity) :
    quantity.isZero = true ↔ quantity.value = 0 := by
  simp [isZero]

theorem isZero_eq_false_iff (quantity : Quantity) :
    quantity.isZero = false ↔ 0 < quantity.value := by
  have := quantity.nonnegative
  simp only [isZero, beq_eq_false_iff_ne, ne_eq]
  omega

theorem eq_zero_iff (quantity : Quantity) :
    quantity = zero ↔ quantity.value = 0 :=
  ⟨fun h => by rw [h]; rfl, fun h => value_injective h⟩

theorem min_value (first second : Quantity) :
    (min first second).value = min first.value second.value := by
  rcases le_total first second with h | h
  · rw [min_eq_left h, min_eq_left ((le_def _ _).mp h)]
  · rw [min_eq_right h, min_eq_right ((le_def _ _).mp h)]

theorem checkedSub_eq (quantity other : Quantity) :
    quantity.checkedSub other =
      if h : other ≤ quantity then .ok (quantity.sub other h)
      else .error .negativeQuantity := by
  have hfits : InI128 (quantity.value - other.value) := by
    have := quantity.nonnegative
    have := quantity.bounded
    have := other.nonnegative
    have := other.bounded
    simp only [InI128, i128Min, i128Max] at *
    omega
  have hsub : quantity.toI128.checkedSub other.toI128 =
      some ⟨quantity.value - other.value, hfits⟩ :=
    I128.ofInt?_eq_some hfits
  simp only [checkedSub, hsub, fromNonNegative, le_def, sub, Int.sub_nonneg]

theorem checkedSub_of_le {quantity other : Quantity} (h : other ≤ quantity) :
    quantity.checkedSub other = .ok (quantity.sub other h) := by
  rw [checkedSub_eq, dif_pos h]

theorem checkedSub_eq_ok_iff {quantity other result : Quantity} :
    quantity.checkedSub other = .ok result ↔
      other ≤ quantity ∧ result.value = quantity.value - other.value := by
  rw [checkedSub_eq]
  by_cases h : other ≤ quantity
  · simp only [h, dif_pos, Except.ok.injEq, true_and]
    constructor
    · rintro rfl
      rfl
    · intro hvalue
      exact value_injective hvalue.symm
  · simp [h]

end Quantity

def Price.checkedMul (price : Price) (quantity : Quantity) : Except NumericError I128 :=
  match price.toI128.checkedMul quantity.toI128 with
  | some amount => .ok amount
  | none => .error .overflow

end MatchPlane
