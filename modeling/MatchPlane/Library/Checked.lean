import Mathlib

/-!
# Checked fixed-width integers

Signed 128-bit integers as a subtype of `Int`, with the overflow-checked
operations that return `none` outside the representable range, and the bounds
of the unsigned widths that callers check by hand.
-/

namespace MatchPlane.Library

def u32Max : Nat := 4294967295

def u64Max : Nat := 18446744073709551615

def i64Max : Nat := 9223372036854775807

def i128Max : Int := 170141183460469231731687303715884105727

def i128Min : Int := -170141183460469231731687303715884105728

/-- A mathematical integer that a 128-bit register can hold. -/
def InI128 (value : Int) : Prop := i128Min ≤ value ∧ value ≤ i128Max

instance (value : Int) : Decidable (InI128 value) :=
  inferInstanceAs (Decidable (_ ∧ _))

abbrev I128 := { value : Int // InI128 value }

namespace I128

def ofInt? (value : Int) : Option I128 :=
  if h : InI128 value then some ⟨value, h⟩ else none

def checkedAdd (a b : I128) : Option I128 := ofInt? (a.1 + b.1)

def checkedSub (a b : I128) : Option I128 := ofInt? (a.1 - b.1)

def checkedMul (a b : I128) : Option I128 := ofInt? (a.1 * b.1)

theorem ofInt?_eq_some {value : Int} (h : InI128 value) :
    ofInt? value = some ⟨value, h⟩ := dif_pos h

theorem ofInt?_eq_none {value : Int} (h : ¬InI128 value) :
    ofInt? value = none := dif_neg h

end I128

end MatchPlane.Library
