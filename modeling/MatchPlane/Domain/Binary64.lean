import Mathlib

/-!
# Binary floating-point numbers

What the code uses of the numbers of 64 bits of IEEE 754.  How they are rounded is left to
the machine; `total_cmp` is the order of their bits.
-/

namespace MatchPlane

/-- The numbers; the instance is the order of `f64::total_cmp`. -/
class Binary64 (F : Type) extends LinearOrder F where
  /-- The number that a decimal literal `numerator / 10 ^ digits` is rounded to. -/
  literal : (numerator digits : Nat) → F
  ofInt : Int → F
  /-- The number of a text that is no integer. -/
  parse : String → F
  add : F → F → F
  div : F → F → F
  /-- `<`, of which a number that is none is never a part. -/
  less : F → F → Bool
  isFinite : F → Bool

namespace Binary64

variable {F : Type} [Binary64 F]

/-- `f64::clamp`. -/
def clamp (value minimum maximum : F) : F :=
  let raised := if less value minimum then minimum else value
  if less maximum raised then maximum else raised

end Binary64

/-- Numbers that are never rounded, and are always finite. -/
@[reducible] def exactNumbers : Binary64 Rat where
  literal := fun numerator digits => numerator / 10 ^ digits
  ofInt := fun value => value
  parse := fun _ => 0
  add := (· + ·)
  div := (· / ·)
  less := fun first second => first < second
  isFinite := fun _ => true

end MatchPlane
