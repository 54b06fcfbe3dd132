import Mathlib

/-!
# JSON values

Values as the parser builds them: the fields of an object come sorted by their
names, each name once, so that equal values have equal fields in equal order.
-/

namespace MatchPlane

/-- A JSON value; numbers that are no integers are kept by their text. -/
inductive Json where
  | null
  | bool (value : Bool)
  | integer (value : Int)
  | float (literal : String)
  | string (value : String)
  | array (elements : List Json)
  | object (fields : List (String × Json))

namespace Json

def get (value : Json) (key : String) : Option Json :=
  match value with
  | object fields => fields.lookup key
  | _ => none

def asStr : Json → Option String
  | string value => some value
  | _ => none

def asI64 : Json → Option Int
  | integer value => if -2 ^ 63 ≤ value ∧ value < 2 ^ 63 then some value else none
  | _ => none

/-- The text of a field. -/
def text (value : Json) (key : String) : Option String := (value.get key).bind asStr

/-- The first of two fields that is there. -/
def either (value : Json) (first second : String) : Option Json :=
  (value.get first).or (value.get second)

/-! ## Equality -/

mutual

def same : Json → Json → Bool
  | null, null => true
  | bool first, bool second => first = second
  | integer first, integer second => first = second
  | float first, float second => first = second
  | string first, string second => first = second
  | array first, array second => sameElements first second
  | object first, object second => sameFields first second
  | _, _ => false

def sameElements : List Json → List Json → Bool
  | [], [] => true
  | first :: rest, second :: others => same first second && sameElements rest others
  | _, _ => false

def sameFields : List (String × Json) → List (String × Json) → Bool
  | [], [] => true
  | (key, first) :: rest, (other, second) :: others =>
      decide (key = other) && same first second && sameFields rest others
  | _, _ => false

end

mutual

theorem same_iff : ∀ first second : Json, same first second = true ↔ first = second
  | null, second => by cases second <;> simp [same]
  | bool _, second => by cases second <;> simp [same]
  | integer _, second => by cases second <;> simp [same]
  | float _, second => by cases second <;> simp [same]
  | string _, second => by cases second <;> simp [same]
  | array elements, second => by cases second <;> simp [same, sameElements_iff elements]
  | object fields, second => by cases second <;> simp [same, sameFields_iff fields]

theorem sameElements_iff : ∀ first second : List Json,
    sameElements first second = true ↔ first = second
  | [], second => by cases second <;> simp [sameElements]
  | first :: rest, second => by
      cases second <;> simp [sameElements, same_iff first, sameElements_iff rest]

theorem sameFields_iff : ∀ first second : List (String × Json),
    sameFields first second = true ↔ first = second
  | [], second => by cases second <;> simp [sameFields]
  | (key, first) :: rest, second => by
      cases second with
      | nil => simp [sameFields]
      | cons head others =>
        obtain ⟨other, value⟩ := head
        simp [sameFields, same_iff first, sameFields_iff rest]

end

instance : DecidableEq Json := fun first second =>
  decidable_of_iff (same first second = true) (same_iff first second)

end Json

end MatchPlane
