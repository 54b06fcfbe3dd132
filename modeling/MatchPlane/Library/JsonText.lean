import Mathlib
import MatchPlane.Library.Unicode

/-!
# JSON texts

Values of JavaScript, the text that `JSON.stringify` makes of them, and what `JSON.parse`
reads from a text.  How a number is written is left to the surroundings.
-/

namespace MatchPlane.Library

/-- A number of JavaScript; every number that is finite is a fraction. -/
inductive JsNumber where
  | finite (value : Rat)
  | negativeZero
  | infinite (negative : Bool)
  | nan
  deriving DecidableEq

inductive JsValue where
  | undefined
  | null
  | bool (value : Bool)
  | number (value : JsNumber)
  | string (value : CodeUnits)
  | array (elements : List JsValue)
  | object (fields : List (CodeUnits × JsValue))

namespace JsValue

def get (value : JsValue) (key : CodeUnits) : JsValue :=
  match value with
  | object fields => (fields.lookup key).getD undefined
  | _ => undefined

def isUndefined : JsValue → Bool
  | undefined => true
  | _ => false

end JsValue

/-- The units that numbers are written with. -/
def isNumberUnit (unit : UInt16) : Bool :=
  (48 ≤ unit.toNat ∧ unit.toNat ≤ 57) ∨ unit ∈ ([43, 45, 46, 69, 101] : CodeUnits)

/-- The text of a number, which reads as that number. -/
class NumberText where
  write : Rat → CodeUnits
  read : CodeUnits → Option JsNumber
  read_write : ∀ value, read (write value) = some (.finite value)
  isNumberUnit_of_mem : ∀ value, ∀ unit ∈ write value, isNumberUnit unit = true
  write_ne_nil : ∀ value, write value ≠ []

/-! ## Texts -/

def hexDigit (number : Nat) : UInt16 :=
  UInt16.ofNat (if number < 10 then 48 + number else 87 + number)

/-- `\u` and four digits. -/
def escapeUnit (unit : UInt16) : CodeUnits :=
  [92, 117, hexDigit (unit.toNat / 0x1000), hexDigit (unit.toNat / 0x100 % 16),
    hexDigit (unit.toNat / 16 % 16), hexDigit (unit.toNat % 16)]

/-- The short escapes: the unit and the letter after the backslash. -/
def shortEscapes : List (UInt16 × UInt16) :=
  [(34, 34), (92, 92), (8, 98), (12, 102), (10, 110), (13, 114), (9, 116)]

def quoteUnit (unit : UInt16) : CodeUnits :=
  match shortEscapes.lookup unit with
  | some letter => [92, letter]
  | none => if unit.toNat < 0x20 || isLead unit || isTrail unit then escapeUnit unit else [unit]

/-- A surrogate is written as it is only together with its other half. -/
def quoteUnits : CodeUnits → CodeUnits
  | [] => []
  | [unit] => quoteUnit unit
  | unit :: next :: rest =>
      if isLead unit && isTrail next then unit :: next :: quoteUnits rest
      else quoteUnit unit ++ quoteUnits (next :: rest)

def quote (text : CodeUnits) : CodeUnits := 34 :: (quoteUnits text ++ [34])

def joinParts : List CodeUnits → CodeUnits
  | [] => []
  | [part] => part
  | part :: next :: rest => part ++ 44 :: joinParts (next :: rest)

def nullText : CodeUnits := [110, 117, 108, 108]

def boolText (value : Bool) : CodeUnits :=
  if value then [116, 114, 117, 101] else [102, 97, 108, 115, 101]

section Stringify

variable [NumberText]

def JsNumber.text : JsNumber → CodeUnits
  | finite value => NumberText.write value
  | negativeZero => NumberText.write 0
  | infinite _ => nullText
  | nan => nullText

mutual

/-- `JSON.stringify` of a value that is not undefined. -/
def JsValue.text : JsValue → CodeUnits
  | .undefined => nullText
  | .null => nullText
  | .bool value => boolText value
  | .number value => value.text
  | .string value => quote value
  | .array elements => 91 :: (joinParts (elementTexts elements) ++ [93])
  | .object fields => 123 :: (joinParts (fieldTexts fields) ++ [125])

def elementTexts : List JsValue → List CodeUnits
  | [] => []
  | element :: rest => element.text :: elementTexts rest

def fieldTexts : List (CodeUnits × JsValue) → List CodeUnits
  | [] => []
  | (key, value) :: rest =>
      if value.isUndefined then fieldTexts rest
      else (quote key ++ 58 :: value.text) :: fieldTexts rest

end

end Stringify

/-! ## Reading -/

def isJsonBlank (unit : UInt16) : Bool := unit ∈ ([32, 9, 10, 13] : CodeUnits)

def skipBlank (text : CodeUnits) : CodeUnits := text.dropWhile isJsonBlank

def hexValue (unit : UInt16) : Option Nat :=
  if 48 ≤ unit.toNat ∧ unit.toNat ≤ 57 then some (unit.toNat - 48)
  else if 97 ≤ unit.toNat ∧ unit.toNat ≤ 102 then some (unit.toNat - 87)
  else if 65 ≤ unit.toNat ∧ unit.toNat ≤ 70 then some (unit.toNat - 55)
  else none

def unitOfHex (a b c d : UInt16) : Option UInt16 := do
  let a ← hexValue a
  let b ← hexValue b
  let c ← hexValue c
  let d ← hexValue d
  pure (UInt16.ofNat (((a * 16 + b) * 16 + c) * 16 + d))

/-- The unit of a letter after a backslash. -/
def unitOfLetter (letter : UInt16) : Option UInt16 :=
  if letter = 47 then some 47
  else (shortEscapes.find? fun escape => escape.2 = letter).map (·.1)

def addUnit (unit : UInt16) : CodeUnits × CodeUnits → CodeUnits × CodeUnits :=
  Prod.map (unit :: ·) id

/-- The rest of a string after its quote, and what comes after it. -/
def parseString : CodeUnits → Option (CodeUnits × CodeUnits)
  | [] => none
  | 92 :: 117 :: a :: b :: c :: d :: rest => do
      let unit ← unitOfHex a b c d
      (parseString rest).map (addUnit unit)
  | 92 :: letter :: rest => do
      let unit ← unitOfLetter letter
      (parseString rest).map (addUnit unit)
  | unit :: rest =>
      if unit = 34 then some ([], rest)
      else if unit.toNat < 0x20 ∨ unit = 92 then none
      else (parseString rest).map (addUnit unit)

/-- Of several fields of one name the last one counts, at the place of the first one. -/
def addField (key : CodeUnits) (value : JsValue) (rest : List (CodeUnits × JsValue)) :
    List (CodeUnits × JsValue) :=
  match rest.lookup key with
  | none => (key, value) :: rest
  | some last => (key, last) :: rest.filter fun field => field.1 ≠ key

/-- What comes after a text, if it starts with another one. -/
def afterPrefix (expected : CodeUnits) (text : CodeUnits) : Option CodeUnits :=
  if expected <+: text then some (text.drop expected.length) else none

section Parse

variable [NumberText]

def parseNumber (text : CodeUnits) : Option (JsValue × CodeUnits) := do
  let value ← NumberText.read (text.takeWhile isNumberUnit)
  pure (.number value, text.dropWhile isNumberUnit)

def parseLiteral (text : CodeUnits) : Option (JsValue × CodeUnits) :=
  ((afterPrefix nullText text).map fun rest => (JsValue.null, rest)).or <|
    ((afterPrefix (boolText true) text).map fun rest => (JsValue.bool true, rest)).or <|
      (afterPrefix (boolText false) text).map fun rest => (JsValue.bool false, rest)

mutual

def parseValue : Nat → CodeUnits → Option (JsValue × CodeUnits)
  | 0, _ => none
  | fuel + 1, text =>
      match skipBlank text with
      | [] => none
      | unit :: rest =>
          if unit = 34 then (parseString rest).map fun read => (.string read.1, read.2)
          else if unit = 91 then
            if (skipBlank rest).head? = some 93 then some (.array [], (skipBlank rest).drop 1)
            else (parseElements fuel rest).map fun read => (.array read.1, read.2)
          else if unit = 123 then
            if (skipBlank rest).head? = some 125 then some (.object [], (skipBlank rest).drop 1)
            else (parseFields fuel rest).map fun read => (.object read.1, read.2)
          else if isNumberUnit unit then parseNumber (unit :: rest)
          else parseLiteral (unit :: rest)

/-- The elements up to the end of an array. -/
def parseElements : Nat → CodeUnits → Option (List JsValue × CodeUnits)
  | 0, _ => none
  | fuel + 1, text => do
      let (element, rest) ← parseValue fuel text
      match skipBlank rest with
      | 44 :: rest => (parseElements fuel rest).map fun read => (element :: read.1, read.2)
      | 93 :: rest => some ([element], rest)
      | _ => none

/-- The fields up to the end of an object. -/
def parseFields : Nat → CodeUnits → Option (List (CodeUnits × JsValue) × CodeUnits)
  | 0, _ => none
  | fuel + 1, text => do
      let (key, rest) ← match skipBlank text with
        | 34 :: rest => parseString rest
        | _ => none
      let (value, rest) ← match skipBlank rest with
        | 58 :: rest => parseValue fuel rest
        | _ => none
      match skipBlank rest with
      | 44 :: rest => (parseFields fuel rest).map fun read => (addField key value read.1, read.2)
      | 125 :: rest => some ([(key, value)], rest)
      | _ => none

end

/-- `JSON.parse`. -/
def parseJson (text : CodeUnits) : Option JsValue :=
  match parseValue (text.length + 2) text with
  | some (value, rest) => if skipBlank rest = [] then some value else none
  | none => none

end Parse

/-! ## Strings are read back -/

theorem hexValue_hexDigit {number : Nat} (h : number < 16) :
    hexValue (hexDigit number) = some number := by
  have hall : ∀ number < 16, hexValue (hexDigit number) = some number := by decide
  exact hall number h

theorem unitOfHex_escape (unit : UInt16) :
    unitOfHex (hexDigit (unit.toNat / 0x1000)) (hexDigit (unit.toNat / 0x100 % 16))
      (hexDigit (unit.toNat / 16 % 16)) (hexDigit (unit.toNat % 16)) = some unit := by
  have hlt := unit.toNat_lt
  rw [unitOfHex, hexValue_hexDigit (by omega), hexValue_hexDigit (by omega),
    hexValue_hexDigit (by omega), hexValue_hexDigit (by omega)]
  have hnumber : ((unit.toNat / 0x1000 * 16 + unit.toNat / 0x100 % 16) * 16 +
      unit.toNat / 16 % 16) * 16 + unit.toNat % 16 = unit.toNat := by omega
  change some (UInt16.ofNat _) = _
  rw [hnumber, UInt16.ofNat_toNat]

theorem parseString_plain {unit : UInt16} (hcontrol : 0x20 ≤ unit.toNat) (hquote : unit ≠ 34)
    (hbackslash : unit ≠ 92) (rest : CodeUnits) :
    parseString (unit :: rest) = (parseString rest).map (addUnit unit) := by
  rw [parseString, if_neg hquote, if_neg]
  · rintro (hlow | hsame)
    · omega
    · exact hbackslash hsame
  · intro a b c d tail hsame
    exact absurd hsame hbackslash
  · intro letter tail hsame
    exact absurd hsame hbackslash

theorem parseString_escape (unit : UInt16) (rest : CodeUnits) :
    parseString (escapeUnit unit ++ rest) = (parseString rest).map (addUnit unit) := by
  change parseString (92 :: 117 :: _ :: _ :: _ :: _ :: rest) = _
  rw [parseString, unitOfHex_escape]
  rfl

theorem parseString_letter {unit letter : UInt16} (h : (unit, letter) ∈ shortEscapes)
    (rest : CodeUnits) :
    parseString (92 :: letter :: rest) = (parseString rest).map (addUnit unit) := by
  have hall : ∀ escape ∈ shortEscapes,
      unitOfLetter escape.2 = some escape.1 ∧ escape.2 ≠ 117 := forall_mem_of_all (by decide)
  obtain ⟨hletter, hother⟩ := hall _ h
  rw [parseString, hletter]
  · rfl
  · intro a b c d rest hsame
    exact absurd hsame hother

/-- The pair of a key that is looked up. -/
theorem mem_of_lookup_eq_some {κ ν : Type} [BEq κ] [LawfulBEq κ] {key : κ} {value : ν}
    {pairs : List (κ × ν)} (h : pairs.lookup key = some value) : (key, value) ∈ pairs := by
  obtain ⟨before, after, rfl, _⟩ := List.lookup_eq_some_iff.mp h
  simp

theorem parseString_quoteUnit (unit : UInt16) (rest : CodeUnits) :
    parseString (quoteUnit unit ++ rest) = (parseString rest).map (addUnit unit) := by
  unfold quoteUnit
  split
  case h_1 letter hletter => exact parseString_letter (mem_of_lookup_eq_some hletter) rest
  case h_2 hnone =>
    split
    · exact parseString_escape unit rest
    · rename_i hplain
      simp only [Bool.or_eq_true, decide_eq_true_eq, not_or] at hplain
      refine parseString_plain (by omega) ?_ ?_ rest
      · rintro rfl
        exact absurd hnone (by decide)
      · rintro rfl
        exact absurd hnone (by decide)

/-- Half of a character is no unit that is escaped. -/
theorem parseString_surrogate {unit : UInt16} (h : 0xD800 ≤ unit.toNat) (rest : CodeUnits) :
    parseString (unit :: rest) = (parseString rest).map (addUnit unit) := by
  refine parseString_plain (by omega) ?_ ?_ rest
  · rintro rfl
    exact absurd h (by decide)
  · rintro rfl
    exact absurd h (by decide)

theorem parseString_quoteUnits (text rest : CodeUnits) :
    parseString (quoteUnits text ++ 34 :: rest) = some (text, rest) := by
  fun_induction quoteUnits text with
  | case1 => rfl
  | case2 unit =>
      rw [parseString_quoteUnit]
      rfl
  | case3 unit next tail hpair ih =>
      simp only [isLead, isTrail, Bool.and_eq_true, decide_eq_true_eq] at hpair
      rw [List.cons_append, List.cons_append, parseString_surrogate hpair.1.1,
        parseString_surrogate (by omega), ih]
      rfl
  | case4 unit next tail hpair ih =>
      rw [List.append_assoc, parseString_quoteUnit, ih]
      rfl

/-! ## Texts are well-formed -/

theorem WellFormed.cons {unit : UInt16} {text : CodeUnits} (hunit : WellFormed [unit])
    (h : WellFormed text) : WellFormed (unit :: text) := hunit.append h

/-- Units below the surrogates. -/
theorem wellFormed_of_lt {text : CodeUnits} (h : ∀ unit ∈ text, unit.toNat < 0xD800) :
    WellFormed text := by
  induction text with
  | nil => exact wellFormed_nil
  | cons unit rest ih =>
      rw [List.forall_mem_cons] at h
      refine (wellFormed_singleton ?_ ?_).cons (ih h.2)
      · simp only [isLead, decide_eq_false_iff_not]
        omega
      · simp only [isTrail, decide_eq_false_iff_not]
        omega

theorem wellFormed_of_all {text : CodeUnits}
    (h : text.all (fun unit => decide (unit.toNat < 0xD800)) = true) : WellFormed text :=
  wellFormed_of_lt (forall_mem_of_all h)

theorem hexDigit_lt (number : Nat) (h : number < 16) : (hexDigit number).toNat < 0xD800 := by
  have hall : ∀ number < 16, (hexDigit number).toNat < 0xD800 := by decide
  exact hall number h

theorem wellFormed_quoteUnit (unit : UInt16) : WellFormed (quoteUnit unit) := by
  have hlt := unit.toNat_lt
  unfold quoteUnit
  split
  case h_1 letter hletter =>
    have hall : ∀ escape ∈ shortEscapes, escape.2.toNat < 0xD800 := forall_mem_of_all (by decide)
    have hlt := hall _ (mem_of_lookup_eq_some hletter)
    exact wellFormed_of_lt (by simpa using hlt)
  case h_2 hnone =>
    split
    · apply wellFormed_of_lt
      simp only [escapeUnit, List.forall_mem_cons, List.not_mem_nil, false_imp_iff, implies_true,
        and_true]
      exact ⟨by decide, by decide, hexDigit_lt _ (by omega), hexDigit_lt _ (by omega),
        hexDigit_lt _ (by omega), hexDigit_lt _ (by omega)⟩
    · rename_i hplain
      simp only [Bool.or_eq_true, not_or, Bool.not_eq_true] at hplain
      exact wellFormed_singleton hplain.1.2 hplain.2

theorem wellFormed_quoteUnits (text : CodeUnits) : WellFormed (quoteUnits text) := by
  fun_induction quoteUnits text with
  | case1 => exact wellFormed_nil
  | case2 unit => exact wellFormed_quoteUnit unit
  | case3 unit next tail hpair ih =>
      rw [Bool.and_eq_true] at hpair
      exact (wellFormed_pair hpair.1 hpair.2).append ih
  | case4 unit next tail hpair ih => exact (wellFormed_quoteUnit unit).append ih

theorem wellFormed_quote (text : CodeUnits) : WellFormed (quote text) :=
  (wellFormed_of_all (by decide) : WellFormed [34]).append
    ((wellFormed_quoteUnits text).append (wellFormed_of_all (by decide)))

theorem wellFormed_joinParts {parts : List CodeUnits} (h : ∀ part ∈ parts, WellFormed part) :
    WellFormed (joinParts parts) := by
  fun_induction joinParts parts with
  | case1 => exact wellFormed_nil
  | case2 part => exact h part List.mem_cons_self
  | case3 part next rest ih =>
      rw [List.forall_mem_cons] at h
      exact h.1.append ((wellFormed_of_all (by decide) : WellFormed [44]).append (ih h.2))

theorem wellFormed_null : WellFormed nullText := wellFormed_of_all (by decide)

theorem wellFormed_bool (value : Bool) : WellFormed (boolText value) := by
  cases value
  · exact wellFormed_of_all (by decide)
  · exact wellFormed_of_all (by decide)

theorem isNumberUnit_lt {unit : UInt16} (h : isNumberUnit unit = true) : unit.toNat < 0xD800 := by
  simp only [isNumberUnit, List.mem_cons, List.not_mem_nil, or_false, decide_eq_true_eq] at h
  rcases h with h | rfl | rfl | rfl | rfl | rfl
  · omega
  all_goals decide

section WellFormedTexts

variable [NumberText]

theorem wellFormed_number (value : JsNumber) : WellFormed value.text := by
  have hwrite : ∀ value : Rat, WellFormed (NumberText.write value) := fun value =>
    wellFormed_of_lt fun unit hunit =>
      isNumberUnit_lt (NumberText.isNumberUnit_of_mem value unit hunit)
  cases value with
  | finite value => exact hwrite value
  | negativeZero => exact hwrite 0
  | infinite negative => exact wellFormed_null
  | nan => exact wellFormed_null

mutual

theorem wellFormed_text : ∀ value : JsValue, WellFormed value.text
  | .undefined => wellFormed_null
  | .null => wellFormed_null
  | .bool value => wellFormed_bool value
  | .number value => wellFormed_number value
  | .string value => wellFormed_quote value
  | .array elements =>
      (wellFormed_of_all (by decide) : WellFormed [91]).append
        ((wellFormed_joinParts (wellFormed_elements elements)).append (wellFormed_of_all (by decide)))
  | .object fields =>
      (wellFormed_of_all (by decide) : WellFormed [123]).append
        ((wellFormed_joinParts (wellFormed_fields fields)).append (wellFormed_of_all (by decide)))

theorem wellFormed_elements : ∀ elements : List JsValue,
    ∀ part ∈ elementTexts elements, WellFormed part
  | [], _, hpart => absurd hpart List.not_mem_nil
  | element :: rest, part, hpart => by
      rcases List.mem_cons.mp hpart with rfl | hrest
      · exact wellFormed_text element
      · exact wellFormed_elements rest part hrest

theorem wellFormed_fields : ∀ fields : List (CodeUnits × JsValue),
    ∀ part ∈ fieldTexts fields, WellFormed part
  | [], _, hpart => absurd hpart List.not_mem_nil
  | (key, value) :: rest, part, hpart => by
      unfold fieldTexts at hpart
      split at hpart
      · exact wellFormed_fields rest part hpart
      · rcases List.mem_cons.mp hpart with rfl | hrest
        · exact (wellFormed_quote key).append
            ((wellFormed_of_all (by decide) : WellFormed [58]).append (wellFormed_text value))
        · exact wellFormed_fields rest part hrest

end

end WellFormedTexts

/-! ## Values are read back -/

mutual

/-- A value that JSON can express. -/
def JsValue.IsJson : JsValue → Prop
  | .undefined => False
  | .null => True
  | .bool _ => True
  | .number value => ∃ fraction, value = .finite fraction
  | .string _ => True
  | .array elements => AreJson elements
  | .object fields => (fields.map Prod.fst).Nodup ∧ FieldsAreJson fields

def AreJson : List JsValue → Prop
  | [] => True
  | element :: rest => element.IsJson ∧ AreJson rest

def FieldsAreJson : List (CodeUnits × JsValue) → Prop
  | [] => True
  | (_, value) :: rest => value.IsJson ∧ FieldsAreJson rest

end

/-- No number goes on here. -/
def Delimited (rest : CodeUnits) : Prop := ∀ unit ∈ rest.head?, isNumberUnit unit = false

theorem delimited_cons {unit : UInt16} (h : isNumberUnit unit = false) (rest : CodeUnits) :
    Delimited (unit :: rest) := by
  rintro _ ⟨⟩
  exact h

theorem delimited_nil : Delimited [] := by
  rintro _ ⟨⟩

theorem afterPrefix_append (expected rest : CodeUnits) :
    afterPrefix expected (expected ++ rest) = some rest := by
  rw [afterPrefix, if_pos (List.prefix_append _ _), List.drop_left]

theorem afterPrefix_of_head_ne {unit other : UInt16} (h : unit ≠ other) (rest expected : CodeUnits) :
    afterPrefix (unit :: expected) (other :: rest) = none := by
  rw [afterPrefix, if_neg]
  intro hprefix
  exact h (List.cons_prefix_cons.mp hprefix).1

theorem skipBlank_cons {unit : UInt16} (h : isJsonBlank unit = false) (rest : CodeUnits) :
    skipBlank (unit :: rest) = unit :: rest := by
  simp [skipBlank, h]

theorem FieldsAreJson.defined {key : CodeUnits} {value : JsValue}
    {rest : List (CodeUnits × JsValue)} (h : FieldsAreJson ((key, value) :: rest)) :
    value.isUndefined = false := by
  cases value with
  | undefined => exact absurd h.1 id
  | _ => rfl

/-- A field of a name that no other field has. -/
theorem addField_of_notMem {key : CodeUnits} {value : JsValue}
    {rest : List (CodeUnits × JsValue)} (h : key ∉ rest.map Prod.fst) :
    addField key value rest = (key, value) :: rest := by
  have hnone : rest.lookup key = none := by
    rw [List.lookup_eq_none_iff]
    intro field hfield
    rw [bne_iff_ne]
    rintro rfl
    exact h (List.mem_map_of_mem hfield)
  rw [addField, hnone]

theorem not_blank_of_number {unit : UInt16} (h : isNumberUnit unit = true) :
    isJsonBlank unit = false ∧ unit ≠ 34 ∧ unit ≠ 91 ∧ unit ≠ 123 ∧ unit ≠ 93 := by
  refine ⟨?_, ?_, ?_, ?_, ?_⟩
  · rw [isJsonBlank, decide_eq_false_iff_not]
    simp only [List.mem_cons, List.not_mem_nil, or_false, not_or]
    refine ⟨?_, ?_, ?_, ?_⟩
    all_goals
      rintro rfl
      exact absurd h (by decide)
  all_goals
    rintro rfl
    exact absurd h (by decide)

theorem parseLiteral_null (rest : CodeUnits) :
    parseLiteral (nullText ++ rest) = some (.null, rest) := by
  rw [parseLiteral, afterPrefix_append]
  rfl

theorem parseLiteral_bool (value : Bool) (rest : CodeUnits) :
    parseLiteral (boolText value ++ rest) = some (.bool value, rest) := by
  cases value with
  | true =>
      have hnull : afterPrefix nullText (boolText true ++ rest) = none :=
        afterPrefix_of_head_ne (by decide) _ _
      rw [parseLiteral, hnull, afterPrefix_append]
      rfl
  | false =>
      have hnull : afterPrefix nullText (boolText false ++ rest) = none :=
        afterPrefix_of_head_ne (by decide) _ _
      have htrue : afterPrefix (boolText true) (boolText false ++ rest) = none :=
        afterPrefix_of_head_ne (by decide) _ _
      rw [parseLiteral, hnull, htrue, afterPrefix_append]
      rfl

section ReadBack

variable [NumberText]

/-- A value starts with no blank, and is not the end of an array. -/
theorem text_cons : ∀ {value : JsValue}, value.IsJson →
    ∃ unit rest, value.text = unit :: rest ∧ isJsonBlank unit = false ∧ unit ≠ 93
  | .null, _ => ⟨110, [117, 108, 108], rfl, by decide, by decide⟩
  | .bool true, _ => ⟨116, [114, 117, 101], rfl, by decide, by decide⟩
  | .bool false, _ => ⟨102, [97, 108, 115, 101], rfl, by decide, by decide⟩
  | .number _, ⟨fraction, rfl⟩ => by
      cases hwrite : NumberText.write fraction with
      | nil => exact absurd hwrite (NumberText.write_ne_nil fraction)
      | cons unit rest =>
          have hmem : unit ∈ NumberText.write fraction := by simp [hwrite]
          have hunit := not_blank_of_number (NumberText.isNumberUnit_of_mem fraction unit hmem)
          exact ⟨unit, rest, hwrite, hunit.1, hunit.2.2.2.2⟩
  | .string value, _ => ⟨34, quoteUnits value ++ [34], rfl, by decide, by decide⟩
  | .array elements, _ => ⟨91, _, rfl, by decide, by decide⟩
  | .object fields, _ => ⟨123, _, rfl, by decide, by decide⟩

theorem parseNumber_text {fraction : Rat} {rest : CodeUnits} (hrest : Delimited rest) :
    parseNumber (NumberText.write fraction ++ rest) =
      some (.number (.finite fraction), rest) := by
  have hunits := NumberText.isNumberUnit_of_mem fraction
  have htail : rest.takeWhile isNumberUnit = [] ∧ rest.dropWhile isNumberUnit = rest := by
    cases rest with
    | nil => exact ⟨rfl, rfl⟩
    | cons unit rest =>
        have hunit := hrest unit rfl
        simp [hunit]
  rw [parseNumber, List.takeWhile_append_of_pos hunits, List.dropWhile_append_of_pos hunits,
    htail.1, htail.2, List.append_nil, NumberText.read_write]
  rfl

theorem parseValue_cons {unit : UInt16} (h : isJsonBlank unit = false) (fuel : Nat)
    (rest : CodeUnits) :
    parseValue (fuel + 1) (unit :: rest) =
      if unit = 34 then (parseString rest).map fun read => (.string read.1, read.2)
      else if unit = 91 then
        if (skipBlank rest).head? = some 93 then some (.array [], (skipBlank rest).drop 1)
        else (parseElements fuel rest).map fun read => (.array read.1, read.2)
      else if unit = 123 then
        if (skipBlank rest).head? = some 125 then some (.object [], (skipBlank rest).drop 1)
        else (parseFields fuel rest).map fun read => (.object read.1, read.2)
      else if isNumberUnit unit then parseNumber (unit :: rest)
      else parseLiteral (unit :: rest) := by
  rw [parseValue, skipBlank_cons h]

/-- A literal starts with a letter that starts nothing else. -/
theorem parseValue_literal {unit : UInt16} {text : CodeUnits} (fuel : Nat) (rest : CodeUnits)
    (h : unit ∈ ([110, 116, 102] : CodeUnits)) :
    parseValue (fuel + 1) (unit :: text ++ rest) = parseLiteral (unit :: text ++ rest) := by
  have hall : ∀ unit ∈ ([110, 116, 102] : CodeUnits), isJsonBlank unit = false ∧ unit ≠ 34 ∧
      unit ≠ 91 ∧ unit ≠ 123 ∧ isNumberUnit unit = false := forall_mem_of_all (by decide)
  obtain ⟨hblank, hquote, harray, hobject, hnumber⟩ := hall unit h
  rw [List.cons_append, parseValue_cons hblank, if_neg hquote, if_neg harray, if_neg hobject,
    hnumber]
  rfl

mutual

theorem parseValue_text : ∀ (value : JsValue) (fuel : Nat) (rest : CodeUnits), value.IsJson →
    value.text.length < fuel → Delimited rest →
      parseValue fuel (value.text ++ rest) = some (value, rest)
  | value, 0, _, _, hfuel, _ => absurd hfuel (Nat.not_lt_zero _)
  | .null, fuel + 1, rest, _, _, _ => by
      rw [← parseLiteral_null rest]
      exact parseValue_literal fuel rest (by decide)
  | .bool value, fuel + 1, rest, _, _, _ => by
      rw [← parseLiteral_bool value rest]
      cases value with
      | true => exact parseValue_literal fuel rest (by decide)
      | false => exact parseValue_literal fuel rest (by decide)
  | .number _, fuel + 1, rest, ⟨fraction, rfl⟩, _, hrest => by
      rw [← parseNumber_text hrest]
      change parseValue (fuel + 1) (NumberText.write fraction ++ rest) = _
      cases hwrite : NumberText.write fraction with
      | nil => exact absurd hwrite (NumberText.write_ne_nil fraction)
      | cons unit units =>
          have hnumber : isNumberUnit unit = true :=
            NumberText.isNumberUnit_of_mem fraction unit (by simp [hwrite])
          obtain ⟨hblank, hquote, harray, hobject, _⟩ := not_blank_of_number hnumber
          rw [List.cons_append, parseValue_cons hblank, if_neg hquote, if_neg harray,
            if_neg hobject, if_pos hnumber]
  | .string value, fuel + 1, rest, _, _, _ => by
      change parseValue (fuel + 1) (34 :: (quoteUnits value ++ [34] ++ rest)) = _
      rw [parseValue_cons (by decide), if_pos rfl, List.append_assoc, List.singleton_append,
        parseString_quoteUnits]
      rfl
  | .array [], fuel + 1, rest, _, _, _ => by
      change parseValue (fuel + 1) (91 :: 93 :: rest) = _
      rw [parseValue_cons (by decide), if_neg (by decide), if_pos rfl, skipBlank_cons (by decide)]
      rfl
  | .array (element :: elements), fuel + 1, rest, h, hfuel, _ => by
      have hinner := parseElements_text element elements fuel rest h
        (by simp [JsValue.text, elementTexts] at hfuel ⊢; omega)
      obtain ⟨unit, units, htext, hblank, hclose⟩ := text_cons h.1
      have hhead : ∃ more, joinParts (elementTexts (element :: elements)) = unit :: more := by
        cases elements with
        | nil => exact ⟨units, htext⟩
        | cons next others => exact ⟨units ++ 44 :: _, by rw [elementTexts, elementTexts,
            joinParts, htext, List.cons_append]⟩
      obtain ⟨more, hmore⟩ := hhead
      change parseValue (fuel + 1)
        (91 :: (joinParts (elementTexts (element :: elements)) ++ [93] ++ rest)) = _
      rw [parseValue_cons (by decide), if_neg (by decide), if_pos rfl, if_neg, List.append_assoc,
        List.singleton_append, hinner]
      · rfl
      · rw [hmore, List.cons_append, List.cons_append, skipBlank_cons hblank]
        simpa using hclose
  | .object [], fuel + 1, rest, _, _, _ => by
      change parseValue (fuel + 1) (123 :: 125 :: rest) = _
      rw [parseValue_cons (by decide), if_neg (by decide), if_neg (by decide), if_pos rfl,
        skipBlank_cons (by decide)]
      rfl
  | .object ((key, value) :: fields), fuel + 1, rest, h, hfuel, _ => by
      have hinner := parseFields_text key value fields fuel rest h.1 h.2
        (by simp [JsValue.text] at hfuel ⊢; omega)
      have hhead : ∃ more, joinParts (fieldTexts ((key, value) :: fields)) = 34 :: more := by
        rw [fieldTexts, h.2.defined]
        cases hfields : fieldTexts fields with
        | nil => exact ⟨_, rfl⟩
        | cons part parts => exact ⟨_, rfl⟩
      obtain ⟨more, hmore⟩ := hhead
      change parseValue (fuel + 1)
        (123 :: (joinParts (fieldTexts ((key, value) :: fields)) ++ [125] ++ rest)) = _
      rw [parseValue_cons (by decide), if_neg (by decide), if_neg (by decide), if_pos rfl, if_neg,
        List.append_assoc, List.singleton_append, hinner]
      · rfl
      · rw [hmore, List.cons_append, List.cons_append, skipBlank_cons (by decide)]
        simp

theorem parseElements_text : ∀ (element : JsValue) (elements : List JsValue) (fuel : Nat)
    (rest : CodeUnits), AreJson (element :: elements) →
    (joinParts (elementTexts (element :: elements))).length + 1 < fuel →
      parseElements fuel (joinParts (elementTexts (element :: elements)) ++ 93 :: rest) =
        some (element :: elements, rest)
  | _, _, 0, _, _, hfuel => absurd hfuel (Nat.not_lt_zero _)
  | element, [], fuel + 1, rest, h, hfuel => by
      have hfirst := parseValue_text element fuel (93 :: rest) h.1
        (by simp [elementTexts, joinParts] at hfuel; omega) (delimited_cons (by decide) rest)
      change parseElements (fuel + 1) (element.text ++ 93 :: rest) = _
      rw [parseElements, hfirst]
      rfl
  | element, next :: others, fuel + 1, rest, h, hfuel => by
      have hlength : (joinParts (elementTexts (element :: next :: others))).length =
          element.text.length + (joinParts (elementTexts (next :: others))).length + 1 := by
        simp [elementTexts, joinParts]
        omega
      obtain ⟨unit, units, htext, _, _⟩ := text_cons h.1
      have hpositive : 0 < element.text.length := by simp [htext]
      have hfirst := parseValue_text element fuel
        (44 :: (joinParts (elementTexts (next :: others)) ++ 93 :: rest)) h.1 (by omega)
        (delimited_cons (by decide) _)
      have hothers := parseElements_text next others fuel rest h.2 (by omega)
      have htext : joinParts (elementTexts (element :: next :: others)) ++ 93 :: rest =
          element.text ++ 44 :: (joinParts (elementTexts (next :: others)) ++ 93 :: rest) := by
        simp [elementTexts, joinParts]
      rw [htext, parseElements, hfirst]
      change (parseElements fuel _).map _ = _
      rw [hothers]
      rfl

theorem parseFields_text : ∀ (key : CodeUnits) (value : JsValue)
    (fields : List (CodeUnits × JsValue)) (fuel : Nat) (rest : CodeUnits),
    (((key, value) :: fields).map Prod.fst).Nodup → FieldsAreJson ((key, value) :: fields) →
    (joinParts (fieldTexts ((key, value) :: fields))).length + 1 < fuel →
      parseFields fuel (joinParts (fieldTexts ((key, value) :: fields)) ++ 125 :: rest) =
        some ((key, value) :: fields, rest)
  | _, _, _, 0, _, _, _, hfuel => absurd hfuel (Nat.not_lt_zero _)
  | key, value, [], fuel + 1, rest, _, h, hfuel => by
      have htext : joinParts (fieldTexts [(key, value)]) = quote key ++ 58 :: value.text := by
        simp [fieldTexts, h.defined, joinParts]
      rw [htext] at hfuel ⊢
      have hfirst := parseValue_text value fuel (125 :: rest) h.1
        (by simp [quote] at hfuel; omega) (delimited_cons (by decide) rest)
      have hkey : quote key ++ 58 :: value.text ++ 125 :: rest =
          34 :: (quoteUnits key ++ 34 :: 58 :: (value.text ++ 125 :: rest)) := by simp [quote]
      rw [hkey, parseFields, skipBlank_cons (by decide)]
      simp only
      rw [parseString_quoteUnits]
      simp only [Option.bind_eq_bind, Option.bind_some]
      rw [skipBlank_cons (by decide)]
      simp only
      rw [hfirst]
      rfl
  | key, value, (other, next) :: others, fuel + 1, rest, hnodup, h, hfuel => by
      have hkeys := List.nodup_cons.mp hnodup
      have hothers := h.2
      have htext : joinParts (fieldTexts ((key, value) :: (other, next) :: others)) =
          quote key ++ 58 :: (value.text ++
            44 :: joinParts (fieldTexts ((other, next) :: others))) := by
        simp [fieldTexts, h.defined, hothers.defined, joinParts]
      rw [htext] at hfuel ⊢
      have hlength : (quote key ++ 58 :: (value.text ++
          44 :: joinParts (fieldTexts ((other, next) :: others)))).length =
          (quote key).length + value.text.length +
            (joinParts (fieldTexts ((other, next) :: others))).length + 2 := by
        simp
        omega
      have hfirst := parseValue_text value fuel
        (44 :: (joinParts (fieldTexts ((other, next) :: others)) ++ 125 :: rest)) h.1 (by omega)
        (delimited_cons (by decide) _)
      have hrest := parseFields_text other next others fuel rest hkeys.2 hothers (by omega)
      have hkey : quote key ++ 58 :: (value.text ++
          44 :: joinParts (fieldTexts ((other, next) :: others))) ++ 125 :: rest =
          34 :: (quoteUnits key ++ 34 :: 58 :: (value.text ++
            44 :: (joinParts (fieldTexts ((other, next) :: others)) ++ 125 :: rest))) := by
        simp [quote]
      rw [hkey, parseFields, skipBlank_cons (by decide)]
      simp only
      rw [parseString_quoteUnits]
      simp only [Option.bind_eq_bind, Option.bind_some]
      rw [skipBlank_cons (by decide)]
      simp only
      rw [hfirst]
      change (parseFields fuel _).map _ = _
      rw [hrest, Option.map_some, addField_of_notMem hkeys.1]

end

/-- What is written is read back, with or without a new line after it. -/
theorem parseJson_text {value : JsValue} (h : value.IsJson) : parseJson value.text = some value := by
  have hread := parseValue_text value (value.text.length + 2) [] h (by omega) delimited_nil
  rw [List.append_nil] at hread
  rw [parseJson, hread]
  rfl

end ReadBack

end MatchPlane.Library
