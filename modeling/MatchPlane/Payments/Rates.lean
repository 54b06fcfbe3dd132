import MatchPlane.Library.JsonLiterals

/-!
# Exchange rates

The response of an exchange rate provider is read without turning its numbers into floating
point numbers: every number is quoted before the text is parsed.
-/

namespace MatchPlane.ExchangeRate

open MatchPlane.Library

/-- What the pattern of numbers matches at a sign or a digit; no match is no token. -/
def numberToken (character : UInt16) (rest : CodeUnits) : CodeUnits :=
  if character = 45 ∨ isDecimalDigit character then
    ((scanNumber (character :: rest)).map (·.1.text)).getD []
  else []

/-- The loop of `quoteJsonNumbers` over the rest of its text. -/
def quoteFrom (inString escaped : Bool) (text : CodeUnits) : CodeUnits :=
  match text with
  | [] => []
  | character :: rest =>
      if inString then
        character :: (
          if escaped then quoteFrom true false rest
          else if character = 92 then quoteFrom true true rest
          else if character = 34 then quoteFrom false false rest
          else quoteFrom true false rest)
      else if character = 34 then character :: quoteFrom true escaped rest
      else if h : numberToken character rest ≠ [] then
        have : 0 < (numberToken character rest).length := List.length_pos_iff.mpr h
        34 :: (numberToken character rest ++
          34 :: quoteFrom false escaped
            ((character :: rest).drop (numberToken character rest).length))
      else character :: quoteFrom false escaped rest
  termination_by text.length
  decreasing_by all_goals simp only [List.length_cons, List.length_drop]; omega

def quoteJsonNumbers (value : CodeUnits) : CodeUnits := quoteFrom false false value

/-! ## Quoting outside of strings -/

/-- A unit that starts neither a string nor a number. -/
def IsPlain (unit : UInt16) : Prop := unit ≠ 34 ∧ unit ≠ 45 ∧ isDecimalDigit unit = false

theorem quote_plain {unit : UInt16} (h : IsPlain unit) (rest : CodeUnits) :
    quoteJsonNumbers (unit :: rest) = unit :: quoteJsonNumbers rest := by
  have htoken : numberToken unit rest = [] := by simp [numberToken, h.2.1, h.2.2]
  rw [quoteJsonNumbers, quoteFrom]
  simp [h.1, htoken, quoteJsonNumbers]

theorem quote_string (rest : CodeUnits) :
    quoteJsonNumbers (34 :: rest) = 34 :: quoteFrom true false rest := by
  rw [quoteJsonNumbers, quoteFrom]
  simp

theorem quote_nil : quoteJsonNumbers [] = [] := by
  rw [quoteJsonNumbers, quoteFrom]

theorem quote_append {text : CodeUnits} (h : ∀ unit ∈ text, IsPlain unit) (rest : CodeUnits) :
    quoteJsonNumbers (text ++ rest) = text ++ quoteJsonNumbers rest := by
  induction text with
  | nil => rfl
  | cons unit text ih =>
      rw [List.forall_mem_cons] at h
      rw [List.cons_append, quote_plain h.1, ih h.2, List.cons_append]

/-- A literal starts with a sign or a digit. -/
theorem text_start (literal : NumberLiteral) :
    ∃ unit, literal.text.head? = some unit ∧ (unit = 45 ∨ isDecimalDigit unit = true) := by
  cases hsign : literal.negative with
  | true => exact ⟨45, by simp [NumberLiteral.text, NumberLiteral.signText, hsign], .inl rfl⟩
  | false =>
      cases hunits : literal.integer.units with
      | nil => exact absurd hunits literal.integer.nonempty
      | cons unit units =>
          have hdigit := literal.integer.valid unit (by simp [hunits])
          exact ⟨unit, by simp [NumberLiteral.text, NumberLiteral.signText, hsign, hunits],
            .inr hdigit⟩

theorem quote_number (literal : NumberLiteral) {rest : CodeUnits} (h : Delimited rest) :
    quoteJsonNumbers (literal.text ++ rest) =
      34 :: (literal.text ++ 34 :: quoteJsonNumbers rest) := by
  obtain ⟨unit, hhead, hstart⟩ := text_start literal
  have htext := (cons_tail_of_head hhead).symm
  have hscan := scanNumber_append literal h
  have hne : unit ≠ 34 := by
    rintro rfl
    simp [isDecimalDigit] at hstart
  rw [htext, List.cons_append] at hscan
  have htoken : numberToken unit (literal.text.tail ++ rest) = literal.text := by
    simp [numberToken, hstart, hscan]
  have hsome : literal.text ≠ [] := by
    rw [htext]
    exact List.cons_ne_nil _ _
  have hdrop : (unit :: (literal.text.tail ++ rest)).drop literal.text.length = rest := by
    rw [← List.cons_append, ← htext, List.drop_left]
  have hquote : quoteJsonNumbers (unit :: (literal.text.tail ++ rest)) =
      34 :: (literal.text ++ 34 :: quoteJsonNumbers rest) := by
    rw [quoteJsonNumbers, quoteFrom]
    simp only [htoken, hne, hsome, hdrop, ne_eq, not_false_eq_true, dite_true, if_false,
      Bool.false_eq_true, quoteJsonNumbers]
  rw [← hquote, ← List.cons_append, ← htext]

/-! ## Quoting keeps blanks and what stands between values -/

theorem plain_of_blank {unit : UInt16} (h : isJsonBlank unit = true) : IsPlain unit := by
  simp only [isJsonBlank, List.mem_cons, List.not_mem_nil, or_false, decide_eq_true_eq] at h
  rcases h with rfl | rfl | rfl | rfl <;> simp [IsPlain, isDecimalDigit]

/-- A text starts as before, or with the quote of a string or number. -/
theorem quote_head (unit : UInt16) (rest : CodeUnits) :
    (∃ tail, quoteJsonNumbers (unit :: rest) = unit :: tail) ∨
      ¬IsPlain unit ∧ ∃ tail, quoteJsonNumbers (unit :: rest) = 34 :: tail := by
  by_cases hplain : IsPlain unit
  · exact .inl ⟨_, quote_plain hplain rest⟩
  · rw [quoteJsonNumbers, quoteFrom]
    simp only [Bool.false_eq_true, if_false]
    split
    · exact .inl ⟨_, rfl⟩
    · split
      · exact .inr ⟨hplain, _, rfl⟩
      · exact .inl ⟨_, rfl⟩

theorem skipBlank_quote (text : CodeUnits) :
    skipBlank (quoteJsonNumbers text) = quoteJsonNumbers (skipBlank text) := by
  induction text with
  | nil => rw [quote_nil, skipBlank, List.dropWhile_nil, quote_nil]
  | cons unit rest ih =>
      cases hblank : isJsonBlank unit with
      | true =>
          rw [quote_plain (plain_of_blank hblank), skipBlank, List.dropWhile_cons_of_pos hblank,
            skipBlank, List.dropWhile_cons_of_pos hblank]
          exact ih
      | false =>
          rw [skipBlank_cons hblank]
          rcases quote_head unit rest with ⟨tail, htail⟩ | ⟨_, tail, htail⟩
          · rw [htail, skipBlank_cons hblank]
          · rw [htail, skipBlank_cons (by decide)]

theorem head_quote {text : CodeUnits} {unit : UInt16} (h : IsPlain unit) :
    (quoteJsonNumbers text).head? = some unit ↔ text.head? = some unit := by
  cases text with
  | nil => simp [quote_nil]
  | cons first rest =>
      rcases quote_head first rest with ⟨tail, htail⟩ | ⟨hother, tail, htail⟩
      · simp [htail]
      · have hfirst : first ≠ unit := by
          rintro rfl
          exact hother h
        simp [htail, hfirst, h.1.symm]

theorem length_quoteFrom (inString escaped : Bool) (text : CodeUnits) :
    text.length ≤ (quoteFrom inString escaped text).length := by
  fun_induction quoteFrom inString escaped text with
  | case1 => exact Nat.zero_le _
  | case2 escaped character afterEscape afterBackslash afterQuote afterOther =>
      simp only [List.length_cons]
      split
      · omega
      · split
        · omega
        · split <;> omega
  | case3 escaped rest _ ih =>
      simp only [List.length_cons]
      omega
  | case4 inString escaped character rest _ _ htoken _ ih =>
      simp only [List.length_cons, List.length_append, List.length_drop] at ih ⊢
      omega
  | case5 inString escaped character rest _ _ _ ih =>
      simp only [List.length_cons]
      omega

/-! ## Quoting inside of strings -/

theorem hexValue_plain {unit : UInt16} {value : Nat} (h : hexValue unit = some value) :
    unit ≠ 34 ∧ unit ≠ 92 := by
  constructor
  · rintro rfl
    cases h
  · rintro rfl
    cases h

theorem quote_inside {unit : UInt16} (hquote : unit ≠ 34) (hbackslash : unit ≠ 92)
    (rest : CodeUnits) :
    quoteFrom true false (unit :: rest) = unit :: quoteFrom true false rest := by
  rw [quoteFrom]
  simp [hquote, hbackslash]

theorem quote_escape (letter : UInt16) (rest : CodeUnits) :
    quoteFrom true false (92 :: letter :: rest) = 92 :: letter :: quoteFrom true false rest := by
  have hletter : quoteFrom true true (letter :: rest) = letter :: quoteFrom true false rest := by
    rw [quoteFrom]
    simp
  rw [quoteFrom]
  simp [hletter]

theorem parseString_quoteFrom (text : CodeUnits) {value rest : CodeUnits}
    (h : parseString text = some (value, rest)) :
    parseString (quoteFrom true false text) = some (value, quoteJsonNumbers rest) := by
  fun_induction parseString text generalizing value rest with
  | case1 => cases h
  | case2 a b c d tail ih =>
      obtain ⟨unit, hunit, hrest⟩ := Option.bind_eq_some_iff.mp h
      obtain ⟨read, hread, hsame⟩ := Option.map_eq_some_iff.mp hrest
      cases hsame
      have hplain : ∀ digit ∈ [a, b, c, d], digit ≠ 34 ∧ digit ≠ 92 := by
        simp only [unitOfHex, Option.bind_eq_bind, Option.bind_eq_some_iff] at hunit
        obtain ⟨x, hx, y, hy, z, hz, w, hw, -⟩ := hunit
        simp only [List.forall_mem_cons, List.not_mem_nil, false_imp_iff, implies_true, and_true]
        exact ⟨hexValue_plain hx, hexValue_plain hy, hexValue_plain hz, hexValue_plain hw⟩
      simp only [List.forall_mem_cons, List.not_mem_nil, false_imp_iff, implies_true, and_true]
        at hplain
      obtain ⟨ha, hb, hc, hd⟩ := hplain
      rw [quote_escape, quote_inside ha.1 ha.2, quote_inside hb.1 hb.2, quote_inside hc.1 hc.2,
        quote_inside hd.1 hd.2, parseString, hunit]
      change (parseString _).map _ = _
      rw [ih hread]
      rfl
  | case3 letter tail hother ih =>
      obtain ⟨unit, hunit, hrest⟩ := Option.bind_eq_some_iff.mp h
      obtain ⟨read, hread, hsame⟩ := Option.map_eq_some_iff.mp hrest
      cases hsame
      have hletter : letter ≠ 117 := by
        rintro rfl
        cases hunit
      rw [quote_escape, parseString, hunit]
      · change (parseString _).map _ = _
        rw [ih hread]
        rfl
      · intro a b c d rest hsame
        exact absurd hsame hletter
  | case4 tail =>
      cases h
      rw [quoteFrom]
      simp [parseString, quoteJsonNumbers]
  | case5 => cases h
  | case6 unit tail hescape hletter hquote hplain ih =>
      obtain ⟨read, hread, hsame⟩ := Option.map_eq_some_iff.mp h
      cases hsame
      rw [not_or, not_lt] at hplain
      rw [quote_inside hquote hplain.2, parseString_plain hplain.1 hquote hplain.2, ih hread]
      rfl

/-! ## Quoted texts are parsed alike -/

theorem parseString_units {text : CodeUnits} (h : ∀ unit ∈ text, isNumberUnit unit = true)
    (rest : CodeUnits) : parseString (text ++ 34 :: rest) = some (text, rest) := by
  induction text with
  | nil => simp [parseString]
  | cons unit text ih =>
      rw [List.forall_mem_cons] at h
      have hquote : unit ≠ 34 := by
        rintro rfl
        simp [isNumberUnit] at h
      have hbackslash : unit ≠ 92 := by
        rintro rfl
        simp [isNumberUnit] at h
      have hcontrol : 0x20 ≤ unit.toNat := by
        have hunit := h.1
        simp only [isNumberUnit, List.mem_cons, List.not_mem_nil, or_false, decide_eq_true_eq]
          at hunit
        rcases hunit with hdigit | rfl | rfl | rfl | rfl | rfl
        · omega
        all_goals decide
      rw [List.cons_append, parseString_plain hcontrol hquote hbackslash, ih h.2]
      rfl

theorem afterPrefix_eq_some {expected text rest : CodeUnits}
    (h : afterPrefix expected text = some rest) : text = expected ++ rest := by
  unfold afterPrefix at h
  split at h
  · rename_i hprefix
    obtain ⟨tail, rfl⟩ := hprefix
    simpa using h
  · cases h

/-- What a mark of the text becomes. -/
theorem skipBlank_mark {text rest : CodeUnits} {unit : UInt16} (hplain : IsPlain unit)
    (h : skipBlank text = unit :: rest) :
    skipBlank (quoteJsonNumbers text) = unit :: quoteJsonNumbers rest := by
  rw [skipBlank_quote, h, quote_plain hplain]

section Parse

variable [NumberText]

theorem parseValue_skip (fuel : Nat) (text : CodeUnits) :
    parseValue fuel text = parseValue fuel (skipBlank text) := by
  cases fuel with
  | zero => simp only [parseValue]
  | succ fuel =>
      have hskip : skipBlank (skipBlank text) = skipBlank text := List.dropWhile_idempotent ..
      rw [parseValue, parseValue, hskip]

omit [NumberText] in
theorem parseLiteral_cases {text rest : CodeUnits} {value : JsValue}
    (h : parseLiteral text = some (value, rest)) :
    (value = .null ∧ text = nullText ++ rest) ∨
      ∃ bool, value = .bool bool ∧ text = boolText bool ++ rest := by
  simp only [parseLiteral, Option.or_eq_some_iff, Option.map_eq_some_iff, Prod.mk.injEq] at h
  rcases h with ⟨tail, htail, rfl, rfl⟩ | ⟨-, ⟨tail, htail, rfl, rfl⟩ | ⟨-, tail, htail, rfl, rfl⟩⟩
  · exact .inl ⟨rfl, afterPrefix_eq_some htail⟩
  · exact .inr ⟨true, rfl, afterPrefix_eq_some htail⟩
  · exact .inr ⟨false, rfl, afterPrefix_eq_some htail⟩

/-- A constant is copied, and read again. -/
theorem parseValue_constant {text rest : CodeUnits} {value : JsValue} (fuel : Nat)
    (h : parseLiteral text = some (value, rest)) :
    parseValue (fuel + 1) (quoteJsonNumbers text) = some (value, quoteJsonNumbers rest) := by
  have hplain : ∀ unit ∈ nullText ++ (boolText true ++ boolText false), IsPlain unit := by
    simp [nullText, boolText, IsPlain, isDecimalDigit]
  rcases parseLiteral_cases h with ⟨rfl, rfl⟩ | ⟨bool, rfl, rfl⟩
  · rw [quote_append fun unit hunit => hplain unit (by simp [hunit]), ← parseLiteral_null]
    exact parseValue_literal fuel _ (by decide)
  · cases bool with
    | true =>
        rw [quote_append fun unit hunit => hplain unit (by simp [hunit]), ← parseLiteral_bool]
        exact parseValue_literal fuel _ (by decide)
    | false =>
        rw [quote_append fun unit hunit => hplain unit (by simp [hunit]), ← parseLiteral_bool]
        exact parseValue_literal fuel _ (by decide)

/-- A number has become a string. -/
theorem parseValue_number {text rest : CodeUnits} {value : JsValue} (fuel : Nat)
    (h : readNumber literalString text = some (value, rest)) :
    parseValue (fuel + 1) (quoteJsonNumbers text) = some (value, quoteJsonNumbers rest) := by
  obtain ⟨read, hread, hsame⟩ := Option.map_eq_some_iff.mp h
  obtain ⟨literal, hliteral, rfl⟩ := Option.map_eq_some_iff.mp hread
  obtain ⟨rfl, rfl⟩ := Prod.mk.injEq .. ▸ hsame
  have htext := readLiteral_text hliteral
  have hdelimited : Delimited (text.dropWhile isNumberUnit) := by
    intro unit hunit
    have hhead := List.head?_dropWhile_not isNumberUnit text
    rw [Option.mem_def.mp hunit] at hhead
    simpa using hhead
  have hunits : ∀ unit ∈ literal.text, isNumberUnit unit = true := by
    rw [htext]
    exact fun _ => List.mem_takeWhile_imp
  have hquote : quoteJsonNumbers text = 34 :: (literal.text ++
      34 :: quoteJsonNumbers (text.dropWhile isNumberUnit)) := by
    rw [← quote_number literal hdelimited, htext, List.takeWhile_append_dropWhile]
  rw [hquote, parseValue_cons (by decide), if_pos rfl, parseString_units hunits, htext]
  rfl

/-- A parser reads from a quoted text what a reader reads from the text. -/
def Copies {α : Type} (reader parser : CodeUnits → Option (α × CodeUnits)) : Prop :=
  ∀ text value rest, reader text = some (value, rest) →
    parser (quoteJsonNumbers text) = some (value, quoteJsonNumbers rest)

omit [NumberText] in
/-- What stands between the brackets of an array or an object. -/
theorem copies_brackets {α : Type} {close : UInt16} (hclose : IsPlain close) (empty : JsValue)
    (build : α → JsValue) {reader parser : CodeUnits → Option (α × CodeUnits)}
    (h : Copies reader parser) :
    Copies
      (fun rest => if (skipBlank rest).head? = some close then some (empty, (skipBlank rest).drop 1)
        else (reader rest).map fun read => (build read.1, read.2))
      (fun rest => if (skipBlank rest).head? = some close then some (empty, (skipBlank rest).drop 1)
        else (parser rest).map fun read => (build read.1, read.2)) := by
  intro text value rest hread
  dsimp only at hread ⊢
  rw [skipBlank_quote]
  simp only [head_quote hclose]
  split at hread
  · rename_i hend
    cases hread
    rw [if_pos hend, ← cons_tail_of_head hend, quote_plain hclose]
    rfl
  · rename_i hend
    obtain ⟨read, hinner, hsame⟩ := Option.map_eq_some_iff.mp hread
    cases hsame
    rw [if_neg hend, h text _ _ hinner]
    rfl

theorem copies_value {fuel larger : Nat}
    (helements : Copies (readElements literalString fuel) (parseElements larger))
    (hfields : Copies (readFields literalString fuel) (parseFields larger)) :
    Copies (readValue literalString (fuel + 1)) (parseValue (larger + 1)) := by
  have hopen : IsPlain 91 := by simp [IsPlain, isDecimalDigit]
  have hclose : IsPlain 93 := by simp [IsPlain, isDecimalDigit]
  have hleft : IsPlain 123 := by simp [IsPlain, isDecimalDigit]
  have hright : IsPlain 125 := by simp [IsPlain, isDecimalDigit]
  intro text value rest h
  rw [readValue] at h
  have hskip := parseValue_skip (larger + 1) (quoteJsonNumbers text)
  rw [skipBlank_quote] at hskip
  rw [hskip]
  split at h
  · cases h
  · rename_i unit tail htail
    rw [htail]
    split at h
    · rename_i hstring
      obtain ⟨read, hread, hsame⟩ := Option.map_eq_some_iff.mp h
      cases hsame
      rw [hstring, quote_string, parseValue_cons (by decide), if_pos rfl,
        parseString_quoteFrom tail hread]
      rfl
    split at h
    · rename_i harray
      rw [harray, quote_plain hopen, parseValue_cons (by decide), if_neg (by decide), if_pos rfl]
      exact copies_brackets hclose _ _ helements tail value rest h
    split at h
    · rename_i hobject
      rw [hobject, quote_plain hleft, parseValue_cons (by decide), if_neg (by decide),
        if_neg (by decide), if_pos rfl]
      exact copies_brackets hright _ _ hfields tail value rest h
    split at h
    · exact parseValue_number larger h
    · exact parseValue_constant larger h

theorem copies_elements {fuel larger : Nat}
    (hvalue : Copies (readValue literalString fuel) (parseValue larger))
    (helements : Copies (readElements literalString fuel) (parseElements larger)) :
    Copies (readElements literalString (fuel + 1)) (parseElements (larger + 1)) := by
  have hcomma : IsPlain 44 := by simp [IsPlain, isDecimalDigit]
  have hclose : IsPlain 93 := by simp [IsPlain, isDecimalDigit]
  intro text values rest h
  rw [readElements] at h
  obtain ⟨⟨element, tail⟩, hread, hnext⟩ := Option.bind_eq_some_iff.mp h
  rw [parseElements, hvalue text element tail hread, Option.bind_eq_bind, Option.bind_some]
  simp only at hnext ⊢
  split at hnext
  · rename_i next hskip
    obtain ⟨read, hread, hsame⟩ := Option.map_eq_some_iff.mp hnext
    cases hsame
    rw [skipBlank_mark hcomma hskip]
    simp only
    rw [helements next _ _ hread]
    rfl
  · rename_i next hskip
    cases hnext
    rw [skipBlank_mark hclose hskip]
    rfl
  · cases hnext

theorem copies_fields {fuel larger : Nat}
    (hvalue : Copies (readValue literalString fuel) (parseValue larger))
    (hfields : Copies (readFields literalString fuel) (parseFields larger)) :
    Copies (readFields literalString (fuel + 1)) (parseFields (larger + 1)) := by
  have hcomma : IsPlain 44 := by simp [IsPlain, isDecimalDigit]
  have hcolon : IsPlain 58 := by simp [IsPlain, isDecimalDigit]
  have hclose : IsPlain 125 := by simp [IsPlain, isDecimalDigit]
  intro text fields rest h
  rw [readFields] at h
  split at h
  · rename_i inside hstring
    obtain ⟨⟨key, afterKey⟩, hkey, h⟩ := Option.bind_eq_some_iff.mp h
    rw [parseFields, skipBlank_quote, hstring, quote_string]
    simp only at h ⊢
    rw [parseString_quoteFrom inside hkey, Option.bind_eq_bind, Option.bind_some]
    split at h
    · rename_i after hmark
      obtain ⟨⟨value, tail⟩, hread, h⟩ := Option.bind_eq_some_iff.mp h
      simp only at h ⊢
      rw [skipBlank_mark hcolon hmark]
      simp only
      rw [hvalue after value tail hread, Option.bind_eq_bind, Option.bind_some]
      simp only
      split at h
      · rename_i next hskip
        obtain ⟨read, hread, hsame⟩ := Option.map_eq_some_iff.mp h
        cases hsame
        rw [skipBlank_mark hcomma hskip]
        simp only
        rw [hfields next _ _ hread]
        rfl
      · rename_i next hskip
        cases h
        rw [skipBlank_mark hclose hskip]
        rfl
      · cases h
    · cases h
  · cases h

/-- Quoting changes nothing that is read but the numbers. -/
theorem copies_read (fuel : Nat) : ∀ larger, fuel ≤ larger →
    Copies (readValue literalString fuel) (parseValue larger) ∧
      Copies (readElements literalString fuel) (parseElements larger) ∧
        Copies (readFields literalString fuel) (parseFields larger) := by
  induction fuel with
  | zero =>
      intro larger _
      refine ⟨fun text value rest h => ?_, fun text values rest h => ?_,
        fun text fields rest h => ?_⟩
      · simp [readValue] at h
      · simp [readElements] at h
      · simp [readFields] at h
  | succ fuel ih =>
      intro larger hlarger
      cases larger with
      | zero => omega
      | succ larger =>
          obtain ⟨hvalue, helements, hfields⟩ := ih larger (by omega)
          exact ⟨copies_value helements hfields, copies_elements hvalue helements,
            copies_fields hvalue hfields⟩

/-- Quoting loses no number to floating point: each one is read as the text it was sent with. -/
theorem parseJson_quoteJsonNumbers {text : CodeUnits} {value : JsValue}
    (h : readJson literalString text = some value) :
    parseJson (quoteJsonNumbers text) = some value := by
  unfold readJson at h
  split at h
  · rename_i read rest hread
    have hlength := length_quoteFrom false false text
    have hparsed := (copies_read _ ((quoteJsonNumbers text).length + 2)
      (Nat.add_le_add_right hlength 2)).1 text read rest hread
    split at h
    · rename_i hend
      cases h
      rw [parseJson, hparsed]
      dsimp only
      rw [skipBlank_quote, hend, quote_nil, if_pos rfl]
    · cases h
  · cases h

end Parse

/-- `{"r":1.50,"s":"-2"}` -/
theorem parseJson_quoteJsonNumbers_object :
    @parseJson plainNumbers (quoteJsonNumbers
      [123, 34, 114, 34, 58, 49, 46, 53, 48, 44, 34, 115, 34, 58, 34, 45, 50, 34, 125]) =
      some (.object [([114], .string [49, 46, 53, 48]), ([115], .string [45, 50])]) :=
  @parseJson_quoteJsonNumbers plainNumbers _ _ rfl

end MatchPlane.ExchangeRate
