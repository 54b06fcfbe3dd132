import MatchPlane.Library.NumberLiterals

/-!
# JSON with the literals of its numbers

Reading a JSON text when it is left open what becomes of the text of a number.
-/

namespace MatchPlane.Library

section Read

variable (number : CodeUnits → Option JsValue)

def readNumber (text : CodeUnits) : Option (JsValue × CodeUnits) :=
  (number (text.takeWhile isNumberUnit)).map fun value => (value, text.dropWhile isNumberUnit)

mutual

def readValue : Nat → CodeUnits → Option (JsValue × CodeUnits)
  | 0, _ => none
  | fuel + 1, text =>
      match skipBlank text with
      | [] => none
      | unit :: rest =>
          if unit = 34 then (parseString rest).map fun read => (.string read.1, read.2)
          else if unit = 91 then
            if (skipBlank rest).head? = some 93 then some (.array [], (skipBlank rest).drop 1)
            else (readElements fuel rest).map fun read => (.array read.1, read.2)
          else if unit = 123 then
            if (skipBlank rest).head? = some 125 then some (.object [], (skipBlank rest).drop 1)
            else (readFields fuel rest).map fun read => (.object read.1, read.2)
          else if isNumberUnit unit then readNumber number (unit :: rest)
          else parseLiteral (unit :: rest)

def readElements : Nat → CodeUnits → Option (List JsValue × CodeUnits)
  | 0, _ => none
  | fuel + 1, text => do
      let (element, rest) ← readValue fuel text
      match skipBlank rest with
      | 44 :: rest => (readElements fuel rest).map fun read => (element :: read.1, read.2)
      | 93 :: rest => some ([element], rest)
      | _ => none

def readFields : Nat → CodeUnits → Option (List (CodeUnits × JsValue) × CodeUnits)
  | 0, _ => none
  | fuel + 1, text => do
      let (key, rest) ← match skipBlank text with
        | 34 :: rest => parseString rest
        | _ => none
      let (value, rest) ← match skipBlank rest with
        | 58 :: rest => readValue fuel rest
        | _ => none
      match skipBlank rest with
      | 44 :: rest => (readFields fuel rest).map fun read => (addField key value read.1, read.2)
      | 125 :: rest => some ([(key, value)], rest)
      | _ => none

end

def readJson (text : CodeUnits) : Option JsValue :=
  match readValue number (text.length + 2) text with
  | some (value, rest) => if skipBlank rest = [] then some value else none
  | none => none

end Read

/-- A number becomes the string of its literal. -/
def literalString (text : CodeUnits) : Option JsValue :=
  (readLiteral text).map fun _ => .string text

/-! ## `JSON.parse` reads numbers as numbers -/

section Parse

variable [NumberText]

def numberValue (text : CodeUnits) : Option JsValue := (NumberText.read text).map .number

theorem parseNumber_eq (text : CodeUnits) : parseNumber text = readNumber numberValue text := by
  rw [parseNumber, readNumber, numberValue]
  cases NumberText.read (text.takeWhile isNumberUnit)
  all_goals rfl

theorem parse_eq_read (fuel : Nat) :
    (∀ text, parseValue fuel text = readValue numberValue fuel text) ∧
      (∀ text, parseElements fuel text = readElements numberValue fuel text) ∧
        ∀ text, parseFields fuel text = readFields numberValue fuel text := by
  induction fuel with
  | zero =>
      refine ⟨fun text => ?_, fun text => ?_, fun text => ?_⟩
      · rw [parseValue, readValue]
      · rw [parseElements, readElements]
      · rw [parseFields, readFields]
  | succ fuel ih =>
      obtain ⟨hvalue, helements, hfields⟩ := ih
      refine ⟨fun text => ?_, fun text => ?_, fun text => ?_⟩
      · rw [parseValue, readValue]
        simp only [helements, hfields, parseNumber_eq]
        all_goals rfl
      · rw [parseElements, readElements]
        simp only [hvalue, helements]
        all_goals rfl
      · rw [parseFields, readFields]
        simp only [hvalue, hfields]
        all_goals rfl

theorem parseJson_eq_readJson (text : CodeUnits) :
    parseJson text = readJson numberValue text := by
  rw [parseJson, readJson, (parse_eq_read _).1]
  all_goals rfl

end Parse

/-! ## Which texts are read -/

section Domain

/-- Two ways of reading that go on at the same place. -/
def SameEnd {α β : Type} (first : Option (α × CodeUnits)) (second : Option (β × CodeUnits)) :
    Prop :=
  first.map (·.2) = second.map (·.2)

variable {α β γ δ : Type}

theorem SameEnd.map {first : Option (α × CodeUnits)} {second : Option (β × CodeUnits)}
    (h : SameEnd first second) (f : α → γ) (g : β → δ) :
    SameEnd (first.map fun read => (f read.1, read.2))
      (second.map fun read => (g read.1, read.2)) := by
  simpa [SameEnd, Function.comp_def] using h

theorem SameEnd.bind {first : Option (α × CodeUnits)} {second : Option (β × CodeUnits)}
    (h : SameEnd first second) {f : α × CodeUnits → Option (γ × CodeUnits)}
    {g : β × CodeUnits → Option (δ × CodeUnits)}
    (hnext : ∀ read read', read.2 = read'.2 → SameEnd (f read) (g read')) :
    SameEnd (first.bind f) (second.bind g) := by
  cases first with
  | none =>
      cases second with
      | none => rfl
      | some read => cases h
  | some read =>
      cases second with
      | none => cases h
      | some read' => exact hnext read read' (by simpa [SameEnd] using h)

variable {number other : CodeUnits → Option JsValue}

theorem readNumber_sameEnd (h : ∀ text, (number text).isSome = (other text).isSome)
    (text : CodeUnits) : SameEnd (readNumber number text) (readNumber other text) := by
  have hdomain := h (text.takeWhile isNumberUnit)
  unfold readNumber
  cases hfirst : number (text.takeWhile isNumberUnit) with
  | none =>
      cases hsecond : other (text.takeWhile isNumberUnit) with
      | none => rfl
      | some value => simp [hfirst, hsecond] at hdomain
  | some value =>
      cases hsecond : other (text.takeWhile isNumberUnit) with
      | none => simp [hfirst, hsecond] at hdomain
      | some value' => rfl

/-- What is read depends on the numbers only through the texts that are numbers. -/
theorem read_sameEnd (h : ∀ text, (number text).isSome = (other text).isSome) (fuel : Nat) :
    (∀ text, SameEnd (readValue number fuel text) (readValue other fuel text)) ∧
      (∀ text, SameEnd (readElements number fuel text) (readElements other fuel text)) ∧
        ∀ text, SameEnd (readFields number fuel text) (readFields other fuel text) := by
  induction fuel with
  | zero => exact ⟨fun _ => rfl, fun _ => rfl, fun _ => rfl⟩
  | succ fuel ih =>
      obtain ⟨hvalue, helements, hfields⟩ := ih
      refine ⟨fun text => ?_, fun text => ?_, fun text => ?_⟩
      · rw [readValue, readValue]
        split
        · rfl
        · rename_i unit rest _
          split
          · rfl
          split
          · split
            · rfl
            · exact (helements rest).map _ _
          split
          · split
            · rfl
            · exact (hfields rest).map _ _
          split
          · exact readNumber_sameEnd h (unit :: rest)
          · rfl
      · rw [readElements, readElements]
        refine (hvalue text).bind fun read read' hrest => ?_
        dsimp only
        rw [hrest]
        split
        · exact (helements _).map _ _
        · rfl
        · rfl
      · rw [readFields, readFields]
        split
        · refine SameEnd.bind rfl fun key key' hrest => ?_
          dsimp only
          rw [hrest]
          split
          · refine (hvalue _).bind fun read read' hrest => ?_
            rw [hrest]
            split
            · exact (hfields _).map _ _
            · rfl
            · rfl
          · rfl
        · rfl

theorem readJson_isSome (h : ∀ text, (number text).isSome = (other text).isSome)
    (text : CodeUnits) : (readJson number text).isSome = (readJson other text).isSome := by
  have hend := (read_sameEnd h (text.length + 2)).1 text
  unfold readJson
  cases hfirst : readValue number (text.length + 2) text with
  | none =>
      cases hsecond : readValue other (text.length + 2) text with
      | none => rfl
      | some read => simp [SameEnd, hfirst, hsecond] at hend
  | some read =>
      cases hsecond : readValue other (text.length + 2) text with
      | none => simp [SameEnd, hfirst, hsecond] at hend
      | some read' =>
          have hrest : read.2 = read'.2 := by simpa [SameEnd, hfirst, hsecond] using hend
          dsimp only
          rw [hrest]
          split
          all_goals rfl

end Domain

end MatchPlane.Library
