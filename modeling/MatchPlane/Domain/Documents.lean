import MatchPlane.Domain.Identifiers
import MatchPlane.Domain.Json
import MatchPlane.Library.Pairs

/-!
# JSON documents

The text of a JSON value with all of its layout, and where in such a text a quoted
name with a colon after it occurs first: at the first member, in the order of the
text and at any depth, whose name is written that way.
-/

namespace MatchPlane

open MatchPlane.Library

/-! ## Texts -/

/-- How the name of a member is written, and what it reads as. -/
structure MemberName where
  before : Bytes
  literal : Bytes
  gap : Bytes
  decoded : String
  deriving DecidableEq, Repr

mutual

inductive Document where
  | scalar (text : Bytes) (value : Json)
  | string (literal : Bytes) (value : String)
  | array (elements : Elements)
  | object (members : Members)

inductive Elements where
  | nil (blank : Bytes)
  | cons (before : Bytes) (element : Document) (after : Bytes) (rest : Elements)

inductive Members where
  | nil (blank : Bytes)
  | cons (name : MemberName) (before : Bytes) (value : Document) (after : Bytes) (rest : Members)

end

def Elements.isNil : Elements → Bool
  | .nil _ => true
  | .cons .. => false

def Members.isNil : Members → Bool
  | .nil _ => true
  | .cons .. => false

/-- A literal between its quotes. -/
def quoted (literal : Bytes) : Bytes := 34 :: (literal ++ [34])

/-- A name up to its colon. -/
def MemberName.text (name : MemberName) : Bytes :=
  name.before ++ quoted name.literal ++ name.gap ++ [58]

mutual

def Document.text : Document → Bytes
  | .scalar text _ => text
  | .string literal _ => quoted literal
  | .array elements => 91 :: (elements.text ++ [93])
  | .object members => 123 :: (members.text ++ [125])

def Elements.text : Elements → Bytes
  | .nil blank => blank
  | .cons before element after rest => before ++ element.text ++ after ++
      (if rest.isNil then [] else [44]) ++ rest.text

def Members.text : Members → Bytes
  | .nil blank => blank
  | .cons name before value after rest => name.text ++ before ++ value.text ++ after ++
      (if rest.isNil then [] else [44]) ++ rest.text

end

/-! ## Values -/

def insertSorted (key : String) (value : Json) : List (String × Json) → List (String × Json)
  | [] => [(key, value)]
  | (other, found) :: rest =>
      if key < other then (key, value) :: (other, found) :: rest
      else (other, found) :: insertSorted key value rest

/-- Adds a field to sorted fields; a field that is there already stays. -/
def insertField (key : String) (value : Json) (fields : List (String × Json)) :
    List (String × Json) :=
  if (fields.lookup key).isSome then fields else insertSorted key value fields

mutual

def Document.value : Document → Json
  | .scalar _ value => value
  | .string _ value => .string value
  | .array elements => .array elements.values
  | .object members => .object members.fields

def Elements.values : Elements → List Json
  | .nil _ => []
  | .cons _ element _ rest => element.value :: rest.values

/-- Of several members of one name, the last one counts. -/
def Members.fields : Members → List (String × Json)
  | .nil _ => []
  | .cons name _ value _ rest => insertField name.decoded value.value rest.fields

end

/-- The last member of a name. -/
def Members.lastNamed (key : String) : Members → Option Document
  | .nil _ => none
  | .cons name _ value _ rest =>
      (rest.lastNamed key).or (if name.decoded = key then some value else none)

theorem lookup_field_cons (key name : String) (value : Json) (rest : List (String × Json)) :
    ((name, value) :: rest).lookup key = if name = key then some value else rest.lookup key := by
  by_cases h : name = key
  · simp [h]
  · simp [List.lookup_cons, h, beq_eq_false_iff_ne.mpr (Ne.symm h)]

theorem lookup_insertSorted {name : String} {fields : List (String × Json)}
    (h : fields.lookup name = none) (key : String) (value : Json) :
    (insertSorted name value fields).lookup key =
      (fields.lookup key).or (if name = key then some value else none) := by
  induction fields with
  | nil => rw [insertSorted, lookup_field_cons, List.lookup_nil, Option.none_or]
  | cons field rest ih =>
      obtain ⟨other, found⟩ := field
      rw [lookup_field_cons] at h
      have hother : other ≠ name := by
        rintro rfl
        simp at h
      rw [if_neg hother] at h
      unfold insertSorted
      split
      · rw [lookup_field_cons, lookup_field_cons]
        by_cases hkey : name = key
        · rw [if_pos hkey, if_pos hkey, ← hkey, if_neg hother, h, Option.none_or]
        · rw [if_neg hkey, if_neg hkey, Option.or_none]
      · rw [lookup_field_cons, lookup_field_cons, ih h]
        by_cases hkey : other = key
        · rw [if_pos hkey, if_pos hkey, Option.some_or]
        · rw [if_neg hkey, if_neg hkey]

theorem lookup_insertField (name key : String) (value : Json) (fields : List (String × Json)) :
    (insertField name value fields).lookup key =
      (fields.lookup key).or (if name = key then some value else none) := by
  unfold insertField
  cases hfound : fields.lookup name with
  | none => exact lookup_insertSorted hfound key value
  | some found =>
      by_cases hkey : name = key
      · simp [← hkey, hfound]
      · simp [hkey]

/-- The field of a name is the last member of that name. -/
theorem Members.lookup_fields (key : String) : ∀ members : Members,
    members.fields.lookup key = (members.lastNamed key).map Document.value
  | .nil _ => rfl
  | .cons name _ value _ rest => by
      rw [Members.fields, lookup_insertField, Members.lookup_fields key rest, Members.lastNamed]
      cases rest.lastNamed key with
      | some last => rfl
      | none => by_cases hkey : name.decoded = key <;> simp [hkey]

/-! ## Well-formed texts -/

def Blank (text : Bytes) : Prop := ∀ byte ∈ text, byte ∈ ([32, 9, 10, 13] : Bytes)

/-- A value can end before this text. -/
def Ends (text : Bytes) : Prop :=
  ∀ byte ∈ text.head?, byte ∈ ([32, 9, 10, 13, 44, 93, 125] : Bytes)

/-- Between the quotes of a literal, every quote has a backslash before it. -/
def Escaped (literal : Bytes) : Prop := (34 :: literal).IsChain fun byte next => next = 34 → byte = 92

instance (text : Bytes) : Decidable (Blank text) := inferInstanceAs (Decidable (∀ byte ∈ text, _))

instance (literal : Bytes) : Decidable (Escaped literal) :=
  inferInstanceAs (Decidable (List.IsChain _ _))

structure MemberName.WellFormed (name : MemberName) : Prop where
  before : Blank name.before
  literal : Escaped name.literal
  gap : Blank name.gap

mutual

def Document.WellFormed : Document → Prop
  | .scalar text _ => 34 ∉ text ∧ ∃ byte ∈ text.head?, byte ∉ ([32, 9, 10, 12, 13] : Bytes)
  | .string literal _ => Escaped literal
  | .array elements => elements.WellFormed
  | .object members => members.WellFormed

def Elements.WellFormed : Elements → Prop
  | .nil blank => Blank blank
  | .cons before element after rest =>
      Blank before ∧ element.WellFormed ∧ Blank after ∧ rest.WellFormed

def Members.WellFormed : Members → Prop
  | .nil blank => Blank blank
  | .cons name before value after rest =>
      name.WellFormed ∧ Blank before ∧ value.WellFormed ∧ Blank after ∧ rest.WellFormed

end

/-- A value does not start with a blank. -/
theorem Document.head_text {document : Document} (h : document.WellFormed) :
    ∃ byte ∈ document.text.head?, byte ∉ ([32, 9, 10, 12, 13] : Bytes) := by
  cases document with
  | scalar text value => exact h.2
  | string literal value => exact ⟨34, rfl, by decide⟩
  | array elements => exact ⟨91, rfl, by decide⟩
  | object members => exact ⟨123, rfl, by decide⟩

/-! ## The first marked member -/

/--
The name is written with a quote before it and directly followed by a colon.  The quote
opens the literal, or is an escaped one inside of it.
-/
def MemberName.Marked (key : Bytes) (name : MemberName) : Prop :=
  34 :: key <:+ 34 :: name.literal ∧ name.gap = []

instance (key : Bytes) (name : MemberName) : Decidable (name.Marked key) :=
  inferInstanceAs (Decidable (_ ∧ _))

mutual

/-- The value of the first marked member, in the order of the text and at any depth. -/
def Document.firstMarked (key : Bytes) : Document → Option Document
  | .scalar _ _ => none
  | .string _ _ => none
  | .array elements => elements.firstMarked key
  | .object members => members.firstMarked key

def Elements.firstMarked (key : Bytes) : Elements → Option Document
  | .nil _ => none
  | .cons _ element _ rest => (element.firstMarked key).or (rest.firstMarked key)

def Members.firstMarked (key : Bytes) : Members → Option Document
  | .nil _ => none
  | .cons name _ value _ rest =>
      if name.Marked key then some value
      else (value.firstMarked key).or (rest.firstMarked key)

end

/-- A quoted key and its colon. -/
def markerOf (key : Bytes) : Bytes := 34 :: (key ++ [34, 58])

/-- What follows the first occurrence of a text. -/
def afterFirst (marker : Bytes) : Bytes → Option Bytes
  | [] => none
  | byte :: rest =>
      if marker <+: byte :: rest then some ((byte :: rest).drop marker.length)
      else afterFirst marker rest

/-- A key of ordinary characters. -/
structure Plain (key : Bytes) : Prop where
  noQuote : 34 ∉ key
  noBackslash : 92 ∉ key
  head : ∃ byte ∈ key.head?, byte ∉ ([32, 9, 10, 13, 44, 58, 93, 125] : Bytes)

section Search

variable {key text rest : Bytes}

theorem afterFirst_of_noQuote (h : 34 ∉ text) :
    afterFirst (markerOf key) (text ++ rest) = afterFirst (markerOf key) rest := by
  induction text with
  | nil => rfl
  | cons byte text ih =>
      rw [List.mem_cons, not_or] at h
      rw [List.cons_append, afterFirst, if_neg, ih h.2]
      rintro ⟨suffix, hsuffix⟩
      exact h.1 (List.cons.inj hsuffix).1

theorem Blank.noQuote (h : Blank text) : 34 ∉ text := by
  intro hmem
  have hquote := h 34 hmem
  revert hquote
  decide

theorem Blank.ends (h : Blank text) (hrest : Ends rest) : Ends (text ++ rest) := by
  cases text with
  | nil => exact hrest
  | cons byte text =>
      rintro _ ⟨⟩
      have hbyte := h byte List.mem_cons_self
      simp only [List.mem_cons, List.not_mem_nil, or_false] at hbyte ⊢
      tauto

theorem not_prefix_of_head (hkey : Plain key) (hrest : rest.head? ≠ key.head?) :
    ¬markerOf key <+: 34 :: rest := by
  rintro ⟨suffix, hsuffix⟩
  obtain ⟨byte, hbyte, _⟩ := hkey.head
  have hread : key ++ (34 :: 58 :: suffix) = rest := by simpa [markerOf] using hsuffix
  apply hrest
  rw [← hread, List.head?_append, hbyte]
  rfl

/-- An escaped literal has the key between two quotes only if it is the key. -/
theorem prefix_of_escaped (hkey : Plain key)
    (hchain : (34 :: text).IsChain fun byte next => next = 34 → byte = 92)
    (h : markerOf key <+: 34 :: (text ++ 34 :: rest)) : text = key ∧ rest.head? = some 58 := by
  obtain ⟨suffix, hsuffix⟩ := h
  have hread : key ++ 34 :: (58 :: suffix) = text ++ 34 :: rest := by
    simpa [markerOf] using hsuffix
  by_cases hquote : 34 ∈ text
  · -- A quote inside the literal is escaped, and the key has no backslash.
    obtain ⟨before, after, rfl, hbefore⟩ := List.eq_append_cons_of_mem hquote
    rw [List.append_assoc, List.cons_append] at hread
    obtain ⟨rfl, _⟩ := append_cons_injective hkey.noQuote hbefore hread
    rcases List.eq_nil_or_concat key with rfl | ⟨front, last, rfl⟩
    · obtain ⟨byte, hbyte, _⟩ := hkey.head
      cases hbyte
    · have hpair : ([last, 34] : Bytes).IsChain fun byte next => next = 34 → byte = 92 :=
        hchain.infix ⟨34 :: front, after, by simp⟩
      have hlast : last = 92 := by simpa using hpair
      exact absurd (by simp [hlast]) hkey.noBackslash
  · obtain ⟨rfl, rfl⟩ := append_cons_injective hkey.noQuote hquote hread
    exact ⟨rfl, rfl⟩

/-- In a literal that is about to be closed, only the key at its end is found. -/
theorem afterFirst_literal (hkey : Plain key)
    (hchain : text.IsChain fun byte next => next = 34 → byte = 92)
    (hrest : rest.head? ≠ key.head?) :
    afterFirst (markerOf key) (text ++ 34 :: rest) =
      if 34 :: key <:+ text ∧ rest.head? = some 58 then some (rest.drop 1)
      else afterFirst (markerOf key) rest := by
  induction text with
  | nil =>
      rw [List.nil_append, afterFirst, if_neg (not_prefix_of_head hkey hrest), if_neg]
      rintro ⟨hsuffix, _⟩
      cases List.suffix_nil.mp hsuffix
  | cons byte text ih =>
      have htail := ih hchain.tail
      rw [List.cons_append, afterFirst]
      by_cases hbyte : byte = 34
      · subst hbyte
        by_cases hfull : text = key ∧ rest.head? = some 58
        · obtain ⟨rfl, hcolon⟩ := hfull
          obtain ⟨suffix, rfl⟩ : ∃ suffix, rest = 58 :: suffix := by
            cases rest with
            | nil => cases hcolon
            | cons colon suffix =>
                cases hcolon
                exact ⟨suffix, rfl⟩
          rw [if_pos ⟨suffix, by simp [markerOf]⟩, if_pos ⟨List.suffix_rfl, rfl⟩]
          have hlength : (markerOf text).length = text.length + 3 := by simp [markerOf]
          rw [hlength]
          simp [List.drop_append]
        · rw [if_neg fun hprefix => hfull (prefix_of_escaped hkey hchain hprefix), htail]
          refine if_congr ⟨fun h => ⟨List.suffix_cons_iff.mpr (.inr h.1), h.2⟩, ?_⟩ rfl rfl
          rintro ⟨hsuffix, hcolon⟩
          rcases List.suffix_cons_iff.mp hsuffix with hsame | hsuffix
          · exact absurd ⟨(List.cons.inj hsame).2.symm, hcolon⟩ hfull
          · exact ⟨hsuffix, hcolon⟩
      · rw [if_neg, htail]
        · refine if_congr ⟨fun h => ⟨List.suffix_cons_iff.mpr (.inr h.1), h.2⟩, ?_⟩ rfl rfl
          rintro ⟨hsuffix, hcolon⟩
          rcases List.suffix_cons_iff.mp hsuffix with hsame | hsuffix
          · exact absurd (List.cons.inj hsame).1.symm hbyte
          · exact ⟨hsuffix, hcolon⟩
        · rintro ⟨suffix, hsuffix⟩
          exact hbyte (List.cons.inj hsuffix).1.symm

theorem Ends.head_ne (hkey : Plain key) (h : Ends rest) : rest.head? ≠ key.head? := by
  intro hsame
  obtain ⟨byte, hbyte, hother⟩ := hkey.head
  rw [← hsame] at hbyte
  have hends := h byte hbyte
  simp only [List.mem_cons, List.not_mem_nil, or_false] at hends hother
  tauto

theorem Ends.head_ne_colon (h : Ends rest) : rest.head? ≠ some 58 := by
  intro hsame
  have hends := h 58 hsame
  revert hends
  decide

/-- The value of a string has no key in it, and its end none either. -/
theorem afterFirst_string (hkey : Plain key) (h : Escaped text) (hrest : Ends rest) :
    afterFirst (markerOf key) (quoted text ++ rest) = afterFirst (markerOf key) rest := by
  have hquoted : quoted text ++ rest = (34 :: text) ++ 34 :: rest := by simp [quoted]
  rw [hquoted, afterFirst_literal hkey h (hrest.head_ne hkey), if_neg]
  rintro ⟨_, hcolon⟩
  exact hrest.head_ne_colon hcolon

/-- A marked name is found, and any other is passed over. -/
theorem afterFirst_name (hkey : Plain key) {name : MemberName} (h : name.WellFormed) :
    afterFirst (markerOf key) (name.text ++ rest) =
      if name.Marked key then some rest else afterFirst (markerOf key) rest := by
  have htext : name.text ++ rest =
      name.before ++ ((34 :: name.literal) ++ 34 :: (name.gap ++ 58 :: rest)) := by
    simp [MemberName.text, quoted]
  have hcolon : (58 :: rest).head? ≠ key.head? := by
    intro hsame
    obtain ⟨byte, hbyte, hother⟩ := hkey.head
    rw [← hsame] at hbyte
    cases hbyte
    revert hother
    decide
  have hpassed : afterFirst (markerOf key) (58 :: rest) = afterFirst (markerOf key) rest :=
    @afterFirst_of_noQuote key [58] rest (by decide)
  rw [htext, afterFirst_of_noQuote h.before.noQuote]
  cases hgap : name.gap with
  | nil =>
      rw [List.nil_append, afterFirst_literal hkey h.literal hcolon, hpassed]
      refine if_congr ?_ rfl rfl
      simp [MemberName.Marked, hgap]
  | cons blank gap =>
      have hblank := h.gap
      rw [hgap] at hblank
      have hends : Ends (blank :: gap ++ 58 :: rest) := by
        rintro _ ⟨⟩
        have hbyte := hblank blank List.mem_cons_self
        simp only [List.mem_cons, List.not_mem_nil, or_false] at hbyte ⊢
        tauto
      rw [afterFirst_literal hkey h.literal (hends.head_ne hkey), if_neg, if_neg,
        afterFirst_of_noQuote hblank.noQuote, hpassed]
      · rintro ⟨_, hnone⟩
        rw [hgap] at hnone
        cases hnone
      · rintro ⟨_, hfound⟩
        exact hends.head_ne_colon hfound

end Search

/-! ## The search in a document -/

/-- The search ends in front of the value of the marked member, or goes on after the text. -/
def Found (key text : Bytes) (marked : Option Document) (rest : Bytes) : Prop :=
  match marked with
  | none => afterFirst (markerOf key) text = afterFirst (markerOf key) rest
  | some value => value.WellFormed ∧ ∃ before after, Blank before ∧ Ends after ∧
      afterFirst (markerOf key) text = some (before ++ value.text ++ after)

theorem Found.trans {key text middle rest : Bytes} {first second : Option Document}
    (h : Found key text first middle) (h' : Found key middle second rest) :
    Found key text (first.or second) rest := by
  cases first with
  | some value => exact h
  | none =>
      have hskipped : afterFirst (markerOf key) text = afterFirst (markerOf key) middle := h
      cases second with
      | none => exact Eq.trans hskipped h'
      | some value =>
          obtain ⟨hwf, before, after, hbefore, hafter, hfound⟩ := h'
          exact ⟨hwf, before, after, hbefore, hafter, hskipped.trans hfound⟩

theorem found_of_noQuote {key text rest : Bytes} (h : 34 ∉ text) :
    Found key (text ++ rest) none rest := afterFirst_of_noQuote h

theorem ends_of_closing {rest : Bytes} {byte : UInt8} (h : byte ∈ ([44, 93, 125] : Bytes)) :
    Ends (byte :: rest) := by
  rintro _ ⟨⟩
  simp only [List.mem_cons, List.not_mem_nil, or_false] at h ⊢
  tauto

/-- The comma between two parts; there is none after the last one. -/
def separator (isLast : Bool) : Bytes := if isLast then [] else [44]

theorem separator_noQuote (isLast : Bool) : 34 ∉ separator isLast := by
  cases isLast <;> decide

theorem Elements.ends {elements : Elements} (h : elements.WellFormed) {rest : Bytes}
    (hrest : Ends rest) : Ends (separator elements.isNil ++ (elements.text ++ rest)) := by
  cases elements with
  | nil blank =>
      have hblank : Blank blank := h
      exact hblank.ends hrest
  | cons before element after others => exact ends_of_closing (by decide)

theorem Members.ends {members : Members} (h : members.WellFormed) {rest : Bytes}
    (hrest : Ends rest) : Ends (separator members.isNil ++ (members.text ++ rest)) := by
  cases members with
  | nil blank =>
      have hblank : Blank blank := h
      exact hblank.ends hrest
  | cons name before value after others => exact ends_of_closing (by decide)

mutual

theorem Document.found {key : Bytes} (hkey : Plain key) : ∀ (document : Document) (rest : Bytes),
    document.WellFormed → Ends rest →
      Found key (document.text ++ rest) (document.firstMarked key) rest
  | .scalar text _, rest, hwf, _ => found_of_noQuote hwf.1
  | .string literal _, rest, hwf, hrest => afterFirst_string hkey hwf hrest
  | .array elements, rest, hwf, hrest => by
      have hopened : Found key ([91] ++ (elements.text ++ 93 :: rest)) none _ :=
        found_of_noQuote (by decide)
      have helements := elements.found hkey (93 :: rest) hwf (ends_of_closing (by decide))
      have hclosed : Found key ([93] ++ rest) none rest := found_of_noQuote (by decide)
      have hall := hopened.trans (helements.trans hclosed)
      simpa [Document.text, Document.firstMarked] using hall
  | .object members, rest, hwf, hrest => by
      have hopened : Found key ([123] ++ (members.text ++ 125 :: rest)) none _ :=
        found_of_noQuote (by decide)
      have hmembers := members.found hkey (125 :: rest) hwf (ends_of_closing (by decide))
      have hclosed : Found key ([125] ++ rest) none rest := found_of_noQuote (by decide)
      have hall := hopened.trans (hmembers.trans hclosed)
      simpa [Document.text, Document.firstMarked] using hall

theorem Elements.found {key : Bytes} (hkey : Plain key) : ∀ (elements : Elements) (rest : Bytes),
    elements.WellFormed → Ends rest →
      Found key (elements.text ++ rest) (elements.firstMarked key) rest
  | .nil blank, rest, hwf, _ => found_of_noQuote (Blank.noQuote hwf)
  | .cons before element after others, rest, hwf, hrest => by
      obtain ⟨hbefore, helement, hafter, hothers⟩ := hwf
      have hends := others.ends hothers hrest
      have hopened : Found key (before ++ (element.text ++ (after ++
          (separator others.isNil ++ (others.text ++ rest))))) none _ :=
        found_of_noQuote hbefore.noQuote
      have hfirst := element.found hkey _ helement (hafter.ends hends)
      have hblank : Found key (after ++ (separator others.isNil ++ (others.text ++ rest))) none _ :=
        found_of_noQuote hafter.noQuote
      have hcomma : Found key (separator others.isNil ++ (others.text ++ rest)) none _ :=
        found_of_noQuote (separator_noQuote _)
      have hrest := others.found hkey rest hothers hrest
      have hall := hopened.trans (hfirst.trans (hblank.trans (hcomma.trans hrest)))
      simpa [Elements.text, Elements.firstMarked, separator] using hall

theorem Members.found {key : Bytes} (hkey : Plain key) : ∀ (members : Members) (rest : Bytes),
    members.WellFormed → Ends rest →
      Found key (members.text ++ rest) (members.firstMarked key) rest
  | .nil blank, rest, hwf, _ => found_of_noQuote (Blank.noQuote hwf)
  | .cons name before value after others, rest, hwf, hrest => by
      obtain ⟨hname, hbefore, hvalue, hafter, hothers⟩ := hwf
      have hends := others.ends hothers hrest
      have htext : (Members.cons name before value after others).text ++ rest =
          name.text ++ (before ++ (value.text ++ (after ++
            (separator others.isNil ++ (others.text ++ rest))))) := by
        simp [Members.text, separator]
      rw [htext, Members.firstMarked]
      have hfound := @afterFirst_name key (before ++ (value.text ++ (after ++
        (separator others.isNil ++ (others.text ++ rest))))) hkey name hname
      by_cases hmarked : name.Marked key
      · rw [if_pos hmarked] at hfound ⊢
        exact ⟨hvalue, before, _, hbefore, hafter.ends hends, by simpa using hfound⟩
      · rw [if_neg hmarked] at hfound ⊢
        have hopened : Found key _ none _ := hfound
        have hblank : Found key (before ++ (value.text ++ (after ++
            (separator others.isNil ++ (others.text ++ rest))))) none _ :=
          found_of_noQuote hbefore.noQuote
        have hfirst := value.found hkey _ hvalue (hafter.ends hends)
        have hspace : Found key (after ++ (separator others.isNil ++ (others.text ++ rest)))
            none _ := found_of_noQuote hafter.noQuote
        have hcomma : Found key (separator others.isNil ++ (others.text ++ rest)) none _ :=
          found_of_noQuote (separator_noQuote _)
        have hrest := others.found hkey rest hothers hrest
        have hall := hopened.trans (hblank.trans (hfirst.trans (hspace.trans
          (hcomma.trans hrest))))
        simpa using hall

end

end MatchPlane
