import MatchPlane.Payments.Money

/-!
# Strings of the web service

The web service counts the length of a string in UTF-16 code units, compares strings
by them, and trims other blanks than the services in Rust.
-/

namespace MatchPlane.JavaScript

/-- The UTF-16 code units of a character. -/
def codeUnits (character : Char) : List Nat :=
  if character.toNat < 0x10000 then [character.toNat]
  else [0xD800 + (character.toNat - 0x10000) / 0x400,
    0xDC00 + (character.toNat - 0x10000) % 0x400]

/-- `String.prototype.length`. -/
def length (text : String) : Nat := (text.toList.flatMap codeUnits).length

/-- What `String.prototype.trim` removes. -/
def isBlank (character : Char) : Bool :=
  (isWhitespace character ∧ character.toNat ≠ 0x85) ∨ character.toNat = 0xFEFF

/-- `String.prototype.trim`. -/
def trim (text : String) : String :=
  String.ofList ((text.toList.dropWhile isBlank).reverse.dropWhile isBlank).reverse

/-- A text is its trimmed text between blanks. -/
theorem trim_spec (text : String) : ∃ before after,
    (∀ character ∈ before, isBlank character = true) ∧
    (∀ character ∈ after, isBlank character = true) ∧
    text.toList = before ++ (trim text).toList ++ after := by
  have hafter := List.takeWhile_append_dropWhile (p := isBlank)
    (l := (text.toList.dropWhile isBlank).reverse)
  refine ⟨text.toList.takeWhile isBlank,
    ((text.toList.dropWhile isBlank).reverse.takeWhile isBlank).reverse,
    fun character hcharacter => List.mem_takeWhile_imp hcharacter,
    fun character hcharacter => List.mem_takeWhile_imp (List.mem_reverse.mp hcharacter), ?_⟩
  rw [trim, String.toList_ofList, List.append_assoc, ← List.reverse_append, hafter,
    List.reverse_reverse, List.takeWhile_append_dropWhile]

theorem trim_eq_self {text : String}
    (h : ∀ character ∈ text.toList, isBlank character = false) : trim text = text := by
  have hdrop : ∀ rest : List Char, (∀ character ∈ rest, isBlank character = false) →
      rest.dropWhile isBlank = rest := by
    intro rest hrest
    cases rest with
    | nil => rfl
    | cons character rest => simp [hrest character List.mem_cons_self]
  have hreverse := hdrop text.toList.reverse fun character hcharacter =>
    h character (List.mem_reverse.mp hcharacter)
  rw [trim, hdrop _ h, hreverse, List.reverse_reverse, String.ofList_toList]

/-- `String.prototype.toLowerCase` of a text in ASCII. -/
def toLowerCase (text : String) : String := String.ofList (text.toList.map Char.toLower)

/-- `/^[0-9a-f]+$/i` of a text with the given length. -/
def isHex (length : Nat) (text : String) : Bool :=
  text.length = length ∧ text.toList.all fun character =>
    character.isDigit ∨ ('a' ≤ character.toLower ∧ character.toLower ≤ 'f')

end MatchPlane.JavaScript
