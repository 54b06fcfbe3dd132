import Mathlib
import MatchPlane.Domain.Characters

/-!
# Candidate identifiers

The keys that providers select candidates by, and the errors of recommendations.  An
identifier is checked exactly, and is never shortened; other texts are.
-/

namespace MatchPlane.Recommendation

/-! ## Errors -/

inductive CandidateIdError where
  | empty
  | tooLong (maximum : Nat)
  | invalidCharacter (index : Nat)
  deriving DecidableEq, Repr

inductive MatchingError where
  | decisionNotObject
  | missingSelections
  | selectionNotString (index : Nat)
  | tooManySelections (actual maximum : Nat)
  | tooManyCandidates (actual maximum : Nat)
  | invalidCandidateId (index : Nat) (reason : CandidateIdError)
  | payloadTooLarge (actual maximum : Nat)
  deriving DecidableEq, Repr

/-! ## Identifiers -/

def maxCandidateIdCharacters : Nat := 120

def isAsciiAlphanumeric (character : Char) : Bool :=
  character.isDigit || character.isUpper || character.isLower

def isIdCharacter (character : Char) : Bool :=
  isAsciiAlphanumeric character || character ∈ ['.', '_', ':', '-']

/-- The rest of an identifier from an index on. -/
def checkCharacters : Nat → List Char → Except CandidateIdError Unit
  | _, [] => .ok ()
  | index, character :: rest =>
      if index = maxCandidateIdCharacters then .error (.tooLong maxCandidateIdCharacters)
      else if isIdCharacter character = false then .error (.invalidCharacter index)
      else checkCharacters (index + 1) rest

def validateCandidateId (value : String) : Except CandidateIdError Unit :=
  if value.isEmpty then .error .empty
  else checkCharacters 0 (value.toList.take (maxCandidateIdCharacters + 1))

def isValidId (value : String) : Bool := (validateCandidateId value).isOk

theorem checkCharacters_eq_ok_iff {index : Nat} {characters : List Char}
    (h : index ≤ maxCandidateIdCharacters) : checkCharacters index characters = .ok () ↔
      index + characters.length ≤ maxCandidateIdCharacters ∧
        ∀ character ∈ characters, isIdCharacter character = true := by
  induction characters generalizing index with
  | nil => simpa [checkCharacters] using h
  | cons character rest ih =>
      rw [checkCharacters, List.length_cons]
      by_cases hlast : index = maxCandidateIdCharacters
      · rw [if_pos hlast]
        simp only [reduceCtorEq, false_iff, not_and]
        omega
      · rw [if_neg hlast]
        by_cases hcharacter : isIdCharacter character = true
        · rw [if_neg (by simp [hcharacter]), ih (by omega)]
          simp only [List.mem_cons, forall_eq_or_imp, hcharacter, true_and]
          constructor <;> rintro ⟨hlength, hrest⟩ <;> exact ⟨by omega, hrest⟩
        · simp [hcharacter]

theorem isValidId_iff_eq_ok {value : String} :
    isValidId value = true ↔ validateCandidateId value = .ok () := by
  unfold isValidId
  cases validateCandidateId value with
  | ok _ => simp [Except.isOk, Except.toBool]
  | error error => simp [Except.isOk, Except.toBool]

/-- The grammar of an identifier. -/
theorem isValidId_iff {value : String} : isValidId value = true ↔
    value.toList ≠ [] ∧ value.length ≤ maxCandidateIdCharacters ∧
      ∀ character ∈ value.toList, isIdCharacter character = true := by
  have hempty : value.isEmpty = true ↔ value.toList = [] := by
    rw [String.isEmpty_iff, String.toList_eq_nil_iff]
  rw [isValidId_iff_eq_ok, validateCandidateId]
  by_cases hnil : value.toList = []
  · rw [if_pos (hempty.mpr hnil)]
    simp [hnil]
  · rw [if_neg (by simpa [hempty] using hnil), checkCharacters_eq_ok_iff (Nat.zero_le _),
      List.length_take, String.length_toList]
    constructor
    · rintro ⟨hlength, hcharacters⟩
      have hshort : value.length ≤ maxCandidateIdCharacters := by omega
      rw [List.take_of_length_le (by rw [String.length_toList]; omega)] at hcharacters
      exact ⟨hnil, hshort, hcharacters⟩
    · rintro ⟨_, hlength, hcharacters⟩
      exact ⟨by omega, fun character hmem => hcharacters character (List.mem_of_mem_take hmem)⟩

/-! ## Shortened texts -/

def truncateChars (value : String) (maximum : Nat) : String :=
  String.ofList (value.toList.take maximum)

def truncateCharsObserved (value : String) (maximum : Nat) : String × Bool :=
  (truncateChars value maximum, maximum < value.length)

def trimEnd (characters : List Char) : List Char := characters.rdropWhile isWhitespace

def boundedTrim (value : String) (maximum : Nat) : String :=
  let prefix_ := ((value.toList.take (maximum * 2 + 1)).dropWhile isWhitespace).take (maximum + 1)
  String.ofList ((trimEnd prefix_).take maximum)

def boundedPrefixed (start value : String) (maximumCharacters : Nat) : String :=
  String.ofList ((start.toList ++ value.toList).take maximumCharacters)

end MatchPlane.Recommendation
