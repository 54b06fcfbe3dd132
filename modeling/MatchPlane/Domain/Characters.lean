import Mathlib

/-!
# Characters

The blanks of Rust, and texts without those at their ends.
-/

namespace MatchPlane

/-- `char::is_whitespace`: the code points with the property `White_Space`. -/
def isWhitespace (char : Char) : Bool :=
  char.toNat ∈ [32, 133, 160, 5760, 8232, 8233, 8239, 8287, 12288] ∨
    (9 ≤ char.toNat ∧ char.toNat ≤ 13) ∨ (8192 ≤ char.toNat ∧ char.toNat ≤ 8202)

/-- `str::trim`. -/
def trim (chars : List Char) : List Char :=
  ((chars.dropWhile isWhitespace).reverse.dropWhile isWhitespace).reverse

/-- A text without blanks has none to trim. -/
theorem trim_eq {chars : List Char} (h : ∀ char ∈ chars, isWhitespace char = false) :
    trim chars = chars := by
  have hdrop : ∀ rest : List Char, (∀ char ∈ rest, isWhitespace char = false) →
      rest.dropWhile isWhitespace = rest := by
    intro rest hrest
    cases rest with
    | nil => rfl
    | cons char rest => simp [hrest char List.mem_cons_self]
  unfold trim
  rw [hdrop chars h, hdrop chars.reverse (fun char hchar => h char (List.mem_reverse.mp hchar)),
    List.reverse_reverse]

/-- The blanks around a text without blanks are trimmed. -/
theorem trim_between {before chars after : List Char}
    (hbefore : ∀ char ∈ before, isWhitespace char = true)
    (hchars : ∀ char ∈ chars, isWhitespace char = false)
    (hafter : ∀ char ∈ after, isWhitespace char = true) (hne : chars ≠ []) :
    trim (before ++ chars ++ after) = chars := by
  have hfirst : (chars ++ after).dropWhile isWhitespace = chars ++ after := by
    cases chars with
    | nil => exact absurd rfl hne
    | cons char rest => simp [hchars char List.mem_cons_self]
  have hlast : chars.reverse.dropWhile isWhitespace = chars.reverse := by
    cases hreverse : chars.reverse with
    | nil => rfl
    | cons char rest =>
        have hchar : char ∈ chars := by
          rw [← List.mem_reverse, hreverse]
          exact List.mem_cons_self
        simp [hchars char hchar]
  unfold trim
  rw [List.append_assoc, List.dropWhile_append_of_pos hbefore, hfirst, List.reverse_append,
    List.dropWhile_append_of_pos (by simpa using hafter), hlast, List.reverse_reverse]

/-- Only blanks are trimmed. -/
theorem mem_trim {chars : List Char} {char : Char} (h : char ∈ chars)
    (hchar : isWhitespace char = false) : char ∈ trim chars := by
  have hdrop : ∀ rest : List Char, char ∈ rest → char ∈ rest.dropWhile isWhitespace := by
    intro rest hrest
    rw [← List.takeWhile_append_dropWhile (p := isWhitespace) (l := rest), List.mem_append] at hrest
    rcases hrest with hblank | hrest
    · rw [List.mem_takeWhile_imp hblank] at hchar
      cases hchar
    · exact hrest
  exact List.mem_reverse.mpr (hdrop _ (List.mem_reverse.mpr (hdrop _ h)))

end MatchPlane
