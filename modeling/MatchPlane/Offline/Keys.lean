import MatchPlane.Offline.Deals

/-!
# Keys of exposures

The keys under which the server records exposures are built from identifiers, so they
are short enough to be stored, and their prefixes tell the callers apart.
-/

namespace MatchPlane

open MatchPlane.Library

/-! ## Identifiers -/

theorem utf8Size_digitChar (value : Nat) : (Nat.digitChar (value % 16)).utf8Size = 1 := by
  have hdigits : ∀ digit < 16, (Nat.digitChar digit).utf8Size = 1 := by decide
  exact hdigits _ (Nat.mod_lt _ (by norm_num))

theorem ascii_hexDigits (value : Uuid) : ∀ char ∈ hexDigits value, char.utf8Size = 1 := by
  intro char hchar
  rw [hexDigits, List.mem_map] at hchar
  obtain ⟨index, _, rfl⟩ := hchar
  exact utf8Size_digitChar _

/-- A field of digits has as many bytes as digits. -/
theorem utf8ByteSize_field (value : Uuid) (start width : Nat) (h : start + width ≤ 32) :
    (String.ofList (((hexDigits value).drop start).take width)).utf8ByteSize = width := by
  rw [String.utf8ByteSize_ofList, utf8Len_of_ascii fun char hchar =>
    ascii_hexDigits value char (List.mem_of_mem_drop (List.mem_of_mem_take hchar))]
  rw [List.length_take, List.length_drop, hexDigits, List.length_map, List.length_range]
  omega

theorem utf8ByteSize_hyphenated (value : Uuid) : (hyphenated value).utf8ByteSize = 36 := by
  have hfields : hyphenated value =
      String.ofList (((hexDigits value).drop 0).take 8) ++ "-" ++
      String.ofList (((hexDigits value).drop 8).take 4) ++ "-" ++
      String.ofList (((hexDigits value).drop 12).take 4) ++ "-" ++
      String.ofList (((hexDigits value).drop 16).take 4) ++ "-" ++
      String.ofList (((hexDigits value).drop 20).take 12) := rfl
  have hhyphen : "-".utf8ByteSize = 1 := by decide
  simp only [hfields, String.utf8ByteSize_append, utf8ByteSize_field _ _ _ (by norm_num : 0 + 8 ≤ 32),
    utf8ByteSize_field _ _ _ (by norm_num : 8 + 4 ≤ 32),
    utf8ByteSize_field _ _ _ (by norm_num : 12 + 4 ≤ 32),
    utf8ByteSize_field _ _ _ (by norm_num : 16 + 4 ≤ 32),
    utf8ByteSize_field _ _ _ (by norm_num : 20 + 12 ≤ 32), hhyphen]

/-! ## Keys -/

/-- A text that starts with a visible character is not blank. -/
theorem trim_ne_nil {char : Char} {rest : List Char} (h : isWhitespace char = false) :
    trim (char :: rest) ≠ [] := by
  unfold trim
  rw [List.dropWhile_cons_of_neg (by simp [h]), ne_eq, List.reverse_eq_nil_iff,
    List.dropWhile_eq_nil_iff]
  intro hblank
  have hchar := hblank char (by simp)
  rw [h] at hchar
  cases hchar

/-- A key of a visible prefix and a few more bytes can be stored. -/
theorem maxTrimmed_of_prefix {limit : Nat} {text : String} {char : Char} {rest : List Char}
    (hlist : text.toList = char :: rest) (hvisible : isWhitespace char = false)
    (hsize : text.utf8ByteSize ≤ limit) :
    maxTrimmed limit text = true ∧ hasLength limit text = true := by
  have hlength := length_le_utf8ByteSize text
  have hpositive : 1 ≤ text.length := by
    rw [← String.length_toList, hlist]
    simp
  constructor
  · simp [maxTrimmed, hlist, trim_ne_nil hvisible, hsize]
  · simp only [hasLength, decide_eq_true_eq]
    omega

theorem contactKey_stored (offlineDealId : OfflineDealId) :
    maxTrimmed 200 (contactKey offlineDealId) = true ∧
      hasLength 200 (contactKey offlineDealId) = true := by
  have hlist : (contactKey offlineDealId).toList = 'm' :: ("atched-contact:".toList ++
      (hyphenated offlineDealId.uuid).toList) := by
    change ("matched-contact:" ++ hyphenated offlineDealId.uuid).toList = _
    rw [String.toList_append]
    rfl
  refine maxTrimmed_of_prefix hlist (by decide) ?_
  · change ("matched-contact:" ++ hyphenated offlineDealId.uuid).utf8ByteSize ≤ 200
    rw [String.utf8ByteSize_append, utf8ByteSize_hyphenated]
    decide

end MatchPlane
