import MatchPlane.Library.JsonText
import MatchPlane.Library.Decimal

/-!
# Plain texts of numbers

Texts of numbers that can be computed with: the decimal digits of the whole numbers, and for
the other fractions a text that JSON does not have.
-/

namespace MatchPlane.Library

def digitUnits (number : Nat) : CodeUnits :=
  (Nat.toDigits 10 number).map fun digit => UInt16.ofNat digit.toNat

def numberOfUnits (digits : CodeUnits) : Nat :=
  Nat.ofDigitChars 10 (digits.map fun unit => Char.ofNat unit.toNat) 0

def fractionText (value : Rat) : CodeUnits :=
  (if value.num < 0 then [45] else []) ++ digitUnits value.num.natAbs ++
    if value.den = 1 then [] else 43 :: digitUnits value.den

def fractionOf (text : CodeUnits) : Rat :=
  let digits := text.dropWhile (· == 45)
  let size : Int := numberOfUnits (digits.takeWhile (· != 43))
  let parts := numberOfUnits ((digits.dropWhile (· != 43)).drop 1)
  mkRat (if text.head? = some 45 then -size else size) (max 1 parts)

theorem digitUnits_bounds (number : Nat) :
    ∀ unit ∈ digitUnits number, 48 ≤ unit.toNat ∧ unit.toNat ≤ 57 := by
  intro unit hunit
  obtain ⟨digit, hdigit, rfl⟩ := List.mem_map.mp hunit
  have hbounds := isDigit_iff_bounds.mp (isDigit_toDigits digit hdigit)
  have hvalue : (UInt16.ofNat digit.toNat).toNat = digit.toNat := by
    simp
    omega
  rw [hvalue]
  exact hbounds

theorem numberOfUnits_digitUnits (number : Nat) : numberOfUnits (digitUnits number) = number := by
  have hmap : (digitUnits number).map (fun unit => Char.ofNat unit.toNat) =
      Nat.toDigits 10 number := by
    rw [digitUnits, List.map_map]
    refine (List.map_congr_left fun digit hdigit => ?_).trans (List.map_id _)
    have hbounds := isDigit_iff_bounds.mp (isDigit_toDigits digit hdigit)
    have hvalue : (UInt16.ofNat digit.toNat).toNat = digit.toNat := by
      simp
      omega
    simp only [Function.comp_apply, hvalue, id]
    exact Char.ofNat_toNat digit
  rw [numberOfUnits, hmap, Nat.ofDigitChars_toDigits (by decide) (by decide)]

theorem digitUnits_ne_nil (number : Nat) : digitUnits number ≠ [] := by
  simp [digitUnits, Nat.toDigits_ne_nil]

/-- The digits come before the sign that separates them. -/
theorem digits_split (number : Nat) {tail : CodeUnits} (htail : tail.takeWhile (· != 43) = []) :
    (digitUnits number ++ tail).takeWhile (· != 43) = digitUnits number ∧
      (digitUnits number ++ tail).dropWhile (· != 43) = tail := by
  have hdigits : ∀ unit ∈ digitUnits number, (unit != 43) = true := by
    intro unit hunit
    have hbounds := digitUnits_bounds number unit hunit
    simp only [bne_iff_ne]
    rintro rfl
    exact absurd hbounds.1 (by decide)
  have htake : (digitUnits number ++ tail).takeWhile (· != 43) = digitUnits number := by
    rw [List.takeWhile_append_of_pos hdigits, htail, List.append_nil]
  refine ⟨htake, ?_⟩
  have hsplit := List.takeWhile_append_dropWhile (p := (· != 43)) (l := digitUnits number ++ tail)
  rw [htake] at hsplit
  exact List.append_cancel_left hsplit

theorem dropSign (number : Nat) (tail : CodeUnits) (negative : Bool) :
    (((if negative then [45] else []) ++ digitUnits number ++ tail).dropWhile (· == 45) =
      digitUnits number ++ tail) ∧
    ((((if negative then [45] else []) ++ digitUnits number ++ tail).head? = some 45) ↔
      negative = true) := by
  cases hdigits : digitUnits number with
  | nil => exact absurd hdigits (digitUnits_ne_nil number)
  | cons unit units =>
      have hbounds := digitUnits_bounds number unit (by simp [hdigits])
      have hne : unit ≠ 45 := by
        rintro rfl
        exact absurd hbounds.1 (by decide)
      cases negative <;> simp [hne]

theorem fractionOf_fractionText (value : Rat) : fractionOf (fractionText value) = value := by
  have hsign := dropSign value.num.natAbs
    (if value.den = 1 then [] else 43 :: digitUnits value.den) (decide (value.num < 0))
  have htail : (if value.den = 1 then [] else 43 :: digitUnits value.den).takeWhile
      (· != 43) = [] := by
    split <;> simp
  have hdigits := digits_split value.num.natAbs htail
  have hnum : (if value.num < 0 then -(value.num.natAbs : Int) else value.num.natAbs) =
      value.num := by
    split <;> omega
  have hden : max 1 (numberOfUnits
      ((if value.den = 1 then [] else 43 :: digitUnits value.den).drop 1)) = value.den := by
    have hpos := value.den_pos
    split
    · rename_i hone
      rw [hone]
      rfl
    · rw [List.drop_one, List.tail_cons, numberOfUnits_digitUnits]
      omega
  simp only [decide_eq_true_eq] at hsign
  rw [fractionOf, fractionText]
  simp only [hsign.1, hsign.2, hdigits.1, hdigits.2, numberOfUnits_digitUnits, hnum, hden]
  exact Rat.mkRat_self value

theorem isNumberUnit_of_digit {number : Nat} {unit : UInt16} (h : unit ∈ digitUnits number) :
    isNumberUnit unit = true := by
  have hbounds := digitUnits_bounds number unit h
  simp [isNumberUnit, hbounds]

abbrev plainNumbers : NumberText where
  write := fractionText
  read text :=
    if fractionText (fractionOf text) = text then some (.finite (fractionOf text)) else none
  read_write value := by rw [fractionOf_fractionText, if_pos rfl]
  isNumberUnit_of_mem value unit hunit := by
    simp only [fractionText, List.mem_append] at hunit
    rcases hunit with (hsign | hdigit) | hrest
    · split at hsign
      · obtain rfl := List.mem_singleton.mp hsign
        rfl
      · cases hsign
    · exact isNumberUnit_of_digit hdigit
    · split at hrest
      · cases hrest
      · rcases List.mem_cons.mp hrest with rfl | hdigit
        · rfl
        · exact isNumberUnit_of_digit hdigit
  write_ne_nil value h := by
    simp only [fractionText, List.append_eq_nil_iff] at h
    exact digitUnits_ne_nil _ h.1.2

end MatchPlane.Library
