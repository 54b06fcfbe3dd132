import MatchPlane.Payments.Commission

/-!
# Reversals without drift

The reversals of a captured payment, one for each refund.  However a refund is split, the
reversals so far are the share of the refunds so far, rounded once.
-/

namespace MatchPlane

open MatchPlane.Library

/-- The nearest integer to a fraction; a half is rounded up. -/
def roundedHalfUp (numerator denominator : Int) : Int :=
  (2 * numerator + denominator) / (2 * denominator)

section Rounding

variable {numerator other denominator value : Int}

theorem roundedHalfUp_eq_iff (h : 0 < denominator) :
    roundedHalfUp numerator denominator = value ↔
      2 * numerator < 2 * (value * denominator) + denominator ∧
        2 * (value * denominator) ≤ 2 * numerator + denominator := by
  have hdouble : 0 < 2 * denominator := by omega
  unfold roundedHalfUp
  rw [Int.ediv_eq_iff_of_pos hdouble]
  have hexpand : value * (2 * denominator) = 2 * (value * denominator) := by ring
  rw [hexpand]
  omega

/-- Half of the denominator may be rounded down before it is added. -/
theorem ediv_eq_roundedHalfUp (h : 0 < denominator) :
    (numerator + denominator / 2) / denominator = roundedHalfUp numerator denominator := by
  symm
  rw [roundedHalfUp_eq_iff h]
  have hdivision := Int.mul_ediv_add_emod (numerator + denominator / 2) denominator
  have hnonneg := Int.emod_nonneg (numerator + denominator / 2) h.ne'
  have hlt := Int.emod_lt_of_pos (numerator + denominator / 2) h
  rw [Int.mul_comm] at hdivision
  omega

theorem roundedHalfUp_mono (h : 0 < denominator) (hle : numerator ≤ other) :
    roundedHalfUp numerator denominator ≤ roundedHalfUp other denominator := by
  unfold roundedHalfUp
  exact Int.ediv_le_ediv (by omega) (by omega)

end Rounding

/-- The reversals that belong to refunds totalling `refunded`. -/
def accumulatedReversal (totalCommission capturedAmount refunded : Int) : Int :=
  if refunded = capturedAmount then totalCommission
  else roundedHalfUp (totalCommission * refunded) capturedAmount

section Accumulated

variable {totalCommission capturedAmount refunded later newRefund : Int}

theorem accumulatedReversal_nonneg (hcommission : 0 ≤ totalCommission)
    (hcaptured : 0 < capturedAmount) (hrefunded : 0 ≤ refunded) :
    0 ≤ accumulatedReversal totalCommission capturedAmount refunded := by
  unfold accumulatedReversal
  split
  · exact hcommission
  · have hproduct := Int.mul_nonneg hcommission hrefunded
    exact Int.ediv_nonneg (by omega) (by omega)

theorem accumulatedReversal_zero (hcaptured : 0 < capturedAmount) :
    accumulatedReversal totalCommission capturedAmount 0 = 0 := by
  rw [accumulatedReversal, if_neg (by omega), Int.mul_zero, roundedHalfUp_eq_iff hcaptured]
  omega

/-- A share is never rounded beyond the whole. -/
theorem accumulatedReversal_mono (hcommission : 0 ≤ totalCommission)
    (hcaptured : 0 < capturedAmount) (hlater : refunded ≤ later)
    (hwithin : later ≤ capturedAmount) :
    accumulatedReversal totalCommission capturedAmount refunded ≤
      accumulatedReversal totalCommission capturedAmount later := by
  have hproduct := Int.mul_le_mul_of_nonneg_left hlater hcommission
  unfold accumulatedReversal
  split_ifs with hall hlaterall hlaterall
  · exact le_refl _
  · omega
  · have hwhole : roundedHalfUp (totalCommission * capturedAmount) capturedAmount =
        totalCommission := by
      rw [roundedHalfUp_eq_iff hcaptured]
      omega
    rw [← hwhole]
    rw [hlaterall] at hproduct
    exact roundedHalfUp_mono hcaptured (by rwa [hwhole])
  · exact roundedHalfUp_mono hcaptured hproduct

/-- What has to fit the register for the whole payment fits it for every refund. -/
theorem targetReversal_eq (hcommission : 0 ≤ totalCommission) (hcaptured : 0 < capturedAmount)
    (hfits : totalCommission * capturedAmount + capturedAmount / 2 ≤ i128Max)
    (hrefunded : 0 ≤ refunded) (hwithin : refunded ≤ capturedAmount) :
    targetReversal totalCommission capturedAmount refunded =
      .ok (accumulatedReversal totalCommission capturedAmount refunded) := by
  unfold targetReversal accumulatedReversal
  split
  · rfl
  · have hnonneg := Int.mul_nonneg hcommission hrefunded
    have hproduct := Int.mul_le_mul_of_nonneg_left hwithin hcommission
    have hfirst : InI128 (totalCommission * refunded) := by
      simp only [InI128, i128Min, i128Max] at *
      omega
    have hsecond : InI128 (totalCommission * refunded + capturedAmount / 2) := by
      simp only [InI128, i128Min, i128Max] at *
      omega
    simp only [I128.ofInt?_eq_some hfirst, Option.bind_some, I128.ofInt?_eq_some hsecond,
      ediv_eq_roundedHalfUp hcaptured]

/-- A refund after exact reversals is reversed by the rest of its share. -/
theorem calculateCommissionReversal_exact (hcommission : 0 ≤ totalCommission)
    (hbounded : totalCommission ≤ capturedAmount)
    (hfits : totalCommission * capturedAmount + capturedAmount / 2 ≤ i128Max)
    (hrefunded : 0 ≤ refunded) (hnew : 0 < newRefund)
    (hwithin : refunded + newRefund ≤ capturedAmount) (hregister : capturedAmount ≤ i128Max) :
    calculateCommissionReversal totalCommission capturedAmount refunded
        (accumulatedReversal totalCommission capturedAmount refunded) newRefund =
      .ok (accumulatedReversal totalCommission capturedAmount (refunded + newRefund) -
        accumulatedReversal totalCommission capturedAmount refunded) := by
  have hcaptured : 0 < capturedAmount := by omega
  have hreversed := accumulatedReversal_nonneg hcommission hcaptured hrefunded
  have hmono := accumulatedReversal_mono hcommission hcaptured
    (show refunded ≤ refunded + newRefund by omega) hwithin
  have hall := accumulatedReversal_mono hcommission hcaptured hwithin le_rfl
  have htotal : accumulatedReversal totalCommission capturedAmount capturedAmount =
      totalCommission := if_pos rfl
  have hcumulative : InI128 (refunded + newRefund) := by
    simp only [InI128, i128Min, i128Max] at *
    omega
  have hdifference : InI128 (accumulatedReversal totalCommission capturedAmount
      (refunded + newRefund) - accumulatedReversal totalCommission capturedAmount refunded) := by
    simp only [InI128, i128Min, i128Max] at *
    omega
  have hguard : ¬(totalCommission < 0 ∨ capturedAmount ≤ 0 ∨ refunded < 0 ∨
      accumulatedReversal totalCommission capturedAmount refunded < 0 ∨ newRefund ≤ 0 ∨
      capturedAmount < totalCommission) := by omega
  simp only [calculateCommissionReversal, if_neg hguard, I128.ofInt?_eq_some hcumulative,
    if_neg (not_lt.mpr hwithin)]
  refine bind_eq_ok_iff.mpr ⟨_, targetReversal_eq hcommission hcaptured hfits (by omega) hwithin,
    ?_⟩
  rw [I128.ofInt?_eq_some hdifference, Option.filter_some, if_pos]
  simpa using hmono

end Accumulated

/-- The reversals of refunds that are granted one after the other. -/
def reversalsFrom (totalCommission capturedAmount refunded reversed : Int) :
    List Int → Except PaymentError (List Int)
  | [] => .ok []
  | newRefund :: rest => do
      let reversal ← calculateCommissionReversal totalCommission capturedAmount refunded reversed
        newRefund
      let later ← reversalsFrom totalCommission capturedAmount (refunded + newRefund)
        (reversed + reversal) rest
      .ok (reversal :: later)

section Sequences

variable {totalCommission capturedAmount refunded : Int} {refunds : List Int}

theorem sum_nonneg_of_positive (h : ∀ refund ∈ refunds, 0 < refund) : 0 ≤ refunds.sum :=
  List.sum_nonneg fun refund hrefund => (h refund hrefund).le

/-- From exact reversals on, every further reversal is there, and they stay exact. -/
theorem reversalsFrom_exact (hcommission : 0 ≤ totalCommission)
    (hbounded : totalCommission ≤ capturedAmount)
    (hfits : totalCommission * capturedAmount + capturedAmount / 2 ≤ i128Max)
    (hregister : capturedAmount ≤ i128Max) (hrefunded : 0 ≤ refunded)
    (hpositive : ∀ refund ∈ refunds, 0 < refund)
    (hwithin : refunded + refunds.sum ≤ capturedAmount) :
    ∃ reversals, reversalsFrom totalCommission capturedAmount refunded
        (accumulatedReversal totalCommission capturedAmount refunded) refunds = .ok reversals ∧
      reversals.length = refunds.length ∧ (∀ reversal ∈ reversals, 0 ≤ reversal) ∧
      ∀ count, accumulatedReversal totalCommission capturedAmount refunded +
          (reversals.take count).sum =
        accumulatedReversal totalCommission capturedAmount
          (refunded + (refunds.take count).sum) := by
  induction refunds generalizing refunded with
  | nil => exact ⟨[], rfl, rfl, fun _ h => (List.not_mem_nil h).elim, by simp⟩
  | cons newRefund rest ih =>
      have hnew : 0 < newRefund := hpositive newRefund List.mem_cons_self
      have hrest : ∀ refund ∈ rest, 0 < refund := fun refund hrefund =>
        hpositive refund (List.mem_cons_of_mem _ hrefund)
      have hsum := sum_nonneg_of_positive hrest
      rw [List.sum_cons] at hwithin
      have hfirst := calculateCommissionReversal_exact hcommission hbounded hfits hrefunded hnew
        (by omega) hregister
      obtain ⟨later, hlater, hlength, hnonneg, hexact⟩ := ih
        (show 0 ≤ refunded + newRefund by omega) hrest (by omega)
      have hmono := accumulatedReversal_mono hcommission (by omega : 0 < capturedAmount)
        (show refunded ≤ refunded + newRefund by omega) (by omega)
      refine ⟨_ :: later, bind_eq_ok_iff.mpr ⟨_, hfirst, bind_eq_ok_iff.mpr ⟨later, ?_, rfl⟩⟩,
        by simp [hlength], ?_, ?_⟩
      · rw [← hlater]
        congr 1
        omega
      · rintro reversal hreversal
        rcases List.mem_cons.mp hreversal with rfl | hreversal
        · omega
        · exact hnonneg reversal hreversal
      · intro count
        cases count with
        | zero => simp
        | succ count =>
            have hcount := hexact count
            simp only [List.take_succ_cons, List.sum_cons]
            rw [← Int.add_assoc refunded]
            omega

end Sequences

/-- Every refund within the capture is reversed, no reversal is negative, and the reversals
so far are the share of the refunds so far, rounded half up, or the whole commission. -/
theorem reversals_do_not_drift {totalCommission capturedAmount : Int} {refunds : List Int}
    (hcommission : 0 ≤ totalCommission) (hbounded : totalCommission ≤ capturedAmount)
    (hfits : totalCommission * capturedAmount + capturedAmount / 2 ≤ i128Max)
    (hregister : capturedAmount ≤ i128Max) (hpositive : ∀ refund ∈ refunds, 0 < refund)
    (hwithin : refunds.sum ≤ capturedAmount) :
    ∃ reversals, reversalsFrom totalCommission capturedAmount 0 0 refunds = .ok reversals ∧
      reversals.length = refunds.length ∧ (∀ reversal ∈ reversals, 0 ≤ reversal) ∧
      ∀ count, (reversals.take count).sum =
        if (refunds.take count).sum = capturedAmount then totalCommission
        else roundedHalfUp (totalCommission * (refunds.take count).sum) capturedAmount := by
  cases refunds with
  | nil =>
      refine ⟨[], rfl, rfl, fun _ h => (List.not_mem_nil h).elim, fun count => ?_⟩
      simp only [List.take_nil, List.sum_nil, Int.mul_zero]
      split
      · omega
      · rw [eq_comm, roundedHalfUp_eq_iff] <;> omega
  | cons first rest =>
      have hfirst := hpositive first List.mem_cons_self
      have hrest := sum_nonneg_of_positive fun refund hrefund =>
        hpositive refund (List.mem_cons_of_mem first hrefund)
      have hcaptured : 0 < capturedAmount := by
        rw [List.sum_cons] at hwithin
        omega
      have hzero : accumulatedReversal totalCommission capturedAmount 0 = 0 :=
        accumulatedReversal_zero hcaptured
      obtain ⟨reversals, hreversals, hlength, hnonneg, hexact⟩ := reversalsFrom_exact hcommission
        hbounded hfits hregister le_rfl hpositive (by omega)
      rw [hzero] at hreversals hexact
      refine ⟨reversals, hreversals, hlength, hnonneg, fun count => ?_⟩
      have hcount := hexact count
      rwa [Int.zero_add, Int.zero_add, accumulatedReversal] at hcount

theorem split_refund_reverses_commission : ∃ reversals,
    reversalsFrom 7 100 0 0 [33, 33, 34] = .ok reversals ∧ reversals.sum = 7 := by
  obtain ⟨reversals, hreversals, hlength, _, hexact⟩ := reversals_do_not_drift
    (show (0 : Int) ≤ 7 by omega) (show (7 : Int) ≤ 100 by omega) (by decide) (by decide)
    (show ∀ refund ∈ [33, 33, 34], (0 : Int) < refund by decide) (by decide)
  refine ⟨reversals, hreversals, ?_⟩
  have hthree : reversals.length ≤ 3 := hlength.le
  have hall := hexact 3
  rw [List.take_of_length_le hthree] at hall
  exact hall

end MatchPlane
