import MatchPlane.Library.Checked
import MatchPlane.Library.Fallible

/-!
# Commissions

Basis points of a gross amount, rounded to the nearest unit, and the share of a
commission that a refund takes back.  Reversals are rounded cumulatively, so the
reversals of any refunds of a payment never add up to more than its commission.
-/

namespace MatchPlane

open MatchPlane.Library

inductive PaymentError where
  | invalid (message : String)
  | idempotencyConflict
  | unsupported (gateway operation : String)
  | invalidTransition (source target : String)
  | notFound (entity : String)
  | credential (message : String)
  | signature
  | providerRejected (code message : String)
  | unknownOutcome
  | transport (message : String)
  | json (message : String)
  deriving DecidableEq, Repr

def PaymentError.message : PaymentError → String
  | invalid message => s!"invalid payment data: {message}"
  | idempotencyConflict => "payment idempotency conflict"
  | unsupported gateway operation => s!"gateway {gateway} does not support {operation}"
  | invalidTransition source target => s!"payment cannot transition from {source} to {target}"
  | notFound entity => s!"{entity} was not found"
  | credential message => s!"payment credential is unavailable: {message}"
  | signature => "payment signature verification failed"
  | providerRejected code message =>
      s!"payment provider rejected the request: {code}: {message}"
  | unknownOutcome => "payment provider outcome is unknown; reconciliation is required"
  | transport message => s!"payment transport failed: {message}"
  | json message => s!"payment JSON conversion failed: {message}"

def calculateCommission (gross : Int) (basisPoints : Nat) : Except PaymentError Int :=
  if gross < 0 ∨ 10000 < basisPoints then
    .error (.invalid "commission requires non-negative gross and at most 10,000 bps")
  else
    match (I128.ofInt? (gross * basisPoints)).bind fun product =>
        I128.ofInt? (product.1 + 5000) with
    | some value => .ok (value.1 / 10000)
    | none => .error (.invalid "commission arithmetic overflow")

section Exact

variable {gross : Int} {basisPoints : Nat}

/-- The rounded share itself, without the width of the register. -/
def commission (gross : Int) (basisPoints : Nat) : Int := (gross * basisPoints + 5000) / 10000

theorem calculateCommission_eq (hgross : 0 ≤ gross) (hpoints : basisPoints ≤ 10000)
    (hfits : gross * basisPoints + 5000 ≤ i128Max) :
    calculateCommission gross basisPoints = .ok (commission gross basisPoints) := by
  have hproduct : 0 ≤ gross * basisPoints := Int.mul_nonneg hgross (Int.natCast_nonneg _)
  have hfirst : InI128 (gross * basisPoints) := by
    simp only [InI128, i128Min, i128Max] at *
    omega
  have hsecond : InI128 (gross * basisPoints + 5000) := by
    simp only [InI128, i128Min, i128Max] at *
    omega
  have hguard : ¬(gross < 0 ∨ 10000 < basisPoints) := by omega
  simp only [calculateCommission, if_neg hguard, I128.ofInt?_eq_some hfirst,
    Option.bind_some, I128.ofInt?_eq_some hsecond, commission]

theorem commission_nonneg (hgross : 0 ≤ gross) : 0 ≤ commission gross basisPoints := by
  have hproduct : 0 ≤ gross * basisPoints := Int.mul_nonneg hgross (Int.natCast_nonneg _)
  unfold commission
  omega

theorem commission_le (hgross : 0 ≤ gross) (hpoints : basisPoints ≤ 10000) :
    commission gross basisPoints ≤ gross := by
  have hproduct : gross * basisPoints ≤ gross * 10000 :=
    Int.mul_le_mul_of_nonneg_left (by omega) hgross
  unfold commission
  omega

/-- A commission is charged from half a unit on. -/
theorem commission_pos_iff (hgross : 0 ≤ gross) :
    0 < commission gross basisPoints ↔ 5000 ≤ gross * basisPoints := by
  have hproduct : 0 ≤ gross * basisPoints := Int.mul_nonneg hgross (Int.natCast_nonneg _)
  unfold commission
  omega

end Exact

/-! ## Reversals -/

/-- The reversal that belongs to a cumulative refund. -/
def targetReversal (totalCommission capturedAmount cumulativeRefund : Int) :
    Except PaymentError Int :=
  if cumulativeRefund = capturedAmount then .ok totalCommission
  else
    match (I128.ofInt? (totalCommission * cumulativeRefund)).bind fun product =>
        I128.ofInt? (product.1 + capturedAmount / 2) with
    | some value => .ok (value.1 / capturedAmount)
    | none => .error (.invalid "commission reversal arithmetic overflow")

def calculateCommissionReversal (totalCommission capturedAmount alreadyReservedRefund
    alreadyReservedReversal newRefund : Int) : Except PaymentError Int :=
  if totalCommission < 0 ∨ capturedAmount ≤ 0 ∨ alreadyReservedRefund < 0 ∨
      alreadyReservedReversal < 0 ∨ newRefund ≤ 0 ∨ capturedAmount < totalCommission then
    .error (.invalid "commission reversal totals are inconsistent")
  else
    match I128.ofInt? (alreadyReservedRefund + newRefund) with
    | none => .error (.invalid "refund arithmetic overflow")
    | some cumulativeRefund =>
        if capturedAmount < cumulativeRefund.1 then
          .error (.invalid "refund exceeds captured amount")
        else do
          let target ← targetReversal totalCommission capturedAmount cumulativeRefund.1
          match (I128.ofInt? (target - alreadyReservedReversal)).filter (0 ≤ ·.1) with
          | some reversal => .ok reversal.1
          | none => .error (.invalid "commission reversal exceeds commission")

section Reversal

variable {totalCommission capturedAmount alreadyReservedRefund alreadyReservedReversal
  newRefund cumulativeRefund reversal : Int}

theorem targetReversal_le (hcommission : 0 ≤ totalCommission) (hcaptured : 0 < capturedAmount)
    (hrefund : cumulativeRefund ≤ capturedAmount)
    (h : targetReversal totalCommission capturedAmount cumulativeRefund = .ok reversal) :
    reversal ≤ totalCommission := by
  unfold targetReversal at h
  split at h
  · cases h
    exact le_refl _
  · split at h
    · rename_i value hvalue
      cases h
      obtain ⟨product, hproduct, hvalue⟩ := Option.bind_eq_some_iff.mp hvalue
      unfold I128.ofInt? at hproduct hvalue
      split at hproduct <;> cases hproduct
      split at hvalue <;> cases hvalue
      -- Rounding adds half a unit at most, and the share is at most the whole.
      have hshare : totalCommission * cumulativeRefund ≤ totalCommission * capturedAmount :=
        Int.mul_le_mul_of_nonneg_left hrefund hcommission
      have hhalf : capturedAmount / 2 < capturedAmount := by omega
      have hbound : totalCommission * cumulativeRefund + capturedAmount / 2 <
          (totalCommission + 1) * capturedAmount := by
        rw [Int.add_mul, Int.one_mul]
        omega
      have := Int.ediv_lt_of_lt_mul hcaptured hbound
      dsimp only
      omega
    · cases h

/-- A granted reversal keeps both totals within what was captured and earned. -/
theorem calculateCommissionReversal_bounds
    (h : calculateCommissionReversal totalCommission capturedAmount alreadyReservedRefund
      alreadyReservedReversal newRefund = .ok reversal) :
    0 < newRefund ∧ alreadyReservedRefund + newRefund ≤ capturedAmount ∧
      0 ≤ reversal ∧ alreadyReservedReversal + reversal ≤ totalCommission := by
  unfold calculateCommissionReversal at h
  split at h
  · cases h
  rename_i hconsistent
  split at h
  · cases h
  rename_i cumulativeRefund hcumulative
  unfold I128.ofInt? at hcumulative
  split at hcumulative <;> cases hcumulative
  split at h
  · cases h
  rename_i hwithin
  obtain ⟨target, htarget, h⟩ := bind_eq_ok_iff.mp h
  have hle := targetReversal_le (by omega) (by omega) (by omega) htarget
  split at h
  · rename_i value hvalue
    cases h
    obtain ⟨hvalue, hnonnegative⟩ := Option.filter_eq_some_iff.mp hvalue
    unfold I128.ofInt? at hvalue
    split at hvalue <;> cases hvalue
    simp only [decide_eq_true_eq] at hnonnegative
    dsimp only at hwithin hnonnegative ⊢
    omega
  · cases h

/-- Half of a unit is rounded up, so a share is met by what it leaves after rounding. -/
theorem targetReversal_mul_le (hcaptured : 0 < capturedAmount)
    (h : targetReversal totalCommission capturedAmount cumulativeRefund = .ok reversal) :
    reversal * capturedAmount ≤ totalCommission * cumulativeRefund + capturedAmount / 2 := by
  unfold targetReversal at h
  split at h
  · rename_i hall
    cases h
    rw [hall]
    omega
  · split at h
    · rename_i value hvalue
      cases h
      obtain ⟨product, hproduct, hvalue⟩ := Option.bind_eq_some_iff.mp hvalue
      unfold I128.ofInt? at hproduct hvalue
      split at hproduct <;> cases hproduct
      split at hvalue <;> cases hvalue
      exact Int.ediv_mul_le _ hcaptured.ne'
    · cases h

/-- A granted reversal brings the reversals up to the share of the cumulative refund. -/
theorem calculateCommissionReversal_share
    (h : calculateCommissionReversal totalCommission capturedAmount alreadyReservedRefund
      alreadyReservedReversal newRefund = .ok reversal) :
    0 ≤ totalCommission ∧ totalCommission ≤ capturedAmount ∧
      (alreadyReservedReversal + reversal) * capturedAmount ≤
        totalCommission * (alreadyReservedRefund + newRefund) + capturedAmount / 2 := by
  unfold calculateCommissionReversal at h
  split at h
  · cases h
  rename_i hconsistent
  split at h
  · cases h
  rename_i cumulativeRefund hcumulative
  unfold I128.ofInt? at hcumulative
  split at hcumulative <;> cases hcumulative
  split at h
  · cases h
  obtain ⟨target, htarget, h⟩ := bind_eq_ok_iff.mp h
  have hshare := targetReversal_mul_le (by omega) htarget
  split at h
  · rename_i value hvalue
    cases h
    obtain ⟨hvalue, _⟩ := Option.filter_eq_some_iff.mp hvalue
    unfold I128.ofInt? at hvalue
    split at hvalue <;> cases hvalue
    refine ⟨by omega, by omega, ?_⟩
    rwa [show alreadyReservedReversal + (target - alreadyReservedReversal) = target by omega]
  · cases h

/-- Within what was captured, only reversals beyond the rounded share are refused. -/
theorem calculateCommissionReversal_granted (hcommission : totalCommission ≤ capturedAmount)
    (hnonnegative : 0 ≤ totalCommission) (hrefund : 0 ≤ alreadyReservedRefund)
    (hreversal : 0 ≤ alreadyReservedReversal)
    (hreversed : alreadyReservedReversal ≤ totalCommission)
    (hnew : 0 < newRefund) (hwithin : alreadyReservedRefund + newRefund ≤ capturedAmount)
    (hcaptured : capturedAmount ≤ i128Max)
    (hfits : totalCommission * (alreadyReservedRefund + newRefund) + capturedAmount / 2 ≤ i128Max)
    (hshare : alreadyReservedReversal * capturedAmount ≤
      totalCommission * (alreadyReservedRefund + newRefund) + capturedAmount / 2) :
    ∃ reversal, calculateCommissionReversal totalCommission capturedAmount alreadyReservedRefund
      alreadyReservedReversal newRefund = .ok reversal := by
  have hproduct : 0 ≤ totalCommission * (alreadyReservedRefund + newRefund) :=
    Int.mul_nonneg hnonnegative (by omega)
  have hcumulative : InI128 (alreadyReservedRefund + newRefund) := by
    simp only [InI128, i128Min, i128Max] at *
    omega
  obtain ⟨target, htarget, hcovers, hbounded⟩ : ∃ target,
      targetReversal totalCommission capturedAmount (alreadyReservedRefund + newRefund) =
        .ok target ∧ alreadyReservedReversal ≤ target ∧ target ≤ i128Max := by
    unfold targetReversal
    split
    · exact ⟨totalCommission, rfl, hreversed, hcommission.trans hcaptured⟩
    · have hfirst : InI128 (totalCommission * (alreadyReservedRefund + newRefund)) := by
        simp only [InI128, i128Min, i128Max] at *
        omega
      have hsecond : InI128
          (totalCommission * (alreadyReservedRefund + newRefund) + capturedAmount / 2) := by
        simp only [InI128, i128Min, i128Max] at *
        omega
      simp only [I128.ofInt?_eq_some hfirst, Option.bind_some, I128.ofInt?_eq_some hsecond]
      have hpositive : 0 < capturedAmount := by omega
      refine ⟨_, rfl, (Int.le_ediv_iff_mul_le hpositive).mpr hshare, ?_⟩
      exact (Int.ediv_le_self _ (by omega)).trans hfits
  have hdifference : InI128 (target - alreadyReservedReversal) := by
    simp only [InI128, i128Min, i128Max] at *
    omega
  have hguard : ¬(totalCommission < 0 ∨ capturedAmount ≤ 0 ∨ alreadyReservedRefund < 0 ∨
      alreadyReservedReversal < 0 ∨ newRefund ≤ 0 ∨ capturedAmount < totalCommission) := by
    omega
  have hgranted : (I128.ofInt? (target - alreadyReservedReversal)).filter (0 ≤ ·.1) =
      some ⟨target - alreadyReservedReversal, hdifference⟩ := by
    simp [I128.ofInt?_eq_some hdifference, hcovers]
  refine ⟨target - alreadyReservedReversal, ?_⟩
  simp only [calculateCommissionReversal, if_neg hguard, I128.ofInt?_eq_some hcumulative,
    if_neg (not_lt.mpr hwithin)]
  exact bind_eq_ok_iff.mpr ⟨target, htarget, by rw [hgranted]⟩

end Reversal

end MatchPlane
