import MatchPlane.Payments.Refunds

/-!
# Which refunds the commission allows

A refund takes back the share of the commission that its payment has not taken back
yet, computed from the totals of all refunds that have not failed.  The totals are
rounded, so they can get ahead of the share: when an earlier refund fails, or when
more is captured after the refund.  Then nothing is granted until they are level.
-/

namespace MatchPlane

open MatchPlane.Library

theorem reservedRefunds_nonneg (refunds : Table paymentRefunds) (paymentId : PaymentId) :
    0 ≤ reservedRefunds refunds paymentId PaymentRefundRow.amount ∧
      0 ≤ reservedRefunds refunds paymentId PaymentRefundRow.commissionReversalAmount := by
  constructor
  all_goals
    refine List.sum_nonneg fun value hvalue => ?_
    obtain ⟨refund, hrefund, rfl⟩ := List.mem_map.mp hvalue
    have hcheck := refunds.valid.checked refund hrefund
    simp only [paymentRefunds, decide_eq_true_eq, isNumeric_iff] at hcheck
    split <;> omega

namespace PaymentIntentRow

/-- The reversal that a refund of the payment is granted now. -/
def reversal (row : PaymentIntentRow) (refunds : Table paymentRefunds) (amount : Int) :
    Except PaymentError Int :=
  calculateCommissionReversal row.commissionAmount row.capturedAmount
    (reservedRefunds refunds row.id PaymentRefundRow.amount)
    (reservedRefunds refunds row.id PaymentRefundRow.commissionReversalAmount) amount

/-- An amount that is left to refund, with products that fit into 128 bits. -/
structure Refundable (row : PaymentIntentRow) (refunds : Table paymentRefunds) (amount : Int) :
    Prop where
  captured : row.status = .captured
  positive : 0 < amount
  within : amount ≤ row.capturedAmount - reservedRefunds refunds row.id PaymentRefundRow.amount
  fits : row.capturedAmount ≤ i128Max
  product : row.commissionAmount *
    (reservedRefunds refunds row.id PaymentRefundRow.amount + amount) +
      row.capturedAmount / 2 ≤ i128Max

/-- The reversals are within the rounded share of the refunds and one unit more. -/
structure Covered (row : PaymentIntentRow) (refunds : Table paymentRefunds) : Prop where
  commission : row.commissionAmount ≤ row.capturedAmount
  share : reservedRefunds refunds row.id PaymentRefundRow.commissionReversalAmount *
      row.capturedAmount ≤
    row.commissionAmount * (reservedRefunds refunds row.id PaymentRefundRow.amount + 1) +
      row.capturedAmount / 2

variable {row : PaymentIntentRow} {refunds : Table paymentRefunds} {amount : Int}

/-- Covered reversals leave room for the share of any refund. -/
theorem Covered.granted (h : row.Covered refunds) (hbalanced : row.Balanced refunds)
    (hcommission : 0 ≤ row.commissionAmount) (hrefundable : row.Refundable refunds amount) :
    ∃ reversal, row.reversal refunds amount = .ok reversal := by
  obtain ⟨hreserved, hreversed⟩ := reservedRefunds_nonneg refunds row.id
  have hpositive := hrefundable.positive
  have hwithin := hrefundable.within
  have hmono : row.commissionAmount *
      (reservedRefunds refunds row.id PaymentRefundRow.amount + 1) ≤ row.commissionAmount *
      (reservedRefunds refunds row.id PaymentRefundRow.amount + amount) :=
    Int.mul_le_mul_of_nonneg_left (by omega) hcommission
  have hshare := h.share
  exact calculateCommissionReversal_granted h.commission hcommission hreserved hreversed
    hbalanced.reservedReversal hpositive (by omega) hrefundable.fits hrefundable.product
    (by omega)

end PaymentIntentRow

/-! ## The request -/

/-- Whoever can be refunded one unit has its reversals covered. -/
def PaymentDatabase.Covering (db : PaymentDatabase) : Prop :=
  ∀ id row, db.payments.lookup id = some row → row.Refundable db.refunds 1 →
    row.Covered db.refunds

/-- A step changed what a payment has taken, or failed one of its refunds. -/
def Disturbed (db db' : PaymentDatabase) (id : PaymentId) : Prop :=
  (∃ row row', db.payments.lookup id = some row ∧ db'.payments.lookup id = some row' ∧
    (row'.capturedAmount ≠ row.capturedAmount ∨
      row'.commissionAmount ≠ row.commissionAmount)) ∨
  ∃ refund refund', refund.paymentId = id ∧ db.refunds.lookup refund.id = some refund ∧
    db'.refunds.lookup refund.id = some refund' ∧ refund.status ≠ .failed ∧
    refund'.status = .failed

/-- The reversals of a disturbed payment are within the share that is left of them. -/
def Orderly (db db' : PaymentDatabase) : Prop :=
  ∀ id row, db'.payments.lookup id = some row → Disturbed db db' id →
    row.Refundable db'.refunds 1 → row.Covered db'.refunds

section Step

variable {db db' : PaymentDatabase} {row row' : PaymentIntentRow}

theorem PaymentIntentRow.Refundable.congr {refunds refunds' : Table paymentRefunds} {amount : Int}
    (h : row'.Refundable refunds' amount) (hstatus : row.status = .captured)
    (hcaptured : row'.capturedAmount = row.capturedAmount)
    (hcommission : row'.commissionAmount = row.commissionAmount)
    (hreserved : reservedRefunds refunds' row'.id PaymentRefundRow.amount =
      reservedRefunds refunds row.id PaymentRefundRow.amount) : row.Refundable refunds amount := by
  obtain ⟨_, hpositive, hwithin, hfits, hproduct⟩ := h
  rw [hcaptured, hreserved] at hwithin
  rw [hcaptured] at hfits
  rw [hcaptured, hcommission, hreserved] at hproduct
  exact ⟨hstatus, hpositive, hwithin, hfits, hproduct⟩

theorem PaymentIntentRow.Covered.congr {refunds refunds' : Table paymentRefunds}
    (h : row.Covered refunds) (hcaptured : row'.capturedAmount = row.capturedAmount)
    (hcommission : row'.commissionAmount = row.commissionAmount)
    (hreserved : reservedRefunds refunds' row'.id PaymentRefundRow.amount =
      reservedRefunds refunds row.id PaymentRefundRow.amount)
    (hreversed : reservedRefunds refunds' row'.id PaymentRefundRow.commissionReversalAmount =
      reservedRefunds refunds row.id PaymentRefundRow.commissionReversalAmount) :
    row'.Covered refunds' where
  commission := by
    rw [hcaptured, hcommission]
    exact h.commission
  share := by
    rw [hcaptured, hcommission, hreserved, hreversed]
    exact h.share

/-- One payment was written and no refund was. -/
theorem PaymentDatabase.Covering.written (h : db.Covering) (horderly : Orderly db db')
    (hproper : AllProper db.payments) (hproper' : AllProper db'.payments)
    (hrefunds : db'.refunds = db.refunds)
    (hwritten : Table.Written db.payments db'.payments row row') (hid : row'.id = row.id) :
    db'.Covering := by
  intro id other hother hone
  have hlookup := hwritten.lookup id
  rw [hother, show paymentIntents.key row = row.id from rfl] at hlookup
  split at hlookup
  · rename_i hsame
    cases hlookup
    subst hsame
    by_cases hamounts : row'.capturedAmount = row.capturedAmount ∧
        row'.commissionAmount = row.commissionAmount
    · obtain ⟨hcaptured, hcommission⟩ := hamounts
      have hrow : db.payments.lookup row.id = some row := hwritten.stored
      -- Something is captured exactly if the status says so, before and after.
      have hstatus : row.status = .captured := by
        rw [← (hproper _ row hrow).captured, ← hcaptured, (hproper' _ row' hother).captured]
        exact hone.captured
      rw [hrefunds] at hone ⊢
      have hbefore : row.Refundable db.refunds 1 :=
        hone.congr hstatus hcaptured hcommission (by rw [hid])
      exact (h _ row hrow hbefore).congr hcaptured hcommission (by rw [hid]) (by rw [hid])
    · refine horderly row.id row' hother (.inl ⟨row, row', hwritten.stored, hother, ?_⟩) hone
      by_contra hnot
      rw [not_or, not_not, not_not] at hnot
      exact hamounts hnot
  · rw [hrefunds] at hone ⊢
    exact h id other hlookup.symm hone

theorem PaymentDatabase.Covering.refunding (h : db.Covering) {refund : PaymentRefundRow}
    (hpayments : db'.payments = db.payments) (haccepted : RefundAccepted db db' refund) :
    db'.Covering := by
  intro id row hrow hone
  rw [hpayments] at hrow
  have hid : row.id = id := Table.key_of_lookup hrow
  have hreserved : ∀ column, reservedRefunds db'.refunds row.id column =
      reservedRefunds db.refunds row.id column +
        if refund.paymentId = row.id then column refund else 0 :=
    fun column => reservedRefunds_inserted haccepted.refunds haccepted.status
  by_cases hsame : refund.paymentId = row.id
  · obtain ⟨payment, hpayment, _, hgranted⟩ := haccepted.payment
    rw [hsame, hid, hrow, Option.some.injEq] at hpayment
    rw [hsame, ← hpayment] at hgranted
    obtain ⟨hnonnegative, hcommission, hshare⟩ := calculateCommissionReversal_share hgranted
    refine ⟨hcommission, ?_⟩
    rw [hreserved, hreserved, if_pos hsame, if_pos hsame, Int.mul_add row.commissionAmount]
    omega
  · have hsum : ∀ column, reservedRefunds db'.refunds row.id column =
        reservedRefunds db.refunds row.id column := by
      intro column
      rw [hreserved, if_neg hsame, add_zero]
    exact (h id row hrow (hone.congr hone.captured rfl rfl (hsum _))).congr rfl rfl
      (hsum _) (hsum _)

theorem PaymentDatabase.Covering.refunded (h : db.Covering) (hbalanced : db.Balanced)
    (horderly : Orderly db db') {outcome : Except PaymentError RefundOutcome}
    {refund refund' : PaymentRefundRow} (hwrite : RefundWrite db db' outcome refund refund') :
    db'.Covering := by
  intro id row' hrow' hone
  have hpayment : refund'.paymentId = refund.paymentId := by rw [hwrite.row]
  have hallowed : refundTransitionAllowed refund.status refund'.status = true := by
    rw [hwrite.row]
    exact hwrite.allowed
  obtain ⟨row, hrow, hid, hcaptured, hcommission, hstatus, _, _⟩ := hbalanced.paid hwrite hrow'
  have hkey : row.id = id := Table.key_of_lookup hrow
  by_cases hfails : refund.paymentId = id ∧ refund'.status = .failed ∧ refund.status ≠ .failed
  · refine horderly id row' hrow' (.inr ⟨refund, refund', hfails.1, hwrite.written.stored, ?_,
      hfails.2.2, hfails.2.1⟩) hone
    rw [hwrite.written.lookup]
    exact if_pos rfl
  · have hsum : ∀ column : PaymentRefundRow → Int, column refund' = column refund →
        reservedRefunds db'.refunds row'.id column = reservedRefunds db.refunds row.id column := by
      intro column hcolumn
      rw [reservedRefunds_written hwrite.written hpayment hcolumn hallowed, hid, hkey,
        if_neg hfails, sub_zero]
    have hamount : refund'.amount = refund.amount := by rw [hwrite.row]
    have hreversal : refund'.commissionReversalAmount = refund.commissionReversalAmount := by
      rw [hwrite.row]
    have hbefore : row.Refundable db.refunds 1 :=
      hone.congr (hstatus ▸ hone.captured) hcaptured hcommission (hsum _ hamount)
    exact (h id row hrow hbefore).congr hcaptured hcommission (hsum _ hamount) (hsum _ hreversal)

/-- The service itself never lets the reversals get ahead of their share. -/
theorem PaymentDatabase.Covering.moved {report : Option Report} (h : db.Covering)
    (hbalanced : db.Balanced) (hproper : AllProper db.payments)
    (hproper' : AllProper db'.payments) (hmoved : PaymentsMoved db report db')
    (horderly : Orderly db db') : db'.Covering := by
  cases hmoved with
  | still hpayments hrefunds _ =>
      intro id row hrow hone
      rw [hpayments] at hrow
      rw [hrefunds] at hone ⊢
      exact h id row hrow hone
  | opened row hnew hrows hrefunds _ =>
      intro id other hother hone
      rw [Table.lookup_inserted hrows] at hother
      split at hother
      · cases hother
        have hcaptured := hone.captured
        rw [hnew.status] at hcaptured
        cases hcaptured
      · rw [hrefunds] at hone ⊢
        exact h id other hother hone
  | reported delivered row row' _ _ hwrites hwritten hrefunds _ =>
      exact h.written horderly hproper hproper' hrefunds hwritten hwrites.refundedAmounts.1
  | capturing paymentId amount createdAt haccepted =>
      obtain ⟨row, _, _, _, _, hwritten⟩ := haccepted.payment
      exact h.written horderly hproper hproper' haccepted.refunds hwritten rfl
  | refunding refund hpayments _ haccepted => exact h.refunding hpayments haccepted
  | refunded outcome refund refund' _ hwrite => exact h.refunded hbalanced horderly hwrite

end Step

/-! ## Runs -/

namespace PaymentService

variable [Sha256] {service : PaymentService}

end PaymentService

end MatchPlane
