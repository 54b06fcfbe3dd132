import MatchPlane.Payments.Moves
import MatchPlane.Payments.Progress

/-!
# Refund accounting

The totals on a payment and the rows of its refunds are written by three paths.
They agree in every state that the service reaches: what was refunded is the sum of
the refunds that succeeded, and whatever has not failed fits into what was captured.
-/

namespace MatchPlane

open MatchPlane.Library

/-- The refunds of a payment that were paid out. -/
def settledRefunds (refunds : Table paymentRefunds) (paymentId : PaymentId)
    (column : PaymentRefundRow → Int) : Int :=
  refunds.total fun refund =>
    if refund.paymentId = paymentId ∧ refund.status = .succeeded then column refund else 0

section Sums

variable {refunds refunds' : Table paymentRefunds} {paymentId : PaymentId}
  {column : PaymentRefundRow → Int} {refund refund' : PaymentRefundRow}

theorem reservedRefunds_none (h : ∀ refund ∈ refunds.rows, refund.paymentId ≠ paymentId) :
    reservedRefunds refunds paymentId column = 0 := by
  refine List.sum_eq_zero fun value hvalue => ?_
  obtain ⟨refund, hrefund, rfl⟩ := List.mem_map.mp hvalue
  simp [h refund hrefund]

theorem settledRefunds_none (h : ∀ refund ∈ refunds.rows, refund.paymentId ≠ paymentId) :
    settledRefunds refunds paymentId column = 0 := by
  refine List.sum_eq_zero fun value hvalue => ?_
  obtain ⟨refund, hrefund, rfl⟩ := List.mem_map.mp hvalue
  simp [h refund hrefund]

theorem reservedRefunds_inserted (h : refunds'.rows = refunds.rows ++ [refund])
    (hstatus : refund.status = .requested) :
    reservedRefunds refunds' paymentId column = reservedRefunds refunds paymentId column +
      if refund.paymentId = paymentId then column refund else 0 := by
  unfold reservedRefunds
  rw [Table.total_inserted h]
  simp [hstatus]

theorem settledRefunds_inserted (h : refunds'.rows = refunds.rows ++ [refund])
    (hstatus : refund.status = .requested) :
    settledRefunds refunds' paymentId column = settledRefunds refunds paymentId column := by
  unfold settledRefunds
  rw [Table.total_inserted h]
  simp [hstatus]

/-- A refund that fails gives back what it had reserved. -/
theorem reservedRefunds_written (h : Table.Written refunds refunds' refund refund')
    (hpayment : refund'.paymentId = refund.paymentId) (hcolumn : column refund' = column refund)
    (hallowed : refundTransitionAllowed refund.status refund'.status = true) :
    reservedRefunds refunds' paymentId column = reservedRefunds refunds paymentId column -
      if refund.paymentId = paymentId ∧ refund'.status = .failed ∧ refund.status ≠ .failed then
        column refund else 0 := by
  unfold reservedRefunds
  rw [h.total, hpayment, hcolumn]
  by_cases hsame : refund.paymentId = paymentId
  · cases hbefore : refund.status <;> cases hafter : refund'.status <;>
      simp_all [refundTransitionAllowed]
  · simp [hsame]

/-- A refund that succeeds is counted from then on. -/
theorem settledRefunds_written (h : Table.Written refunds refunds' refund refund')
    (hpayment : refund'.paymentId = refund.paymentId) (hcolumn : column refund' = column refund)
    (hallowed : refundTransitionAllowed refund.status refund'.status = true) :
    settledRefunds refunds' paymentId column = settledRefunds refunds paymentId column +
      if refund.paymentId = paymentId ∧ refund'.status = .succeeded ∧
        refund.status ≠ .succeeded then column refund else 0 := by
  unfold settledRefunds
  rw [h.total, hpayment, hcolumn]
  by_cases hsame : refund.paymentId = paymentId
  · cases hbefore : refund.status <;> cases hafter : refund'.status <;>
      simp_all [refundTransitionAllowed]
  · simp [hsame]

end Sums

/-! ## The invariant -/

/-- The totals of a payment, and the refunds that they stand for. -/
structure PaymentIntentRow.Balanced (row : PaymentIntentRow) (refunds : Table paymentRefunds) :
    Prop where
  refunded : row.refundedAmount = settledRefunds refunds row.id PaymentRefundRow.amount
  reversed : row.commissionRefundedAmount =
    settledRefunds refunds row.id PaymentRefundRow.commissionReversalAmount
  reserved : reservedRefunds refunds row.id PaymentRefundRow.amount ≤ row.capturedAmount
  reservedReversal :
    reservedRefunds refunds row.id PaymentRefundRow.commissionReversalAmount ≤
      row.commissionAmount

structure PaymentDatabase.Balanced (db : PaymentDatabase) : Prop where
  payments : ∀ id row, db.payments.lookup id = some row → row.Balanced db.refunds
  captured : ∀ refund ∈ db.refunds.rows, ∃ row,
    db.payments.lookup refund.paymentId = some row ∧ row.status = .captured

section Step

variable {db db' : PaymentDatabase} {row row' : PaymentIntentRow}

/-- Only a refund touches what was refunded. -/
theorem Report.Writes.refundedAmounts {report : Report} (h : report.Writes db row row') :
    row'.id = row.id ∧ row'.refundedAmount = row.refundedAmount ∧
      row'.commissionRefundedAmount = row.commissionRefundedAmount := by
  cases report with
  | authorization outcome =>
      obtain ⟨_, rfl⟩ := h
      exact ⟨rfl, rfl, rfl⟩
  | rejection paymentId unknown providerStatus =>
      obtain ⟨_, rfl⟩ := h
      exact ⟨rfl, rfl, rfl⟩
  | query paymentId outcome =>
      cases outcome with
      | ok result =>
          obtain ⟨_, rfl⟩ := h
          exact ⟨rfl, rfl, rfl⟩
      | error error =>
          obtain ⟨_, rfl⟩ := h
          exact ⟨rfl, rfl, rfl⟩
  | capture paymentId amount outcome now =>
      obtain ⟨_, _, _, rfl⟩ := h
      exact ⟨rfl, rfl, rfl⟩
  | webhook gatewayId event =>
      obtain ⟨_, _, _, _, rfl⟩ := h
      exact ⟨rfl, rfl, rfl⟩

theorem commission_nonneg_of_lookup {payments : Table paymentIntents} {id : PaymentId}
    (h : payments.lookup id = some row) : 0 ≤ row.commissionAmount := by
  have hcheck := Table.check_of_lookup h
  simp only [paymentIntents, PaymentIntentRow.amountsCheck, decide_eq_true_eq,
    isNumeric_iff] at hcheck
  omega

/-- A payment without refunds is balanced by any amounts. -/
theorem PaymentIntentRow.balanced_of_none {refunds : Table paymentRefunds}
    (h : ∀ refund ∈ refunds.rows, refund.paymentId ≠ row.id) (hrefunded : row.refundedAmount = 0)
    (hreversed : row.commissionRefundedAmount = 0) (hcaptured : 0 ≤ row.capturedAmount)
    (hcommission : 0 ≤ row.commissionAmount) : row.Balanced refunds where
  refunded := by rw [settledRefunds_none h, hrefunded]
  reversed := by rw [settledRefunds_none h, hreversed]
  reserved := by rwa [reservedRefunds_none h]
  reservedReversal := by rwa [reservedRefunds_none h]

namespace PaymentDatabase.Balanced

/-- Refunds belong to captured payments only. -/
theorem none_of_uncaptured (h : db.Balanced) {id : PaymentId}
    (hstatus : ∀ row, db.payments.lookup id = some row → row.status ≠ .captured) :
    ∀ refund ∈ db.refunds.rows, refund.paymentId ≠ id := by
  intro refund hrefund hid
  obtain ⟨row, hrow, hcaptured⟩ := h.captured refund hrefund
  exact hstatus row (hid ▸ hrow) hcaptured

/-- A balanced row that advances without refunds stays balanced. -/
theorem advances (h : db.Balanced) (hrow : db.payments.lookup row.id = some row)
    (hrow' : db'.payments.lookup row.id = some row') (hadvances : row.Advances row')
    (hid : row'.id = row.id) (hrefunded : row'.refundedAmount = row.refundedAmount)
    (hreversed : row'.commissionRefundedAmount = row.commissionRefundedAmount) :
    row'.Balanced db.refunds := by
  have hbalanced := h.payments row.id row hrow
  by_cases hcaptured : row.status = .captured
  · refine ⟨?_, ?_, ?_, ?_⟩
    · rw [hid, hrefunded, hbalanced.refunded]
    · rw [hid, hreversed, hbalanced.reversed]
    · rw [hid]
      exact hbalanced.reserved.trans hadvances.capturedAmount
    · rw [hid]
      exact hbalanced.reservedReversal.trans (hadvances.commissionAmount hcaptured)
  · have hnone : ∀ refund ∈ db.refunds.rows, refund.paymentId ≠ row.id := by
      refine h.none_of_uncaptured fun other hother => ?_
      rw [hrow, Option.some.injEq] at hother
      rwa [← hother]
    refine PaymentIntentRow.balanced_of_none (by rwa [hid]) ?_ ?_ ?_ ?_
    · rw [hrefunded, hbalanced.refunded, settledRefunds_none hnone]
    · rw [hreversed, hbalanced.reversed, settledRefunds_none hnone]
    · exact (amounts_of_lookup hrow').2.1
    · exact commission_nonneg_of_lookup hrow'

/-- Payments keep their refunds when they advance. -/
theorem captured_of_advance (h : db.Balanced)
    (hadvance : PaymentsAdvance db.payments db'.payments) :
    ∀ refund ∈ db.refunds.rows, ∃ row,
      db'.payments.lookup refund.paymentId = some row ∧ row.status = .captured := by
  intro refund hrefund
  obtain ⟨row, hrow, hcaptured⟩ := h.captured refund hrefund
  obtain ⟨row', hrow', hadvances⟩ := hadvance.kept _ row hrow
  exact ⟨row', hrow', (hadvances.status (by rw [hcaptured]; rfl)).trans hcaptured⟩

/-- One payment was written and no refund was. -/
theorem written (h : db.Balanced) (hadvance : PaymentsAdvance db.payments db'.payments)
    (hrefunds : db'.refunds = db.refunds)
    (hwritten : Table.Written db.payments db'.payments row row') (hid : row'.id = row.id)
    (hrefunded : row'.refundedAmount = row.refundedAmount)
    (hreversed : row'.commissionRefundedAmount = row.commissionRefundedAmount) :
    db'.Balanced where
  payments := by
    intro id other hother
    rw [hrefunds]
    have hlookup := hwritten.lookup id
    by_cases hsame : id = row.id
    · rw [show paymentIntents.key row = row.id from rfl, if_pos hsame] at hlookup
      rw [hother, Option.some.injEq] at hlookup
      subst hlookup hsame
      obtain ⟨later, hlater, hadvances⟩ := hadvance.kept row.id row hwritten.stored
      rw [hother, Option.some.injEq] at hlater
      subst hlater
      exact h.advances hwritten.stored hother hadvances hid hrefunded hreversed
    · rw [show paymentIntents.key row = row.id from rfl, if_neg hsame] at hlookup
      exact h.payments id other (by rw [← hlookup]; exact hother)
  captured := by
    rw [hrefunds]
    exact h.captured_of_advance hadvance

theorem opened (h : db.Balanced) (hrefunds : db'.refunds = db.refunds) (hnew : row.IsNew)
    (hrows : db'.payments.rows = db.payments.rows ++ [row]) : db'.Balanced where
  payments := by
    intro id other hother
    rw [hrefunds]
    have hlookup := hother
    rw [Table.lookup_inserted hrows] at hlookup
    split at hlookup
    · rename_i hid
      cases hlookup
      have hnone : db.payments.lookup row.id = none := Table.lookup_inserted_none hrows
      refine PaymentIntentRow.balanced_of_none ?_ hnew.refundedAmount
        hnew.commissionRefundedAmount hnew.capturedAmount.ge (commission_nonneg_of_lookup hother)
      exact h.none_of_uncaptured fun existing hexisting => by
        rw [hnone] at hexisting
        cases hexisting
    · exact h.payments id other hlookup
  captured := by
    rw [hrefunds]
    intro refund hrefund
    obtain ⟨existing, hexisting, hcaptured⟩ := h.captured refund hrefund
    exact ⟨existing, Table.lookup_inserted_of_some hrows hexisting, hcaptured⟩

theorem refunding (h : db.Balanced) {refund : PaymentRefundRow}
    (hpayments : db'.payments = db.payments) (haccepted : RefundAccepted db db' refund) :
    db'.Balanced := by
  obtain ⟨payment, hpayment, hcaptured, hgranted⟩ := haccepted.payment
  obtain ⟨_, hwithin, _, hshare⟩ := calculateCommissionReversal_bounds hgranted
  refine ⟨fun id row hrow => ?_, fun other hother => ?_⟩
  · rw [hpayments] at hrow
    have hbalanced := h.payments id row hrow
    have hid : row.id = id := Table.key_of_lookup hrow
    have hpaid : refund.paymentId = row.id → payment = row := by
      intro hsame
      rw [hsame, hid, hrow, Option.some.injEq] at hpayment
      exact hpayment.symm
    refine ⟨?_, ?_, ?_, ?_⟩
    · rw [settledRefunds_inserted haccepted.refunds haccepted.status, hbalanced.refunded]
    · rw [settledRefunds_inserted haccepted.refunds haccepted.status, hbalanced.reversed]
    · rw [reservedRefunds_inserted haccepted.refunds haccepted.status]
      split
      · rename_i hsame
        rwa [hsame, hpaid hsame] at hwithin
      · simpa using hbalanced.reserved
    · rw [reservedRefunds_inserted haccepted.refunds haccepted.status]
      split
      · rename_i hsame
        rwa [hsame, hpaid hsame] at hshare
      · simpa using hbalanced.reservedReversal
  · rw [hpayments]
    rw [haccepted.refunds, List.mem_append, List.mem_singleton] at hother
    rcases hother with hother | rfl
    · exact h.captured other hother
    · exact ⟨payment, hpayment, hcaptured⟩

/-- What the answer to a refund leaves of the amounts of a payment. -/
theorem paid {outcome : Except PaymentError RefundOutcome} {refund refund' : PaymentRefundRow}
    (h : db.Balanced) (hwrite : RefundWrite db db' outcome refund refund') {id : PaymentId}
    (hrow' : db'.payments.lookup id = some row') : ∃ row, db.payments.lookup id = some row ∧
      row'.id = row.id ∧ row'.capturedAmount = row.capturedAmount ∧
      row'.commissionAmount = row.commissionAmount ∧ row'.status = row.status ∧
      row'.refundedAmount = row.refundedAmount + (if refund.paymentId = id ∧
        refund'.status = .succeeded ∧ refund.status ≠ .succeeded then refund.amount else 0) ∧
      row'.commissionRefundedAmount = row.commissionRefundedAmount +
        (if refund.paymentId = id ∧ refund'.status = .succeeded ∧ refund.status ≠ .succeeded then
          refund.commissionReversalAmount else 0) := by
  have hstatus : refund'.status = (refundVerdict outcome).1 := by rw [hwrite.row]
  have hpayment := hwrite.payment
  rw [← hstatus] at hpayment
  split at hpayment
  · rename_i hsucceeded
    rcases hpayment with ⟨hnone, _⟩ | ⟨row, hid, hwritten⟩
    · have hmem : refund ∈ db.refunds.rows := Table.mem_of_lookup hwrite.written.stored
      obtain ⟨row, hrow, _⟩ := h.captured refund hmem
      rw [hnone] at hrow
      cases hrow
    · have hlookup := hwritten.lookup id
      rw [hrow', show paymentIntents.key row = row.id from rfl, hid] at hlookup
      split at hlookup
      · rename_i hsame
        cases hlookup
        refine ⟨row, ?_, hid.symm, rfl, rfl, rfl, ?_, ?_⟩
        · rw [hsame, ← hid]
          exact hwritten.stored
        · rw [if_pos ⟨hsame.symm, hsucceeded⟩]
        · rw [if_pos ⟨hsame.symm, hsucceeded⟩]
      · rename_i hother
        refine ⟨row', hlookup.symm, rfl, rfl, rfl, rfl, ?_, ?_⟩
        · rw [if_neg fun hboth => hother hboth.1.symm, add_zero]
        · rw [if_neg fun hboth => hother hboth.1.symm, add_zero]
  · rename_i hnot
    rw [hpayment] at hrow'
    refine ⟨row', hrow', rfl, rfl, rfl, rfl, ?_, ?_⟩
    · rw [if_neg fun hboth => hnot hboth.2, add_zero]
    · rw [if_neg fun hboth => hnot hboth.2, add_zero]

theorem refunded {outcome : Except PaymentError RefundOutcome}
    {refund refund' : PaymentRefundRow} (h : db.Balanced)
    (hadvance : PaymentsAdvance db.payments db'.payments)
    (hwrite : RefundWrite db db' outcome refund refund') : db'.Balanced := by
  have hmem : refund ∈ db.refunds.rows := Table.mem_of_lookup hwrite.written.stored
  have hpayment : refund'.paymentId = refund.paymentId := by rw [hwrite.row]
  have hamount : refund'.amount = refund.amount := by rw [hwrite.row]
  have hreversal : refund'.commissionReversalAmount = refund.commissionReversalAmount := by
    rw [hwrite.row]
  have hallowed : refundTransitionAllowed refund.status refund'.status = true := by
    rw [hwrite.row]
    exact hwrite.allowed
  refine ⟨fun id row' hrow' => ?_, fun other hother => ?_⟩
  · obtain ⟨row, hrow, hid, hcaptured, hcommission, _, hrefunded, hreversed⟩ :=
      h.paid hwrite hrow'
    have hbalanced := h.payments id row hrow
    have hkey : row.id = id := Table.key_of_lookup hrow
    have hnonnegative := db.refunds.valid.checked refund hmem
    simp only [paymentRefunds, decide_eq_true_eq, isNumeric_iff] at hnonnegative
    refine ⟨?_, ?_, ?_, ?_⟩
    · rw [settledRefunds_written hwrite.written hpayment hamount hallowed, hrefunded, hid,
        hbalanced.refunded, hkey]
    · rw [settledRefunds_written hwrite.written hpayment hreversal hallowed, hreversed, hid,
        hbalanced.reversed, hkey]
    · rw [reservedRefunds_written hwrite.written hpayment hamount hallowed, hcaptured, hid]
      have hreserved := hbalanced.reserved
      split <;> omega
    · rw [reservedRefunds_written hwrite.written hpayment hreversal hallowed, hcommission, hid]
      have hreserved := hbalanced.reservedReversal
      split <;> omega
  · -- Every refund that is stored now was stored before, for the same payment.
    have hlookup : db'.refunds.lookup other.id = some other := Table.lookup_of_mem hother
    rw [hwrite.written.lookup] at hlookup
    split at hlookup
    · cases hlookup
      rw [hpayment]
      exact h.captured_of_advance hadvance refund hmem
    · exact h.captured_of_advance hadvance other (Table.mem_of_lookup hlookup)

/-- Every move of the service keeps the totals and the refunds in step. -/
theorem moved {report : Option Report} (h : db.Balanced) (hmoved : PaymentsMoved db report db')
    (hadvance : PaymentsAdvance db.payments db'.payments) : db'.Balanced := by
  cases hmoved with
  | still hpayments hrefunds _ =>
      refine ⟨?_, ?_⟩
      · rw [hpayments, hrefunds]
        exact h.payments
      · rw [hpayments, hrefunds]
        exact h.captured
  | opened row hnew hrows hrefunds _ => exact h.opened hrefunds hnew hrows
  | reported delivered row row' _ _ hwrites hwritten hrefunds _ =>
      obtain ⟨hid, hrefunded, hreversed⟩ := hwrites.refundedAmounts
      exact h.written hadvance hrefunds hwritten hid hrefunded hreversed
  | capturing paymentId amount createdAt haccepted =>
      obtain ⟨row, _, _, _, _, hwritten⟩ := haccepted.payment
      exact h.written hadvance haccepted.refunds hwritten rfl rfl rfl
  | refunding refund hpayments _ haccepted => exact h.refunding hpayments haccepted
  | refunded outcome refund refund' _ hwrite => exact h.refunded hadvance hwrite

end PaymentDatabase.Balanced

end Step

/-! ## Runs -/

namespace PaymentService

variable {service : PaymentService}

theorem Fresh.balanced (h : service.Fresh) : service.db.Balanced where
  payments := by
    intro id row hrow
    rw [h.payments] at hrow
    cases hrow
  captured := by
    intro refund hrefund
    rw [h.refunds] at hrefund
    cases hrefund

variable [Sha256]

theorem run_balanced (hfresh : service.Fresh) {actions : List PaymentAction}
    (hvalid : ∀ action ∈ actions, action.Validated) :
    AllProper (service.run actions).db.payments ∧ (service.run actions).db.Balanced := by
  induction actions using List.reverseRecOn with
  | nil => exact ⟨hfresh.allProper, hfresh.balanced⟩
  | append_singleton actions action ih =>
      obtain ⟨hproper, hbalanced⟩ := ih fun other hother =>
        hvalid other (List.mem_append_left _ hother)
      have hadvance := step_advances hproper
        (hvalid action (List.mem_append_right _ List.mem_cons_self))
      rw [run_append]
      exact ⟨hadvance.allProper, hbalanced.moved (step_moved _ action) hadvance⟩

end PaymentService

end MatchPlane
