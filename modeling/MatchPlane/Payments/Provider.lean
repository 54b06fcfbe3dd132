import MatchPlane.Domain.Identifiers
import MatchPlane.Domain.Numeric
import MatchPlane.Payments.Commission

/-!
# Payment providers

What the payment service asks of a provider and what a provider reports back: the
answer to a call, and the webhooks that arrive on their own.  The adapters that
speak to a provider are outside of this development; every answer is possible.
-/

namespace MatchPlane

inductive GatewayMode where
  | test
  | production
  deriving DecidableEq, Repr

inductive GatewayKind where
  | test
  | epay
  | waffoPancake
  | wechatPayV3
  | alipayOpenapi
  | custom
  deriving DecidableEq, Repr

/-- Exact money in the smallest unit of its currency. -/
structure Money where
  amount : String
  currency : String
  scale : Nat
  deriving DecidableEq, Repr

def Money.exactAmount (money : Money) : Except PaymentError Int :=
  match parseInteger money.amount with
  | some amount => .ok amount.1
  | none => .error (.invalid "money amount is not an exact base-10 integer")

inductive PaymentStatus where
  | requiresAction
  | authorized
  | captured
  | voided
  | pending
  | failed
  | unknown
  deriving DecidableEq, Repr

structure PaymentOutcome where
  paymentId : PaymentId
  providerReference : String
  status : PaymentStatus
  redirectUrl : Option String
  providerStatus : String
  deriving DecidableEq, Repr

inductive RefundStatus where
  | pending
  | succeeded
  | failed
  | unknown
  deriving DecidableEq, Repr

structure RefundOutcome where
  refundId : RefundId
  providerReference : String
  status : RefundStatus
  providerStatus : String
  deriving DecidableEq, Repr

/-! ## Webhooks -/

structure PaymentWebhook where
  providerEventId : String
  eventType : String
  merchantOrderId : Option String
  providerReference : Option String
  status : PaymentStatus
  providerStatus : String
  amount : Option Money
  deriving DecidableEq, Repr

structure RefundWebhook where
  providerEventId : String
  eventType : String
  merchantOrderId : Option String
  providerReference : Option String
  refundReference : Option String
  status : RefundStatus
  providerStatus : String
  amount : Option Money
  deriving DecidableEq, Repr

inductive WebhookEvent where
  | payment (event : PaymentWebhook)
  | refund (event : RefundWebhook)
  deriving DecidableEq, Repr

namespace WebhookEvent

def providerEventId : WebhookEvent → String
  | payment event => event.providerEventId
  | refund event => event.providerEventId

def eventType : WebhookEvent → String
  | payment event => event.eventType
  | refund event => event.eventType

def providerReference : WebhookEvent → Option String
  | payment event => event.providerReference
  | refund event => event.providerReference

end WebhookEvent

end MatchPlane
