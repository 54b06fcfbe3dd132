import MatchPlane.Payments.Adapters
import MatchPlane.Payments.Store

/-!
# The payment API

How failures are reported to a caller, and the checks that the handlers make of
their own before they turn to the store or to a provider.
-/

namespace MatchPlane

open MatchPlane.Library

structure ApiError where
  status : Nat
  code : String
  message : String
  deriving DecidableEq, Repr

namespace ApiError

def badRequest (message : String) : ApiError := ⟨400, "invalid_request", message⟩

def ofGateway (error : PaymentError) : ApiError :=
  match error with
  | .invalid message => badRequest message
  | .idempotencyConflict | .invalidTransition _ _ => ⟨409, "payment_conflict", error.message⟩
  | .unsupported _ _ => ⟨422, "unsupported_gateway_operation", error.message⟩
  | .providerRejected _ _ => ⟨402, "provider_rejected", error.message⟩
  | .unknownOutcome | .transport _ => ⟨502, "provider_outcome_unknown",
      "payment provider outcome is unknown; reconciliation is queued"⟩
  | .credential _ | .signature | .json _ => ⟨502, "gateway_configuration_error",
      "payment gateway configuration or trusted response is invalid"⟩
  | .notFound resource => ⟨404, "not_found", s!"{resource} was not found"⟩

def ofStore : StoreError → ApiError
  | .notFound resource => ⟨404, "not_found", s!"{resource} was not found"⟩
  | .idempotencyConflict => ⟨409, "idempotency_conflict",
      "idempotency key was reused with different data"⟩
  | .conflict message => ⟨409, "payment_conflict", message⟩
  | .invalid message => badRequest message
  | .payment error => ofGateway error
  | .database => ⟨500, "database_error", "payment persistence failed"⟩
  | .json => ⟨500, "internal_error", "payment audit serialization failed"⟩

end ApiError

def validatedAmount (money : Money) : Except ApiError Int := do
  let amount ← money.exactAmount.mapError .ofGateway
  let _ ← (Money.new amount money.currency money.scale).mapError .ofGateway
  if amount ≤ 0 then .error (.badRequest "payment amount must be positive") else .ok amount

/-- A validated amount is positive money of its own currency and scale. -/
theorem validatedAmount_eq_ok {money : Money} {amount : Int}
    (h : validatedAmount money = .ok amount) :
    0 < amount ∧ money.exactAmount = .ok amount ∧
      ∃ exact, Money.new amount money.currency money.scale = .ok exact := by
  unfold validatedAmount at h
  cases hexact : money.exactAmount with
  | error _ =>
      rw [hexact] at h
      cases h
  | ok value =>
      rw [hexact] at h
      cases hnew : Money.new value money.currency money.scale with
      | error _ =>
          simp only [Except.mapError, bind, Except.bind, hnew] at h
          cases h
      | ok exact =>
          simp only [Except.mapError, bind, Except.bind, hnew] at h
          split at h
          · cases h
          · cases h
            exact ⟨by omega, rfl, exact, hnew⟩

end MatchPlane
