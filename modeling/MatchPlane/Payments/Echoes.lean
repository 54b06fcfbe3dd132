import MatchPlane.Payments.Api
import MatchPlane.Payments.Webhooks

/-!
# Amounts that come back

A provider reports the amount that it was asked for.  Whether the service
recognizes it is decided by the scale and the currency in which the adapter reads
notifications, which are not those of the payment.
-/

namespace MatchPlane

open MatchPlane.Library

/-- The payment that is stored for an order. -/
structure AuthorizedAs (order : AuthorizePayment) (payment : PaymentIntentRow) : Prop where
  amount : validatedAmount order.amount = .ok payment.amount
  currency : payment.currency = order.amount.currency
  currencyScale : payment.currencyScale = order.amount.scale

/-- A notification is understood, and its amount is exactly that of the payment. -/
def Survives (payment : PaymentIntentRow) (result : Except PaymentError WebhookEvent) : Prop :=
  ∃ event money, result = .ok (.payment event) ∧ event.amount = some money ∧
    checkWebhookAmount payment event = .ok () ∧ money.exactAmount = .ok payment.amount

section Amounts

variable {payment : PaymentIntentRow} {event : PaymentWebhook} {money : Money}

/-- The amount check of a webhook, for an amount of 128 bits. -/
theorem checkWebhookAmount_eq_ok_iff {reported : Int} (hmoney : event.amount = some money)
    (hreported : money.exactAmount = .ok reported) (hfits : InI128 payment.amount) :
    checkWebhookAmount payment event = .ok () ↔ money.currency = payment.currency ∧
      (money.scale : Int) = payment.currencyScale ∧ reported ≤ payment.amount := by
  unfold checkWebhookAmount
  simp only [hmoney, exact, if_pos hfits, bind, Except.bind, hreported, PaymentError.toStore]
  split
  · rename_i hother
    simp only [reduceCtorEq, false_iff]
    rintro ⟨hcurrency, hscale, _⟩
    exact hother.elim (· hcurrency) (· hscale)
  · rename_i hsame
    rw [not_or, not_not, not_not] at hsame
    split
    · rename_i hmore
      simp only [reduceCtorEq, false_iff]
      rintro ⟨_, _, hle⟩
      omega
    · simp only [true_iff, pure, Except.pure]
      exact ⟨hsame.1, hsame.2, by omega⟩

/-- What was printed for an order and is read in some currency at two decimals. -/
theorem survives_iff {order : AuthorizePayment} {currency value : String}
    {event : Money → PaymentWebhook} (hevent : ∀ money, (event money).amount = some money)
    (h : AuthorizedAs order payment) (hvalue : order.amount.decimalString = .ok value) :
    Survives payment ((decimalMoney value currency 2).map fun money => .payment (event money)) ↔
      order.amount.scale = 2 ∧ order.amount.currency = currency := by
  obtain ⟨hpositive, hexact, own, hown⟩ := validatedAmount_eq_ok h.amount
  obtain ⟨_, hscale, _⟩ := Money.new_eq_ok hown
  have hmax := Money.le_of_exactAmount hexact
  have hfits : InI128 payment.amount := ⟨by simp only [i128Min]; omega, hmax⟩
  constructor
  · rintro ⟨stored, money, hresult, hamount, hcheck, hmoney⟩
    cases hread : decimalMoney value currency 2 with
    | error _ =>
        rw [hread] at hresult
        cases hresult
    | ok read =>
        rw [hread] at hresult
        cases hresult
        rw [hevent, Option.some.injEq] at hamount
        subst hamount
        obtain ⟨hcurrency, htwo⟩ := decimalMoney_eq_ok hread
        obtain ⟨hsame, hscales, _⟩ := (checkWebhookAmount_eq_ok_iff (hevent _) hmoney hfits).mp
          hcheck
        rw [h.currencyScale, htwo] at hscales
        rw [h.currency, hcurrency] at hsame
        exact ⟨by omega, hsame.symm⟩
  · rintro ⟨htwo, rfl⟩
    obtain ⟨value', hvalue', hread⟩ := Money.decimalMoney_decimalString hexact hpositive.le hscale
    rw [hvalue] at hvalue'
    cases hvalue'
    rw [htwo] at hread hown
    rw [hread, hown]
    have hmoney := Money.exactAmount_new hown hmax
    obtain ⟨_, _, rfl⟩ := Money.new_eq_ok hown
    refine ⟨_, _, rfl, hevent _, ?_, hmoney⟩
    rw [checkWebhookAmount_eq_ok_iff (hevent _) hmoney hfits]
    exact ⟨h.currency.symm, by rw [h.currencyScale, htwo], le_refl _⟩

end Amounts

/-! ## Echoes -/

section Sent

variable {order : AuthorizePayment} {printed : String}

theorem AlipayGateway.bizContent_eq_ok (productCode : String)
    (h : order.amount.decimalString = .ok printed) :
    ∃ content, AlipayGateway.bizContent order productCode = .ok content ∧
      content.text "total_amount" = some printed := by
  simp only [bizContent, h, bind, Except.bind]
  exact ⟨_, rfl, rfl⟩

theorem AlipayGateway.bizContent_amount {productCode : String} {content : Json}
    (h : AlipayGateway.bizContent order productCode = .ok content) :
    ∃ printed, order.amount.decimalString = .ok printed ∧
      content.text "total_amount" = some printed := by
  cases hprinted : order.amount.decimalString with
  | error _ =>
      simp only [bizContent, hprinted, bind, Except.bind] at h
      cases h
  | ok printed =>
      obtain ⟨own, hown, hamount⟩ := bizContent_eq_ok productCode hprinted
      rw [h] at hown
      cases hown
      exact ⟨printed, rfl, hamount⟩

theorem WaffoGateway.orderBody_eq_ok (gateway : WaffoGateway) (methodName : Option String)
    (methodType : String) (h : order.amount.decimalString = .ok printed) :
    ∃ body, gateway.orderBody order methodName methodType = .ok body ∧
      body.text "orderAmount" = some printed ∧
      body.text "orderCurrency" = some order.amount.currency := by
  simp only [orderBody, h, bind, Except.bind]
  exact ⟨_, rfl, rfl, rfl⟩

theorem WaffoGateway.orderBody_amount {gateway : WaffoGateway} {methodName : Option String}
    {methodType : String} {body : Json}
    (h : gateway.orderBody order methodName methodType = .ok body) :
    ∃ printed, order.amount.decimalString = .ok printed ∧
      body.text "orderAmount" = some printed ∧
      body.text "orderCurrency" = some order.amount.currency := by
  cases hprinted : order.amount.decimalString with
  | error _ =>
      simp only [orderBody, hprinted, bind, Except.bind] at h
      cases h
  | ok printed =>
      obtain ⟨own, hown, hamount⟩ := gateway.orderBody_eq_ok methodName methodType hprinted
      rw [h] at hown
      cases hown
      exact ⟨printed, rfl, hamount⟩

end Sent

theorem Json.either_bind_asStr {value : Json} {first second text : String}
    (h : value.text first = some text) :
    (value.either first second).bind Json.asStr = some text := by
  unfold Json.text at h
  rw [Option.bind_eq_some_iff] at h
  obtain ⟨field, hfield, htext⟩ := h
  simp [Json.either, hfield, htext]

section Providers

variable [Codec]

/-- An authentic notification about an order with the amount that was sent for it. -/
structure EpayGateway.Echoes (gateway : EpayGateway) (order : AuthorizePayment)
    (request : WebhookRequest) (params : Form) : Prop where
  parsed : params = .ofList (Codec.parseForm request.body)
  sign : requiredField params["sign"]? "sign" = .ok (gateway.sign params)
  signType : params["sign_type"]? = some "MD5"
  merchant : params["pid"]? = some gateway.merchantId
  status : ∃ status, requiredField params["trade_status"]? "trade_status" = .ok status
  names : requiredField params["out_trade_no"]? "out_trade_no" = .ok order.merchantOrderId
  amount : ∃ methodCode sent, order.method = .epay methodCode ∧
    gateway.signedParameters order methodCode = .ok sent ∧ params["money"]? = sent["money"]?

structure AlipayGateway.Echoes (gateway : AlipayGateway) (order : AuthorizePayment)
    (request : WebhookRequest) (params : Form) : Prop where
  parsed : params = .ofList (Codec.parseForm request.body)
  sign : ∃ signature, requiredField params["sign"]? "sign" = .ok signature ∧
    Codec.verifyRsaSha256 gateway.alipayPublicKey
      (bytesOf (params.canonical ["sign", "sign_type"])) signature = .ok ()
  signType : params["sign_type"]? = some "RSA2"
  app : params["app_id"]? = some gateway.appId
  status : ∃ status, requiredField params["trade_status"]? "trade_status" = .ok status
  names : params.filled "out_trade_no" = some order.merchantOrderId
  payment : params.filled "refund_status" = none
  amount : ∃ productCode content, (∃ method, AlipayGateway.checkout order.method =
    .ok (method, productCode)) ∧ AlipayGateway.bizContent order productCode = .ok content ∧
    params["total_amount"]? = content.text "total_amount"

structure WaffoGateway.Echoes (gateway : WaffoGateway) (order : AuthorizePayment)
    (request : WebhookRequest) (value data : Json) : Prop where
  sign : ∃ signature, request.header "X-SIGNATURE" = some signature ∧
    Codec.verifyRsaSha256 gateway.waffoPublicKey request.body signature = .ok ()
  parsed : Codec.parseJson request.body = .ok value
  payload : (value.get "data").getD value = data
  merchant : ∀ merchant, (data.either "merchantId" "merchant_id").bind Json.asStr =
    some merchant → merchant = gateway.merchantId
  identity : ∃ providerEventId, WaffoGateway.providerEventId value data = .ok providerEventId
  payment : data.get "refundStatus" = none ∧ data.get "acquiringRefundId" = none
  amount : ∃ methodName methodType body, order.method = .waffo methodName methodType ∧
    gateway.orderBody order methodName methodType = .ok body ∧
    data.text "orderAmount" = body.text "orderAmount" ∧
    data.text "orderCurrency" = body.text "orderCurrency"

section Echoes

variable {order : AuthorizePayment} {payment : PaymentIntentRow} {request : WebhookRequest}

theorem EpayGateway.signedParameters_eq_ok (gateway : EpayGateway) (methodCode : String)
    {value : String} (h : order.amount.decimalString = .ok value) :
    ∃ sent, gateway.signedParameters order methodCode = .ok sent ∧ sent["money"]? = some value := by
  simp only [signedParameters, h, bind, Except.bind]
  refine ⟨_, rfl, ?_⟩
  rw [Std.ExtTreeMap.getElem?_insert, Std.ExtTreeMap.getElem?_insert, if_neg (by decide),
    if_neg (by decide)]
  have hkey : compare "money" "money" = .eq := by decide
  refine Std.ExtTreeMap.getElem?_ofList_of_mem hkey ?_ (by simp)
  simp

/-- The amount that a checkout carries is the printed one. -/
theorem EpayGateway.signedParameters_money {gateway : EpayGateway} {methodCode : String}
    {sent : Form} (h : gateway.signedParameters order methodCode = .ok sent) :
    ∃ value, order.amount.decimalString = .ok value ∧ sent["money"]? = some value := by
  cases hvalue : order.amount.decimalString with
  | error _ =>
      simp only [signedParameters, hvalue, bind, Except.bind] at h
      cases h
  | ok value =>
      obtain ⟨own, hown, hmoney⟩ := gateway.signedParameters_eq_ok methodCode hvalue
      rw [h] at hown
      cases hown
      exact ⟨value, rfl, hmoney⟩

theorem EpayGateway.Echoes.survives_iff {gateway : EpayGateway} {params : Form}
    (h : gateway.Echoes order request params) (hpayment : AuthorizedAs order payment) :
    Survives payment (gateway.webhook request) ↔
      order.amount.scale = 2 ∧ order.amount.currency = gateway.currency := by
  obtain ⟨status, hstatus⟩ := h.status
  obtain ⟨methodCode, sent, _, hsent, hmoney⟩ := h.amount
  obtain ⟨value, hvalue, hprinted⟩ := signedParameters_money hsent
  rw [hprinted] at hmoney
  have hwebhook : gateway.webhook request =
      (decimalMoney value gateway.currency 2).map fun money => .payment {
        providerEventId := (params.filled "trade_no").getD s!"{order.merchantOrderId}:{status}"
        eventType := s!"epay.{status}"
        merchantOrderId := some order.merchantOrderId
        providerReference := some ((params.filled "trade_no").getD order.merchantOrderId)
        status := webhookStatus status
        providerStatus := status
        amount := some money } := by
    unfold webhook
    rw [← h.parsed]
    cases hread : decimalMoney value gateway.currency 2 <;>
      simp [h.sign, h.signType, h.merchant, hstatus, h.names, hmoney, bind, Except.bind, hread,
        Except.map, Option.mapM]
  rw [hwebhook]
  exact MatchPlane.survives_iff (fun _ => rfl) hpayment hvalue

theorem AlipayGateway.Echoes.survives_iff {gateway : AlipayGateway} {params : Form}
    (h : gateway.Echoes order request params) (hpayment : AuthorizedAs order payment) :
    Survives payment (gateway.webhook request) ↔
      order.amount.scale = 2 ∧ order.amount.currency = "CNY" := by
  obtain ⟨signature, hsign, hverified⟩ := h.sign
  obtain ⟨status, hstatus⟩ := h.status
  obtain ⟨productCode, content, _, hsent, hmoney⟩ := h.amount
  obtain ⟨value, hvalue, hprinted⟩ := bizContent_amount hsent
  rw [hprinted] at hmoney
  have hidentity : ∃ providerEventId, AlipayGateway.providerEventId params
      (some ((params.filled "trade_no").getD order.merchantOrderId)) = .ok providerEventId := by
    simp [AlipayGateway.providerEventId, requiredField_eq_ok hstatus]
  obtain ⟨providerEventId, hevent⟩ := hidentity
  have hwebhook : gateway.webhook request =
      (decimalMoney value "CNY" 2).map fun money => .payment {
        providerEventId := providerEventId
        eventType := s!"alipay.{status}"
        merchantOrderId := some order.merchantOrderId
        providerReference := some ((params.filled "trade_no").getD order.merchantOrderId)
        status := webhookStatus status
        providerStatus := status
        amount := some money } := by
    unfold webhook
    rw [← h.parsed]
    cases hread : decimalMoney value "CNY" 2 <;>
      simp [hsign, h.signType, h.app, hverified, hstatus, h.names, h.payment, hmoney, bind,
        Except.bind, hread, Except.map, Option.mapM, hevent]
  rw [hwebhook]
  exact MatchPlane.survives_iff (fun _ => rfl) hpayment hvalue

theorem WaffoGateway.Echoes.survives_iff {gateway : WaffoGateway} {value data : Json}
    (h : gateway.Echoes order request value data) (hpayment : AuthorizedAs order payment) :
    Survives payment (gateway.webhook request) ↔ order.amount.scale = 2 := by
  obtain ⟨signature, hsign, hverified⟩ := h.sign
  obtain ⟨providerEventId, hidentity⟩ := h.identity
  obtain ⟨methodName, methodType, body, _, hsent, hmoney, hcurrency⟩ := h.amount
  obtain ⟨printed, hvalue, hprinted, hsentCurrency⟩ := orderBody_amount hsent
  have hamount : (data.either "orderAmount" "amount").bind Json.asStr = some printed :=
    Json.either_bind_asStr (hmoney.trans hprinted)
  have hnamed : (data.either "orderCurrency" "currency").bind Json.asStr =
      some order.amount.currency := Json.either_bind_asStr (hcurrency.trans hsentCurrency)
  have hmerchant : ((data.either "merchantId" "merchant_id").bind Json.asStr).any
      (fun merchant => merchant ≠ gateway.merchantId) = false := by
    cases hnamedMerchant : (data.either "merchantId" "merchant_id").bind Json.asStr with
    | none => rfl
    | some merchant => simp [h.merchant merchant hnamedMerchant]
  have hwebhook : gateway.webhook request =
      (decimalMoney printed order.amount.currency 2).map fun money => .payment {
        providerEventId := providerEventId
        eventType := "waffo.payment"
        merchantOrderId := (data.either "merchantOrderId" "merchant_order_id").bind Json.asStr
        providerReference := (data.either "acquiringOrderId" "transactionId").bind Json.asStr
        status := webhookStatus
          (((data.either "orderStatus" "status").bind Json.asStr).getD "UNKNOWN")
        providerStatus := ((data.either "orderStatus" "status").bind Json.asStr).getD "UNKNOWN"
        amount := some money } := by
    unfold webhook
    simp only [hsign, hverified, h.parsed, PaymentError.ofJson, h.payload, bind, Except.bind,
      hmerchant, hidentity, Bool.false_eq_true, if_false]
    cases hread : decimalMoney printed order.amount.currency 2 <;>
      simp [webhookEvent, h.payment.1, h.payment.2, reportedMoney, hamount, hnamed, bind,
        Except.bind, hread, Except.map, Option.mapM]
  rw [hwebhook, MatchPlane.survives_iff (fun _ => rfl) hpayment hvalue]
  simp

end Echoes

/-! ## The whole way -/

/-- Amounts are printed and read exactly, and survive a provider if the adapter reads its
notifications in the scale and the currency of the payment. -/
theorem amounts_survive_iff :
    (∀ (amount : I128) (currency : String) (scale : Nat) (money : Money),
      Money.new amount.1 currency scale = .ok money →
        (money.decimalString >>= fun value => decimalMoney value money.currency money.scale) =
          .ok money) ∧
    ∀ (order : AuthorizePayment) (payment : PaymentIntentRow) (request : WebhookRequest),
      AuthorizedAs order payment →
        (∀ (gateway : EpayGateway) (params : Form), gateway.Echoes order request params →
          (Survives payment (gateway.webhook request) ↔
            order.amount.scale = 2 ∧ order.amount.currency = gateway.currency)) ∧
        (∀ (gateway : AlipayGateway) (params : Form), gateway.Echoes order request params →
          (Survives payment (gateway.webhook request) ↔
            order.amount.scale = 2 ∧ order.amount.currency = "CNY")) ∧
        (∀ (gateway : WaffoGateway) (value data : Json),
          gateway.Echoes order request value data →
            (Survives payment (gateway.webhook request) ↔ order.amount.scale = 2)) := by
  constructor
  · intro amount currency scale money hnew
    have hexact := Money.exactAmount_new hnew amount.2.2
    obtain ⟨hnonneg, hbound, hmoney⟩ := Money.new_eq_ok hnew
    have hcurrency : money.currency = currency := by rw [hmoney]
    have hscale : money.scale = scale := by rw [hmoney]
    obtain ⟨value, hprinted, hread⟩ :=
      Money.decimalMoney_decimalString hexact hnonneg (hscale ▸ hbound)
    rw [hcurrency, hprinted]
    simp only [bind, Except.bind]
    rw [hread, hscale, hnew]
  · intro order payment request hpayment
    exact ⟨fun _ _ h => h.survives_iff hpayment, fun _ _ h => h.survives_iff hpayment,
      fun _ _ _ h => h.survives_iff hpayment⟩

end Providers

/-- An order over 1234 of the smallest units. -/
def sampleOrder (method : PaymentMethod) (scale : Nat) : AuthorizePayment where
  paymentId := ⟨1⟩
  tenantId := ⟨1⟩
  merchantOrderId := "order-1"
  amount := ⟨"1234", "CNY", scale⟩
  method := method
  notifyUrl := "https://shop.example/notify"
  returnUrl := "https://shop.example/return"
  description := "car"
  requestedAt := "2026-08-15T00:00:00Z"

def samplePayment (kind : GatewayKind) (scale : Nat) : PaymentIntentRow where
  id := ⟨1⟩
  tenantId := ⟨1⟩
  gatewayId := ⟨1⟩
  offlineDealId := none
  payerPartyId := none
  merchantOrderId := "order-1"
  idempotencyKey := "sale"
  requestHash := List.replicate 32 0
  transactionChannel := "online_platform"
  purpose := "sale"
  gatewayKind := kind
  gatewayMode := .production
  gatewayConfigVersion := 1
  gatewayCredentialSecretRef := some "vault"
  gatewayCredentialDigest := some (List.replicate 32 0)
  paymentMethod := "alipay"
  amount := 1234
  capturedAmount := 0
  refundedAmount := 0
  commissionAmount := 0
  commissionRefundedAmount := 0
  currency := "CNY"
  currencyScale := scale
  status := .requiresAction
  providerReference := some "order-1"
  redirectUrl := none
  providerStatus := "checkout_required"
  createdAt := 0

def sampleEpay : EpayGateway := ⟨"https://pay.example/", "merchant", "secret-key", "CNY"⟩

def sampleAlipay : AlipayGateway := ⟨"https://pay.example/", "app", "private", "public"⟩

def sampleWaffo : WaffoGateway := ⟨"https://pay.example/", "merchant", "private", "public"⟩

/-- A notification of a successful trade. -/
def epayRequest (money sign : String) : WebhookRequest := ⟨[], bytesOf
  (s!"money={money}&out_trade_no=order-1&pid=merchant&sign={sign}&sign_type=MD5&" ++
    "trade_no=T1&trade_status=TRADE_SUCCESS")⟩

/-- What the signature of such a notification is made over. -/
def epaySigned (money : String) : Bytes := bytesOf
  (s!"money={money}&out_trade_no=order-1&pid=merchant&" ++
    "trade_no=T1&trade_status=TRADE_SUCCESSsecret-key")

def alipayRequest : WebhookRequest := ⟨[], bytesOf
  ("app_id=app&notify_id=N1&out_trade_no=order-1&sign=signed&sign_type=RSA2&" ++
    "total_amount=12.34&trade_no=T1&trade_status=TRADE_SUCCESS")⟩

def waffoRequest : WebhookRequest := ⟨[("x-signature", "signed")], bytesOf
  ("\x7b\"acquiringOrderId\":\"A1\",\"orderAmount\":\"12.34\"," ++
    "\"orderCurrency\":\"CNY\",\"orderStatus\":\"PAY_SUCCESS\"\x7d")⟩

def waffoValue : Json := .object [
  ("acquiringOrderId", .string "A1"),
  ("orderAmount", .string "12.34"),
  ("orderCurrency", .string "CNY"),
  ("orderStatus", .string "PAY_SUCCESS")]

@[reducible]
def sampleCodec : Codec := plainCodec
  [(epaySigned "12.34", "57925ed1a952a5fa1d2da6aa34980f79"),
    (epaySigned "1.234", "275b3f3d78c23204e87aa272ffce9414")]
  [(waffoRequest.body, waffoValue)]

theorem samplePayment_authorized (method : PaymentMethod) (kind : GatewayKind) :
    AuthorizedAs (sampleOrder method 2) (samplePayment kind 2) ∧
      AuthorizedAs (sampleOrder method 3) (samplePayment kind 3) := by
  have htwo : validatedAmount ⟨"1234", "CNY", 2⟩ = .ok 1234 := by decide +kernel
  have hthree : validatedAmount ⟨"1234", "CNY", 3⟩ = .ok 1234 := by decide +kernel
  exact ⟨⟨htwo, rfl, rfl⟩, hthree, rfl, rfl⟩

theorem sampleOrder_decimalString (method : PaymentMethod) :
    (sampleOrder method 2).amount.decimalString = .ok "12.34" ∧
      (sampleOrder method 3).amount.decimalString = .ok "1.234" := by
  have htwo : (⟨"1234", "CNY", 2⟩ : Money).decimalString = .ok "12.34" := by decide +kernel
  have hthree : (⟨"1234", "CNY", 3⟩ : Money).decimalString = .ok "1.234" := by decide +kernel
  exact ⟨htwo, hthree⟩

theorem sampleEpay_echoes :
    let _ : Codec := sampleCodec
    let first := epayRequest "12.34" "57925ed1a952a5fa1d2da6aa34980f79"
    let second := epayRequest "1.234" "275b3f3d78c23204e87aa272ffce9414"
    sampleEpay.Echoes (sampleOrder (.epay "alipay") 2) first (.ofList (plainForm first.body)) ∧
      sampleEpay.Echoes (sampleOrder (.epay "alipay") 3) second
        (.ofList (plainForm second.body)) := by
  intro _ first second
  obtain ⟨htwo, hthree⟩ := sampleOrder_decimalString (.epay "alipay")
  obtain ⟨sent, hsent, hmoney⟩ := sampleEpay.signedParameters_eq_ok "alipay" htwo
  obtain ⟨sent', hsent', hmoney'⟩ := sampleEpay.signedParameters_eq_ok "alipay" hthree
  constructor
  · refine ⟨rfl, by decide +kernel, by decide +kernel, by decide +kernel,
      ⟨"TRADE_SUCCESS", by decide +kernel⟩, by decide +kernel, "alipay", sent, rfl, hsent, ?_⟩
    rw [hmoney]
    decide +kernel
  · refine ⟨rfl, by decide +kernel, by decide +kernel, by decide +kernel,
      ⟨"TRADE_SUCCESS", by decide +kernel⟩, by decide +kernel, "alipay", sent', rfl, hsent', ?_⟩
    rw [hmoney']
    decide +kernel

/-- At three decimals, the amount that comes back is not even understood. -/
theorem sampleEpay_amount_lost :
    let _ : Codec := sampleCodec
    let order := sampleOrder (.epay "alipay") 3
    let payment := samplePayment .epay 3
    let request := epayRequest "1.234" "275b3f3d78c23204e87aa272ffce9414"
    AuthorizedAs order payment ∧ (∃ outcome, sampleEpay.authorize order = .ok outcome) ∧
      (∃ params, sampleEpay.Echoes order request params) ∧
      sampleEpay.webhook request = .error (.invalid "provider amount is invalid") ∧
      ¬Survives payment (sampleEpay.webhook request) := by
  intro _ order payment request
  have hlost : sampleEpay.webhook request = .error (.invalid "provider amount is invalid") := by
    decide +kernel
  have haccepted : sampleEpay.authorize order = .ok ⟨⟨1⟩, "order-1", .requiresAction,
      some "https://pay.example/submit.php", "checkout_required"⟩ := by
    decide +kernel
  refine ⟨(samplePayment_authorized _ _).2, ⟨_, haccepted⟩, ⟨_, sampleEpay_echoes.2⟩, hlost, ?_⟩
  rintro ⟨_, _, hresult, _⟩
  rw [hlost] at hresult
  cases hresult

/-- At two decimals, all three providers bring the amount back. -/
theorem sample_amounts_survive :
    let _ : Codec := sampleCodec
    let request := epayRequest "12.34" "57925ed1a952a5fa1d2da6aa34980f79"
    Survives (samplePayment .epay 2) (sampleEpay.webhook request) ∧
      Survives (samplePayment .alipayOpenapi 2) (sampleAlipay.webhook alipayRequest) ∧
      Survives (samplePayment .waffoPancake 2) (sampleWaffo.webhook waffoRequest) := by
  intro _ request
  have hsurvive := amounts_survive_iff.2
  refine ⟨?_, ?_, ?_⟩
  · rw [(hsurvive _ _ _ (samplePayment_authorized _ _).1).1 _ _ sampleEpay_echoes.1]
    exact ⟨rfl, rfl⟩
  · obtain ⟨content, hcontent, hamount⟩ := AlipayGateway.bizContent_eq_ok
      "FAST_INSTANT_TRADE_PAY" (sampleOrder_decimalString .alipayWeb).1
    rw [(hsurvive (sampleOrder .alipayWeb 2) _ _ (samplePayment_authorized _ _).1).2.1 _
      (.ofList (plainForm alipayRequest.body))]
    · exact ⟨rfl, rfl⟩
    · refine ⟨rfl, ⟨"signed", by decide +kernel, rfl⟩, by decide +kernel, by decide +kernel,
        ⟨"TRADE_SUCCESS", by decide +kernel⟩, by decide +kernel, by decide +kernel,
        "FAST_INSTANT_TRADE_PAY", content, ⟨_, rfl⟩, hcontent, ?_⟩
      rw [hamount]
      decide +kernel
  · obtain ⟨body, hbody, hamount, hcurrency⟩ := sampleWaffo.orderBody_eq_ok none "CARD"
      (sampleOrder_decimalString (.waffo none "CARD")).1
    rw [(hsurvive (sampleOrder (.waffo none "CARD") 2) _ _
      (samplePayment_authorized _ _).1).2.2 _ waffoValue waffoValue]
    · rfl
    · exact ⟨⟨"signed", by decide +kernel, rfl⟩, by rfl, rfl, (fun _ h => nomatch h), ⟨"A1", rfl⟩,
        ⟨rfl, rfl⟩, none, "CARD", body, rfl, hbody, hamount.symm, hcurrency.symm⟩

end MatchPlane
