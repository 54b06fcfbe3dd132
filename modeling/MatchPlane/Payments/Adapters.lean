import MatchPlane.Payments.Exchange

/-!
# Payment adapters

Each adapter turns a request into a message to its provider, reads the answer, and
authenticates and normalizes the notifications of that provider.  A status that a
provider reports is mapped once for queries and once for notifications.
-/

namespace MatchPlane

open MatchPlane.Library

/-- What the clock and the random source give to a message. -/
structure Moment where
  seconds : Int
  timestamp : String
  nonce : String
  deriving DecidableEq, Repr

variable [Codec]

def joinUrl (base path complaint : String) : Except PaymentError String :=
  match Codec.joinUrl base path with
  | .ok url => .ok url
  | .error error => .error (.invalid s!"{complaint}: {error}")

/-! ## EPay -/

structure EpayGateway where
  baseUrl : String
  merchantId : String
  merchantKey : String
  currency : String
  deriving DecidableEq, Repr

namespace EpayGateway

def sign (gateway : EpayGateway) (parameters : Form) : String :=
  Codec.md5Hex (bytesOf (parameters.canonical ["sign", "sign_type"]) ++
    bytesOf gateway.merchantKey)

def signedParameters (gateway : EpayGateway) (request : AuthorizePayment) (methodCode : String) :
    Except PaymentError Form := do
  let money ← request.amount.decimalString
  let parameters : Form := .ofList [
    ("name", request.description),
    ("money", money),
    ("notify_url", request.notifyUrl),
    ("out_trade_no", request.merchantOrderId),
    ("pid", gateway.merchantId),
    ("return_url", request.returnUrl),
    ("type", methodCode)]
  .ok ((parameters.insert "sign" (gateway.sign parameters)).insert "sign_type" "MD5")

def authorize (gateway : EpayGateway) (request : AuthorizePayment) :
    Except PaymentError PaymentOutcome :=
  match request.method with
  | .epay methodCode => do
      let parameters ← gateway.signedParameters request methodCode
      let redirect ← joinUrl gateway.baseUrl "submit.php" "EPay submit URL is invalid"
      .ok {
        paymentId := request.paymentId
        providerReference := request.merchantOrderId
        status := .requiresAction
        redirectUrl := some (Codec.withQuery redirect parameters.toList)
        providerStatus := "checkout_required" }
  | _ => .error (.unsupported "epay" "selected payment method")

def apiUrl (gateway : EpayGateway) : Except PaymentError String :=
  joinUrl gateway.baseUrl "api.php" "EPay API URL is invalid"

/-- The body of an answer must be JSON, whatever its HTTP status. -/
def readBody (response : ProviderResponse) : Except PaymentError Json := do
  let bytes ← readProviderBody response maxProviderResponseBytes
  let body ← PaymentError.ofJson (Codec.parseJson bytes)
  if response.isSuccess then .ok body else .error .unknownOutcome

def refundOutcome (request : RefundPayment) (body : Json) : Except PaymentError RefundOutcome :=
  match (body.get "code").bind Json.asI64 with
  | some 1 => .ok {
      refundId := request.refundId
      providerReference := ((body.either "trade_no" "out_trade_no").bind Json.asStr).getD
        request.providerReference
      status := .succeeded
      providerStatus := "succeeded" }
  | some _ => .error (.providerRejected
      (((body.get "code").map Codec.renderJson).getD "unknown")
      ((body.text "msg").getD "EPay refund failed"))
  | none => .error .unknownOutcome

def refund (gateway : EpayGateway) (request : RefundPayment) :
    Except PaymentError (Sent RefundOutcome) := do
  let url ← gateway.apiUrl
  let money ← request.amount.decimalString
  .ok ⟨.form url (.ofList [
    ("act", "refund"),
    ("pid", gateway.merchantId),
    ("key", gateway.merchantKey),
    ("out_trade_no", request.providerReference),
    ("money", money)]), fun response => do
      let body ← readBody response
      refundOutcome request body⟩

def queryStatus (body : Json) : PaymentStatus :=
  if (body.get "status").bind Json.asI64 = some 1 ∨
      body.text "trade_status" = some "TRADE_SUCCESS" then .captured
  else .pending

def query (gateway : EpayGateway) (request : QueryPayment) :
    Except PaymentError (Sent PaymentOutcome) :=
  match request.providerReference with
  | none => .error (.invalid "EPay query needs an order reference")
  | some reference => do
      let url ← gateway.apiUrl
      .ok ⟨.form url (.ofList [
        ("act", "order"),
        ("pid", gateway.merchantId),
        ("key", gateway.merchantKey),
        ("out_trade_no", reference)]), fun response => do
          let body ← readBody response
          .ok {
            paymentId := request.paymentId
            -- Orders are addressed by the merchant reference, which is kept.
            providerReference := reference
            status := queryStatus body
            redirectUrl := none
            providerStatus := ((body.get "trade_status").map Codec.renderJson).getD "pending" }⟩

def webhookStatus : String → PaymentStatus
  | "TRADE_SUCCESS" | "SUCCESS" | "TRADE_FINISHED" => .captured
  | "TRADE_CLOSED" | "CLOSED" => .voided
  | "WAIT_BUYER_PAY" | "NOTPAY" => .requiresAction
  | _ => .pending

def webhook (gateway : EpayGateway) (request : WebhookRequest) :
    Except PaymentError WebhookEvent := do
  let params : Form := .ofList (Codec.parseForm request.body)
  let provided ← requiredField params["sign"]? "sign"
  if params["sign_type"]? ≠ some "MD5" ∨ params["pid"]? ≠ some gateway.merchantId then
    .error .signature
  else if gateway.sign params ≠ provided then .error .signature
  else
    let status ← requiredField params["trade_status"]? "trade_status"
    let merchantOrderId ← requiredField params["out_trade_no"]? "out_trade_no"
    let providerReference := (params.filled "trade_no").getD merchantOrderId
    let providerEventId := (params.filled "trade_no").getD s!"{merchantOrderId}:{status}"
    let amount ← (params["money"]?.or params["total_amount"]?).mapM
      (decimalMoney · gateway.currency 2)
    .ok (.payment {
      providerEventId := providerEventId
      eventType := s!"epay.{status}"
      merchantOrderId := some merchantOrderId
      providerReference := some providerReference
      status := webhookStatus status
      providerStatus := status
      amount := amount })

end EpayGateway

/-! ## Alipay -/

structure AlipayGateway where
  gatewayUrl : String
  appId : String
  merchantPrivateKey : String
  alipayPublicKey : String
  deriving DecidableEq, Repr

/-- The bytes of a field of a JSON object, as they were signed. -/
def extractSignedResponse (body : Bytes) (responseKey : String) :
    Except PaymentError Bytes :=
  let marker := bytesOf s!"\"{responseKey}\":"
  match body.tails.findIdx? (marker.isPrefixOf ·) with
  | none => .error .signature
  | some position =>
      let value := (body.drop (position + marker.length)).dropWhile
        (· ∈ [0x20, 0x09, 0x0a, 0x0c, 0x0d])
      if value.isEmpty then .error .signature
      else
        match Codec.firstValue value with
        | none => .error .signature
        | some (.error message) => .error (.json message)
        | some (.ok length) => .ok (value.take length)

namespace AlipayGateway

def parameters (gateway : AlipayGateway) (method : String) (bizContent : Json)
    (moment : Moment) : Form :=
  .ofList [
    ("app_id", gateway.appId),
    ("biz_content", Codec.renderJson bizContent),
    ("charset", "utf-8"),
    ("format", "JSON"),
    ("method", method),
    ("sign_type", "RSA2"),
    ("timestamp", moment.timestamp),
    ("version", "1.0")]

def signParameters (gateway : AlipayGateway) (parameters : Form) : Except PaymentError Form := do
  let signature ← Codec.signRsaSha256 gateway.merchantPrivateKey
    (bytesOf (parameters.canonical ["sign"]))
  .ok (parameters.insert "sign" signature)

/-- Dots of a method name are underscores in the name of its response. -/
def responseKey (method : String) : String :=
  String.ofList (method.toList.map fun char => if char = '.' then '_' else char) ++ "_response"

def readResponse (gateway : AlipayGateway) (method : String) (response : ProviderResponse) :
    Except PaymentError Json := do
  let body ← readProviderBody response maxProviderResponseBytes
  let value ← PaymentError.ofJson (Codec.parseJson body)
  let key := responseKey method
  match value.get key, value.text "sign" with
  | none, _ => .error (.invalid s!"Alipay response omitted {key}")
  | some _, none => .error .signature
  | some responseValue, some signature => do
      let signedContent ← extractSignedResponse body key
      Codec.verifyRsaSha256 gateway.alipayPublicKey signedContent signature
      if response.isSuccess = false ∨ responseValue.text "code" ≠ some "10000" then
        .error (.providerRejected
          (((responseValue.either "sub_code" "code").bind Json.asStr).getD "unknown")
          (((responseValue.either "sub_msg" "msg").bind Json.asStr).getD
            "Alipay rejected the request"))
      else .ok responseValue

def call (gateway : AlipayGateway) (method : String) (bizContent : Json) (moment : Moment) :
    Except PaymentError (Sent Json) := do
  let signed ← gateway.signParameters (gateway.parameters method bizContent moment)
  .ok ⟨.form gateway.gatewayUrl signed, gateway.readResponse method⟩

/-- The method and the product of a checkout. -/
def checkout : PaymentMethod → Except PaymentError (String × String)
  | .alipayWeb => .ok ("alipay.trade.page.pay", "FAST_INSTANT_TRADE_PAY")
  | .alipayWap => .ok ("alipay.trade.wap.pay", "QUICK_WAP_WAY")
  | _ => .error (.unsupported "alipay_openapi" "selected payment method")

def bizContent (request : AuthorizePayment) (productCode : String) :
    Except PaymentError Json := do
  let totalAmount ← request.amount.decimalString
  .ok (.object [
    ("out_trade_no", .string request.merchantOrderId),
    ("total_amount", .string totalAmount),
    ("subject", .string request.description),
    ("product_code", .string productCode)])

def authorize (gateway : AlipayGateway) (request : AuthorizePayment) (moment : Moment) :
    Except PaymentError PaymentOutcome := do
  let (method, productCode) ← checkout request.method
  let content ← bizContent request productCode
  let parameters := gateway.parameters method content moment
  let signed ← gateway.signParameters ((parameters.insert "notify_url" request.notifyUrl).insert
    "return_url" request.returnUrl)
  .ok {
    paymentId := request.paymentId
    providerReference := request.merchantOrderId
    status := .requiresAction
    redirectUrl := some (Codec.withQuery gateway.gatewayUrl signed.toList)
    providerStatus := "WAIT_BUYER_PAY" }

def refundOutcome (request : RefundPayment) (response : Json) : RefundOutcome where
  refundId := request.refundId
  providerReference := (response.text "trade_no").getD request.idempotencyKey
  status := if response.text "fund_change" = some "Y" then .succeeded else .pending
  providerStatus := (response.text "fund_change").getD "N"

def refund (gateway : AlipayGateway) (request : RefundPayment) (moment : Moment) :
    Except PaymentError (Sent RefundOutcome) := do
  let refundAmount ← request.amount.decimalString
  let sent ← gateway.call "alipay.trade.refund" (.object [
    ("out_trade_no", .string request.providerReference),
    ("refund_amount", .string refundAmount),
    ("refund_reason", .string request.reason),
    ("out_request_no", .string (toString request.refundId))]) moment
  .ok (sent.map (refundOutcome request))

def queryStatus : String → PaymentStatus
  | "TRADE_SUCCESS" | "TRADE_FINISHED" => .captured
  | "TRADE_CLOSED" => .voided
  | "WAIT_BUYER_PAY" => .requiresAction
  | _ => .unknown

def queryOutcome (paymentId : PaymentId) (providerReference : String) (value : Json) :
    PaymentOutcome :=
  let providerStatus := (value.text "trade_status").getD "WAIT_BUYER_PAY"
  { paymentId := paymentId
    providerReference := providerReference
    status := queryStatus providerStatus
    redirectUrl := none
    providerStatus := providerStatus }

def query (gateway : AlipayGateway) (request : QueryPayment) (moment : Moment) :
    Except PaymentError (Sent PaymentOutcome) :=
  match request.providerReference with
  | none => .error (.invalid "Alipay query needs out_trade_no")
  | some reference => do
      let sent ← gateway.call "alipay.trade.query"
        (.object [("out_trade_no", .string reference)]) moment
      .ok (sent.map (queryOutcome request.paymentId reference))

def webhookStatus : String → PaymentStatus
  | "TRADE_SUCCESS" | "TRADE_FINISHED" => .captured
  | "TRADE_CLOSED" => .voided
  | "WAIT_BUYER_PAY" => .requiresAction
  | _ => .pending

def refundWebhookStatus : String → RefundStatus
  | "REFUND_SUCCESS" => .succeeded
  | "REFUND_CLOSED" | "REFUND_FAIL" => .failed
  | _ => .pending

/-- The notification's own identity, or the order and its status. -/
def providerEventId (params : Form) (providerReference : Option String) :
    Except PaymentError String :=
  let derived := providerReference.bind fun reference =>
    params["trade_status"]?.map fun status => s!"{reference}:{status}"
  match (params.filled "notify_id").or derived with
  | some providerEventId => .ok providerEventId
  | none => .error (.invalid "Alipay webhook omitted event identity")

def webhook (gateway : AlipayGateway) (request : WebhookRequest) :
    Except PaymentError WebhookEvent := do
  let params : Form := .ofList (Codec.parseForm request.body)
  let signature ← requiredField params["sign"]? "sign"
  if params["sign_type"]? ≠ some "RSA2" then .error .signature
  else if params["app_id"]? ≠ some gateway.appId then .error .signature
  else
    Codec.verifyRsaSha256 gateway.alipayPublicKey
      (bytesOf (params.canonical ["sign", "sign_type"])) signature
    let merchantOrderId := params.filled "out_trade_no"
    let providerReference := (params.filled "trade_no").or merchantOrderId
    let providerEventId ← providerEventId params providerReference
    match params.filled "refund_status" with
    | some refundStatus =>
        let amount ← params["refund_fee"]?.mapM (decimalMoney · "CNY" 2)
        .ok (.refund {
          providerEventId := providerEventId
          eventType := s!"alipay.{refundStatus}"
          merchantOrderId := merchantOrderId
          providerReference := providerReference
          refundReference := params.filled "out_biz_no"
          status := refundWebhookStatus refundStatus
          providerStatus := refundStatus
          amount := amount })
    | none =>
        let providerStatus ← requiredField params["trade_status"]? "trade_status"
        let amount ← params["total_amount"]?.mapM (decimalMoney · "CNY" 2)
        .ok (.payment {
          providerEventId := providerEventId
          eventType := s!"alipay.{providerStatus}"
          merchantOrderId := merchantOrderId
          providerReference := providerReference
          status := webhookStatus providerStatus
          providerStatus := providerStatus
          amount := amount })

end AlipayGateway

/-! ## WeChat Pay -/

structure WechatPayGateway where
  baseUrl : String
  appId : String
  merchantId : String
  merchantPrivateKey : String
  platformSerial : String
  platformPublicKey : String
  apiV3Key : String
  deriving DecidableEq, Repr

namespace WechatPayGateway

/-- A header that must be there for the signature to be checked. -/
def signedHeader (headers : List (String × String)) (name : String) :
    Except PaymentError String :=
  match headerOf headers name with
  | some value => .ok value
  | none => .error .signature

def signedText (timestamp nonce : String) (body : Bytes) : Bytes :=
  bytesOf s!"{timestamp}\n{nonce}\n{Codec.fromUtf8Lossy body}\n"

def verifyResponse (gateway : WechatPayGateway) (headers : List (String × String))
    (body : Bytes) : Except PaymentError Unit := do
  let timestamp ← signedHeader headers "Wechatpay-Timestamp"
  let nonce ← signedHeader headers "Wechatpay-Nonce"
  let signature ← signedHeader headers "Wechatpay-Signature"
  let serial ← signedHeader headers "Wechatpay-Serial"
  if serial ≠ gateway.platformSerial then .error .signature
  else Codec.verifyRsaSha256 gateway.platformPublicKey (signedText timestamp nonce body) signature

def readResponse (gateway : WechatPayGateway) (response : ProviderResponse) :
    Except PaymentError Json := do
  let bytes ← readProviderBody response maxProviderResponseBytes
  gateway.verifyResponse response.headers bytes
  let value ← if bytes.isEmpty then .ok .null else PaymentError.ofJson (Codec.parseJson bytes)
  if response.isSuccess then .ok value
  else .error (.providerRejected ((value.text "code").getD "http_error")
    ((value.text "message").getD "WeChat Pay rejected the request"))

def request (gateway : WechatPayGateway) (method path : String)
    (query : List (String × String)) (body : Option Json) (moment : Moment) :
    Except PaymentError (Sent Json) := do
  let joined ← joinUrl gateway.baseUrl path "WeChat Pay endpoint is invalid"
  let url := if query.isEmpty then joined else Codec.withQuery joined query
  let content := (body.map Codec.renderJson).getD ""
  let signature ← Codec.signRsaSha256 gateway.merchantPrivateKey (bytesOf
    s!"{method}\n{Codec.target url}\n{moment.seconds}\n{moment.nonce}\n{content}\n")
  .ok ⟨.json url signature body, gateway.readResponse⟩

def tradeStatus : String → PaymentStatus
  | "SUCCESS" | "REFUND" => .captured
  | "CLOSED" | "REVOKED" => .voided
  | "PAYERROR" => .failed
  | "USERPAYING" => .pending
  | "NOTPAY" | "CHECKOUT_CREATED" => .requiresAction
  | _ => .unknown

def paymentOutcome (paymentId : PaymentId) (providerReference : String) (value : Json) :
    PaymentOutcome :=
  let providerStatus := (value.text "trade_state").getD "CHECKOUT_CREATED"
  { paymentId := paymentId
    providerReference := providerReference
    status := tradeStatus providerStatus
    redirectUrl := ((value.either "code_url" "h5_url").bind Json.asStr).or
      ((value.text "prepay_id").map fun prepayId => s!"wechatpay://prepay/{prepayId}")
    providerStatus := providerStatus }

/-- The path of a checkout and what it adds to the order. -/
def checkout : PaymentMethod → Except PaymentError (String × List (String × Json))
  | .wechatNative => .ok ("v3/pay/transactions/native", [])
  | .wechatJsapi payerOpenid => .ok ("v3/pay/transactions/jsapi",
      [("payer", .object [("openid", .string payerOpenid)])])
  | .wechatH5 payerClientIp sceneType => .ok ("v3/pay/transactions/h5",
      [("scene_info", .object [
        ("payer_client_ip", .string payerClientIp),
        ("h5_info", .object [("type", .string sceneType)])])])
  | _ => .error (.unsupported "wechat_pay_v3" "selected payment method")

def authorize (gateway : WechatPayGateway) (order : AuthorizePayment) (moment : Moment) :
    Except PaymentError (Sent PaymentOutcome) := do
  if order.amount.scale ≠ 2 then
    .error (.invalid "WeChat Pay amount must use two decimal places")
  else
    let total ← order.amount.exactAmount
    let (path, extra) ← checkout order.method
    let sent ← gateway.request "POST" path [] (some (.object ([
      ("appid", .string gateway.appId),
      ("mchid", .string gateway.merchantId),
      ("description", .string order.description),
      ("out_trade_no", .string order.merchantOrderId),
      ("notify_url", .string order.notifyUrl),
      ("amount", .object [
        ("total", .integer total),
        ("currency", .string order.amount.currency)])] ++ extra))) moment
    .ok (sent.map (paymentOutcome order.paymentId order.merchantOrderId))

def refundStatus : String → RefundStatus
  | "SUCCESS" => .succeeded
  | "CLOSED" | "ABNORMAL" => .failed
  | "PROCESSING" => .pending
  | _ => .unknown

def refundOutcome (refund : RefundPayment) (response : Json) : RefundOutcome :=
  let providerStatus := (response.text "status").getD "PROCESSING"
  { refundId := refund.refundId
    providerReference := ((response.either "refund_id" "out_refund_no").bind Json.asStr).getD
      refund.idempotencyKey
    status := refundStatus providerStatus
    providerStatus := providerStatus }

def refund (gateway : WechatPayGateway) (refund : RefundPayment) (moment : Moment) :
    Except PaymentError (Sent RefundOutcome) := do
  if refund.amount.currency ≠ refund.capturedAmount.currency ∨
      refund.amount.scale ≠ refund.capturedAmount.scale then
    .error (.invalid "refund and captured money must use the same currency and scale")
  else
    let amount ← refund.amount.exactAmount
    let total ← refund.capturedAmount.exactAmount
    let sent ← gateway.request "POST" "v3/refund/domestic/refunds" [] (some (.object ([
      ("out_refund_no", .string (toString refund.refundId)),
      ("out_trade_no", .string refund.providerReference),
      ("reason", .string refund.reason),
      ("amount", .object [
        ("refund", .integer amount),
        ("total", .integer total),
        ("currency", .string refund.amount.currency)])] ++
      (refund.notifyUrl.map fun notifyUrl => ("notify_url", Json.string notifyUrl)).toList)))
      moment
    .ok (sent.map (refundOutcome refund))

def query (gateway : WechatPayGateway) (query : QueryPayment) (moment : Moment) :
    Except PaymentError (Sent PaymentOutcome) :=
  match query.providerReference with
  | none => .error (.invalid "WeChat Pay query needs out_trade_no")
  | some reference => do
      let sent ← gateway.request "GET" s!"v3/pay/transactions/out-trade-no/{reference}"
        [("mchid", gateway.merchantId)] none moment
      .ok (sent.map (paymentOutcome query.paymentId reference))

def verifyWebhookSignature (gateway : WechatPayGateway) (request : WebhookRequest)
    (moment : Moment) : Except PaymentError Unit := do
  let timestamp ← requiredField (request.header "Wechatpay-Timestamp") "timestamp"
  let nonce ← requiredField (request.header "Wechatpay-Nonce") "nonce"
  let signature ← requiredField (request.header "Wechatpay-Signature") "signature"
  if request.header "Wechatpay-Serial" ≠ some gateway.platformSerial then .error .signature
  else
    match (parseInteger timestamp).filter fun value => -2 ^ 63 ≤ value.1 ∧ value.1 < 2 ^ 63 with
    | none => .error .signature
    | some value =>
        if 300 < (moment.seconds - value.1).natAbs then .error .signature
        else
          Codec.verifyRsaSha256 gateway.platformPublicKey
            (signedText timestamp nonce request.body) signature

def decryptResource (gateway : WechatPayGateway) (resource : Json) :
    Except PaymentError Json := do
  if gateway.apiV3Key.utf8ByteSize ≠ 32 then
    .error (.credential "WeChat webhook API v3 key must contain 32 bytes")
  else
    let nonce ← requiredField (resource.text "nonce") "nonce"
    let ciphertext ← requiredField (resource.text "ciphertext") "ciphertext"
    let associatedData := (resource.text "associated_data").getD ""
    if nonce.utf8ByteSize ≠ 12 then .error .signature
    else
      match Codec.decryptAes256Gcm gateway.apiV3Key nonce ciphertext associatedData with
      | none => .error .signature
      | some plaintext => PaymentError.ofJson (Codec.parseJson plaintext)

/-- An integer amount of a notification, in the currency that it names. -/
def reportedMoney (payload : Json) (amount : Option Int) : Except PaymentError (Option Money) :=
  let currency := (((payload.get "amount").bind (·.get "currency")).bind Json.asStr).getD "CNY"
  amount.mapM (Money.new · currency 2)

def webhookStatus : String → PaymentStatus
  | "SUCCESS" => .captured
  | "CLOSED" | "REVOKED" => .voided
  | "PAYERROR" => .failed
  | "USERPAYING" => .pending
  | "NOTPAY" => .requiresAction
  | _ => .unknown

def refundWebhookStatus : String → RefundStatus
  | "SUCCESS" | "REFUND_SUCCESS" => .succeeded
  | "CLOSED" | "FAILED" | "REFUND_FAIL" => .failed
  | _ => .pending

/-- The event in a payload that was authenticated. -/
def webhookEvent (providerEventId eventType : String) (payload : Json) :
    Except PaymentError WebhookEvent := do
  if (payload.get "out_refund_no").isSome ∨ (payload.get "refund_status").isSome then
    let providerStatus := ((payload.either "refund_status" "status").bind Json.asStr).getD
      "PROCESSING"
    let amount ← reportedMoney payload
      ((((payload.get "amount").bind (·.get "refund")).bind Json.asI64).or
        ((payload.get "refund_amount").bind Json.asI64))
    .ok (.refund {
      providerEventId := providerEventId
      eventType := eventType
      merchantOrderId := payload.text "out_trade_no"
      providerReference := payload.text "transaction_id"
      refundReference := payload.text "out_refund_no"
      status := refundWebhookStatus providerStatus
      providerStatus := providerStatus
      amount := amount })
  else
    let providerStatus := ((payload.text "trade_state").or (payload.text "status")).getD
      "UNKNOWN"
    let amount ← reportedMoney payload
      (((payload.get "amount").bind (·.get "total")).bind Json.asI64)
    .ok (.payment {
      providerEventId := providerEventId
      eventType := eventType
      merchantOrderId := payload.text "out_trade_no"
      providerReference := payload.text "transaction_id"
      status := webhookStatus providerStatus
      providerStatus := providerStatus
      amount := amount })

/-- What is notified: the decrypted resource of the envelope, or the envelope itself. -/
def payload (gateway : WechatPayGateway) (envelope : Json) : Except PaymentError Json :=
  match envelope.get "resource" with
  | some resource => gateway.decryptResource resource
  | none => .ok envelope

def webhook (gateway : WechatPayGateway) (request : WebhookRequest) (moment : Moment) :
    Except PaymentError WebhookEvent := do
  gateway.verifyWebhookSignature request moment
  let envelope ← PaymentError.ofJson (Codec.parseJson request.body)
  let providerEventId ← requiredField (envelope.text "id") "id"
  let eventType := (envelope.text "event_type").getD "TRANSACTION.NOTIFY"
  let payload ← gateway.payload envelope
  if payload.text "mchid" ≠ some gateway.merchantId then .error .signature
  else webhookEvent providerEventId eventType payload

end WechatPayGateway

/-! ## Waffo -/

structure WaffoGateway where
  baseUrl : String
  merchantId : String
  privateKey : String
  waffoPublicKey : String
  deriving DecidableEq, Repr

/-- The hexadecimal digits of an identifier, without hyphens. -/
def simpleId {kind : IdKind} (id : Id kind) : Json := .string (String.ofList (hexDigits id.uuid))

namespace WaffoGateway

def readResponse (gateway : WaffoGateway) (response : ProviderResponse) :
    Except PaymentError Json := do
  match headerOf response.headers "X-SIGNATURE" with
  | none => .error .signature
  | some signature =>
      let bytes ← readProviderBody response maxProviderResponseBytes
      Codec.verifyRsaSha256 gateway.waffoPublicKey bytes signature
      let value ← PaymentError.ofJson (Codec.parseJson bytes)
      if response.isSuccess = false then .error .unknownOutcome
      else if value.text "code" ≠ some "0" then
        .error (.providerRejected ((value.text "code").getD "unknown")
          ((value.text "msg").getD "Waffo rejected the request"))
      else .ok value

def post (gateway : WaffoGateway) (path : String) (body : Json) :
    Except PaymentError (Sent Json) := do
  let signature ← Codec.signRsaSha256 gateway.privateKey (bytesOf (Codec.renderJson body))
  let url ← joinUrl gateway.baseUrl path "Waffo endpoint is invalid"
  .ok ⟨.json url signature (some body), gateway.readResponse⟩

def orderStatus : String → PaymentStatus
  | "AUTHED_WAITING_CAPTURE" => .authorized
  | "PAY_SUCCESS" => .captured
  | "AUTHORIZATION_REQUIRED" => .requiresAction
  | "ORDER_CLOSE" => .failed
  | _ => .pending

def redirectOf (data : Json) : Option String := do
  let action ← data.text "orderAction"
  let value ← (Codec.parseJson (bytesOf action)).toOption
  (value.either "redirectUrl" "paymentUrl").bind Json.asStr

def outcome (paymentId : PaymentId) (data : Json) : Except PaymentError PaymentOutcome :=
  let providerStatus := (data.text "orderStatus").getD "UNKNOWN"
  match (data.either "acquiringOrderId" "merchantOrderId").bind Json.asStr with
  | none => .error (.invalid "Waffo response omitted its order reference")
  | some providerReference => .ok {
      paymentId := paymentId
      providerReference := providerReference
      status := orderStatus providerStatus
      redirectUrl := redirectOf data
      providerStatus := providerStatus }

/-- Reads what an answer says about an order. -/
def outcomeOf (paymentId : PaymentId) (sent : Sent Json) : Sent PaymentOutcome :=
  ⟨sent.message, fun response => do
    let value ← sent.read response
    outcome paymentId ((value.get "data").getD .null)⟩

def orderBody (gateway : WaffoGateway) (request : AuthorizePayment) (methodName : Option String)
    (methodType : String) : Except PaymentError Json := do
  let orderAmount ← request.amount.decimalString
  .ok (.object [
    ("paymentRequestId", simpleId request.paymentId),
    ("merchantOrderId", .string request.merchantOrderId),
    ("orderCurrency", .string request.amount.currency),
    ("orderAmount", .string orderAmount),
    ("orderDescription", .string request.description),
    ("orderRequestedAt", .string request.requestedAt),
    ("notifyUrl", .string request.notifyUrl),
    ("returnUrl", .string request.returnUrl),
    ("merchantInfo", .object [("merchantId", .string gateway.merchantId)]),
    ("paymentInfo", .object [
      ("productType", .string "ONE_TIME_PAYMENT"),
      ("payMethodType", .string methodType),
      ("payMethodName", (methodName.map Json.string).getD .null),
      ("captureMode", .string "manualCapture")]),
    ("userInfo", .object [("userId", .string (toString request.tenantId))])])

def authorize (gateway : WaffoGateway) (request : AuthorizePayment) :
    Except PaymentError (Sent PaymentOutcome) :=
  match request.method with
  | .waffo methodName methodType => do
      let body ← gateway.orderBody request methodName methodType
      let sent ← gateway.post "api/v1/order/create" body
      .ok (outcomeOf request.paymentId sent)
  | _ => .error (.unsupported "waffo_pancake" "selected payment method")

def refundStatus : String → RefundStatus
  | "REFUND_SUCCESS" | "SUCCESS" => .succeeded
  | "REFUND_FAIL" | "FAILED" => .failed
  | _ => .pending

def refundOutcome (request : RefundPayment) (response : Json) : RefundOutcome :=
  let data := (response.get "data").getD .null
  let providerStatus := (data.text "refundStatus").getD "PROCESSING"
  { refundId := request.refundId
    providerReference := ((data.either "acquiringRefundId" "refundRequestId").bind
      Json.asStr).getD request.idempotencyKey
    status := refundStatus providerStatus
    providerStatus := providerStatus }

def refund (gateway : WaffoGateway) (request : RefundPayment) (moment : Moment) :
    Except PaymentError (Sent RefundOutcome) := do
  let refundAmount ← request.amount.decimalString
  let sent ← gateway.post "api/v1/order/refund" (.object [
    ("refundRequestId", simpleId request.refundId),
    ("paymentRequestId", simpleId request.paymentId),
    ("acquiringOrderId", .string request.providerReference),
    ("merchantId", .string gateway.merchantId),
    ("refundAmount", .string refundAmount),
    ("refundReason", .string request.reason),
    ("refundRequestedAt", .string moment.timestamp)])
  .ok (sent.map (refundOutcome request))

def query (gateway : WaffoGateway) (request : QueryPayment) :
    Except PaymentError (Sent PaymentOutcome) := do
  let sent ← gateway.post "api/v1/order/inquiry" (.object [
    ("paymentRequestId", simpleId request.paymentId),
    ("acquiringOrderId", (request.providerReference.map Json.string).getD .null),
    ("merchantId", .string gateway.merchantId)])
  .ok (outcomeOf request.paymentId sent)

def webhookStatus : String → PaymentStatus
  | "PAY_SUCCESS" | "SUCCESS" => .captured
  | "AUTHED_WAITING_CAPTURE" => .authorized
  | "AUTHORIZATION_REQUIRED" => .requiresAction
  | "ORDER_CLOSE" | "CLOSED" => .voided
  | "FAILED" | "PAY_ERROR" => .failed
  | _ => .pending

/-- The notification's own identity, or the order. -/
def providerEventId (value data : Json) : Except PaymentError String :=
  let identity := ((data.either "eventId" "id").or (value.get "eventId")).bind Json.asStr
  match identity.or (data.text "acquiringOrderId") with
  | some providerEventId => .ok providerEventId
  | none => .error (.invalid "Waffo webhook omitted event identity")

/-- A decimal amount of a notification, in the currency that it names. -/
def reportedMoney (amount currency : Option Json) : Except PaymentError (Option Money) :=
  (amount.bind Json.asStr).mapM (decimalMoney · ((currency.bind Json.asStr).getD "CNY") 2)

/-- The event in a payload that was authenticated. -/
def webhookEvent (providerEventId : String) (data : Json) : Except PaymentError WebhookEvent := do
  let merchantOrderId := (data.either "merchantOrderId" "merchant_order_id").bind Json.asStr
  let providerReference := (data.either "acquiringOrderId" "transactionId").bind Json.asStr
  if (data.get "refundStatus").isSome ∨ (data.get "acquiringRefundId").isSome then
    let providerStatus := (data.text "refundStatus").getD "PROCESSING"
    let amount ← reportedMoney (data.either "refundAmount" "refund_amount")
      (data.either "currency" "orderCurrency")
    .ok (.refund {
      providerEventId := providerEventId
      eventType := "waffo.refund"
      merchantOrderId := merchantOrderId
      providerReference := providerReference
      refundReference := (data.either "acquiringRefundId" "refundRequestId").bind Json.asStr
      status := refundStatus providerStatus
      providerStatus := providerStatus
      amount := amount })
  else
    let providerStatus := ((data.either "orderStatus" "status").bind Json.asStr).getD "UNKNOWN"
    let amount ← reportedMoney (data.either "orderAmount" "amount")
      (data.either "orderCurrency" "currency")
    .ok (.payment {
      providerEventId := providerEventId
      eventType := "waffo.payment"
      merchantOrderId := merchantOrderId
      providerReference := providerReference
      status := webhookStatus providerStatus
      providerStatus := providerStatus
      amount := amount })

def webhook (gateway : WaffoGateway) (request : WebhookRequest) :
    Except PaymentError WebhookEvent := do
  match request.header "X-SIGNATURE" with
  | none => .error .signature
  | some signature =>
      Codec.verifyRsaSha256 gateway.waffoPublicKey request.body signature
      let value ← PaymentError.ofJson (Codec.parseJson request.body)
      let data := (value.get "data").getD value
      if ((data.either "merchantId" "merchant_id").bind Json.asStr).any
          (· ≠ gateway.merchantId) then
        .error .signature
      else
        let providerEventId ← providerEventId value data
        webhookEvent providerEventId data

end WaffoGateway

/-! ## All adapters -/

inductive Adapter where
  | epay (gateway : EpayGateway)
  | alipay (gateway : AlipayGateway)
  | wechat (gateway : WechatPayGateway)
  | waffo (gateway : WaffoGateway)
  deriving DecidableEq, Repr

namespace Adapter

def webhook (adapter : Adapter) (request : WebhookRequest) (moment : Moment) :
    Except PaymentError WebhookEvent :=
  match adapter with
  | epay gateway => gateway.webhook request
  | alipay gateway => gateway.webhook request
  | wechat gateway => gateway.webhook request moment
  | waffo gateway => gateway.webhook request

def query (adapter : Adapter) (request : QueryPayment) (moment : Moment) :
    Except PaymentError (Sent PaymentOutcome) :=
  match adapter with
  | epay gateway => gateway.query request
  | alipay gateway => gateway.query request moment
  | wechat gateway => gateway.query request moment
  | waffo gateway => gateway.query request

def refund (adapter : Adapter) (request : RefundPayment) (moment : Moment) :
    Except PaymentError (Sent RefundOutcome) :=
  match adapter with
  | epay gateway => gateway.refund request
  | alipay gateway => gateway.refund request moment
  | wechat gateway => gateway.refund request moment
  | waffo gateway => gateway.refund request moment

end Adapter

end MatchPlane
