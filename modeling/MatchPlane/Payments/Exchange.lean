import MatchPlane.Domain.Json
import MatchPlane.Library.OrderedMap
import MatchPlane.Payments.Money

/-!
# Messages between the service and its providers

Forms and JSON values as the adapters read them, the requests that they are given
and the answers that come back.  Parsing, signing and ciphers belong to other
crates and are a parameter.
-/

namespace MatchPlane

open MatchPlane.Library

/-- The parameters of a form, in the order of their names. -/
abbrev Form := Std.ExtTreeMap String String

/-- What the adapters take from other crates. -/
class Codec where
  parseForm : Bytes → List (String × String)
  parseJson : Bytes → Except String Json
  renderJson : Json → String
  /-- The length of the JSON value that some bytes start with, if there is one. -/
  firstValue : Bytes → Option (Except String Nat)
  md5Hex : Bytes → String
  signRsaSha256 (privateKey : String) (message : Bytes) : Except PaymentError String
  verifyRsaSha256 (publicKey : String) (message : Bytes) (signature : String) :
    Except PaymentError Unit
  /-- Decodes base64 and decrypts; a failure of either is one of the signature. -/
  decryptAes256Gcm (key nonce ciphertext associatedData : String) : Option Bytes
  fromUtf8Lossy : Bytes → String
  joinUrl (base path : String) : Except String String
  withQuery (url : String) (parameters : List (String × String)) : String
  /-- The path and the query of an address. -/
  target (url : String) : String

namespace Form

/-- The parameters that are signed, one after the other. -/
def canonical (form : Form) (unsigned : List String) : String :=
  "&".intercalate ((form.toList.filter fun (key, value) => key ∉ unsigned ∧ value ≠ "").map
    fun (key, value) => s!"{key}={value}")

/-- A parameter that is there and not empty. -/
def filled (form : Form) (key : String) : Option String := form[key]?.filter (· ≠ "")

end Form

def requiredField (value : Option String) (field : String) : Except PaymentError String :=
  match value.filter fun value => trim value.toList ≠ [] with
  | some value => .ok value
  | none => .error (.invalid s!"provider webhook omitted {field}")

theorem requiredField_eq_ok {value : Option String} {field text : String}
    (h : requiredField value field = .ok text) : value = some text := by
  unfold requiredField at h
  split at h
  · rename_i hfilter
    cases h
    exact (Option.filter_eq_some_iff.mp hfilter).1
  · cases h

def PaymentError.ofJson {α : Type} : Except String α → Except PaymentError α
  | .ok value => .ok value
  | .error message => .error (.json message)

theorem PaymentError.ofJson_eq_ok {α : Type} {x : Except String α} {value : α}
    (h : PaymentError.ofJson x = .ok value) : x = .ok value := by
  cases x with
  | ok _ =>
      cases h
      rfl
  | error _ => cases h

/-! ## Requests -/

inductive PaymentMethod where
  | card
  | wechatNative
  | wechatJsapi (payerOpenid : String)
  | wechatH5 (payerClientIp sceneType : String)
  | alipayWeb
  | alipayWap
  | epay (methodCode : String)
  | waffo (methodName : Option String) (methodType : String)
  | custom (methodCode : String)
  deriving DecidableEq, Repr

structure AuthorizePayment where
  paymentId : PaymentId
  tenantId : TenantId
  merchantOrderId : String
  amount : Money
  method : PaymentMethod
  notifyUrl : String
  returnUrl : String
  description : String
  requestedAt : String
  deriving DecidableEq, Repr

structure RefundPayment where
  refundId : RefundId
  paymentId : PaymentId
  providerReference : String
  amount : Money
  capturedAmount : Money
  idempotencyKey : String
  reason : String
  notifyUrl : Option String
  deriving DecidableEq, Repr

structure QueryPayment where
  paymentId : PaymentId
  providerReference : Option String
  deriving DecidableEq, Repr

structure WebhookRequest where
  headers : List (String × String)
  body : Bytes
  deriving DecidableEq, Repr

/-- The first header of a name; case does not matter in ASCII. -/
def headerOf (headers : List (String × String)) (name : String) : Option String :=
  (headers.find? fun (key, _) => key.toList.map Char.toLower = name.toList.map Char.toLower).map
    Prod.snd

def WebhookRequest.header (request : WebhookRequest) (name : String) : Option String :=
  headerOf request.headers name

/-! ## Answers -/

/-- What is sent to a provider. -/
inductive Message where
  | form (url : String) (parameters : Form)
  | json (url : String) (signature : String) (body : Option Json)

structure ProviderResponse where
  status : Nat
  headers : List (String × String)
  contentLength : Option Nat
  chunks : List (Except String Bytes)

def ProviderResponse.isSuccess (response : ProviderResponse) : Bool :=
  200 ≤ response.status ∧ response.status < 300

/-- A message is answered or not; the chunks of an answer may still fail to arrive. -/
abbrev Exchange := Except String ProviderResponse

/-- A message, and how the answer to it is read. -/
structure Sent (α : Type) where
  message : Message
  read : ProviderResponse → Except PaymentError α

def Sent.receive {α : Type} (sent : Sent α) : Exchange → Except PaymentError α
  | .ok response => sent.read response
  | .error message => .error (.transport message)

def Sent.map {α β : Type} (f : α → β) (sent : Sent α) : Sent β :=
  ⟨sent.message, fun response => (sent.read response).map f⟩

def maxProviderResponseBytes : Nat := 2 * 1024 * 1024

def readProviderBody (response : ProviderResponse) (maxBytes : Nat) :
    Except PaymentError Bytes :=
  let oversized := PaymentError.invalid "provider response exceeds the configured size limit"
  if response.contentLength.any (maxBytes < ·) then .error oversized
  else
    response.chunks.foldlM (fun body chunk =>
      match chunk with
      | .error message => .error (.transport message)
      | .ok chunk =>
          if maxBytes < body.length + chunk.length then .error oversized
          else .ok (body ++ chunk)) []

/-! ## A plain codec -/

def bytesOf (text : String) : Bytes := text.toUTF8.data.toList

/-- Reads a form of ASCII characters in which nothing is escaped. -/
def plainForm (body : Bytes) : List (String × String) :=
  ((body.map fun byte => Char.ofNat byte.toNat).splitOn '&').map fun pair =>
    let (key, value) := pair.span (· ≠ '=')
    (String.ofList key, String.ofList (value.drop 1))

/-- Plain forms, some digests and JSON values that are known, and no signature refused. -/
@[reducible]
def plainCodec (digests : List (Bytes × String)) (values : List (Bytes × Json)) : Codec where
  parseForm := plainForm
  parseJson := fun bytes =>
    match values.lookup bytes with
    | some value => .ok value
    | none => .error "expected value at line 1 column 1"
  renderJson := fun _ => ""
  firstValue := fun _ => none
  md5Hex := fun message => (digests.lookup message).getD ""
  signRsaSha256 := fun _ _ => .ok ""
  verifyRsaSha256 := fun _ _ _ => .ok ()
  decryptAes256Gcm := fun _ _ _ _ => none
  fromUtf8Lossy := fun _ => ""
  joinUrl := fun base path => .ok (base ++ path)
  withQuery := fun url _ => url
  target := id

end MatchPlane
