import MatchPlane.Library.CanonicalJson
import MatchPlane.Library.NumberTexts
import MatchPlane.Router.Configurations

/-!
# Signed enrollments

The document with which a remote node asks to be enrolled.  What is stored of it is what its
signature is about.
-/

namespace MatchPlane.Federation

open MatchPlane.Library MatchPlane.JavaScript MatchPlane.Router

/-- A document that is refused, or an error that is thrown. -/
inductive EnrollmentError where
  | refused (error : String)
  | thrown (message : String)
  deriving DecidableEq, Repr

/-- What is read of a URL; its text is what `toString` gives. -/
structure EndpointUrl where
  protocol : CodeUnits
  username : CodeUnits
  password : CodeUnits
  hostname : CodeUnits
  search : CodeUnits
  hash : CodeUnits
  text : CodeUnits
  deriving DecidableEq

/-- The libraries of the runtime. -/
class Runtime where
  /-- `new URL`, unless it throws. -/
  parseUrl : CodeUnits → Option EndpointUrl
  isIP : CodeUnits → Nat
  toLowerCase : CodeUnits → CodeUnits
  /-- `Buffer.from(text, "base64")`. -/
  decodeBase64 : CodeUnits → List UInt8
  /-- `verify` of a payload by a key and a signature, unless one of them throws. -/
  verify : List UInt8 → List UInt8 → List UInt8 → Option Bool
  /-- The digest in hexadecimal. -/
  sha256 : List UInt8 → CodeUnits

/-! ## Texts -/

def federationProtocol : CodeUnits := units "matchplane.federation/v1"

def isKeyStart (unit : UInt16) : Bool := isDigitUnit unit ∨ (97 ≤ unit.toNat ∧ unit.toNat ≤ 122)

/-- A small letter or a digit, and then so many units of a kind. -/
def isKeyOf (others : CodeUnits) (maximum : Nat) : CodeUnits → Bool
  | [] => false
  | first :: rest =>
      isKeyStart first ∧ rest.all (fun unit => isKeyStart unit || unit ∈ others) ∧
        1 ≤ rest.length ∧ rest.length ≤ maximum

/-- `SERVER_KEY_PATTERN`. -/
def isServerKey : CodeUnits → Bool := isKeyOf (units "._:-") 127

/-- `SLUG_PATTERN`. -/
def isSlug : CodeUnits → Bool := isKeyOf (units "-") 62

def isManifestId : CodeUnits → Bool := isKeyOf (units "._-") 127

def isUuid (text : CodeUnits) : Bool := testPattern uuidPattern (text.map lowerUnit)

def isBase64Unit (unit : UInt16) : Bool :=
  isDigitUnit unit ∨ isLetterUnit unit ∨ unit = 43 ∨ unit = 47

def isBase64 (text : CodeUnits) : Bool :=
  0 < text.length ∧ text.length % 4 = 0 ∧ text.takeWhile isBase64Unit ≠ [] ∧
    (text.dropWhile isBase64Unit).length ≤ 2 ∧
      (text.dropWhile isBase64Unit).all fun unit => unit = 61

/-- The text of a value without its outer blanks, if it is neither blank nor too long. -/
def stringValue (value : JsValue) (maximum : Nat) : Option CodeUnits :=
  match value with
  | .string text =>
      if 1 ≤ (Router.trim text).length ∧ text.length ≤ maximum then some (Router.trim text) else none
  | _ => none

def isText (expected : CodeUnits) : JsValue → Bool
  | .string text => text = expected
  | _ => false

/-! ## Endpoints -/

def octets (hostname : CodeUnits) : List Nat := (hostname.splitOn 46).map numberOfUnits

/-- `/^\[|\]$/g` is replaced by nothing. -/
def withoutBrackets (hostname : CodeUnits) : CodeUnits :=
  let opened := if hostname.head? = some 91 then hostname.tail else hostname
  if opened.getLast? = some 93 then opened.dropLast else opened

section Endpoints

variable [Runtime]

def isPrivateIpLiteral (hostname : CodeUnits) : Bool :=
  let normalized := Runtime.toLowerCase (withoutBrackets hostname)
  let version := Runtime.isIP normalized
  if version = 4 then
    let first := (octets normalized).getD 0 0
    let second := (octets normalized).getD 1 0
    first = 0 ∨ first = 10 ∨ first = 127 ∨ (first = 169 ∧ second = 254) ∨
      (first = 172 ∧ 16 ≤ second ∧ second ≤ 31) ∨ (first = 192 ∧ second = 168) ∨
        (first = 100 ∧ 64 ≤ second ∧ second ≤ 127) ∨ 224 ≤ first
  else if version = 6 then
    normalized = units "::" ∨ normalized = units "::1" ∨ units "fc" <+: normalized ∨
      units "fd" <+: normalized ∨ units "fe8" <+: normalized ∨ units "fe9" <+: normalized ∨
        units "fea" <+: normalized ∨ units "feb" <+: normalized
  else false

def production : CodeUnits := units "production"

def normalizeFederationEndpoint (text : CodeUnits) (environment : Option CodeUnits) :
    Option CodeUnits := do
  let url ← Runtime.parseUrl text
  let isLoopback := url.hostname = units "localhost" ∨ url.hostname = units "127.0.0.1" ∨
    url.hostname = units "[::1]"
  if url.protocol ≠ units "https:" ∧
      ¬(environment ≠ some production ∧ url.protocol = units "http:" ∧ isLoopback) then none
  else if url.username ≠ [] ∨ url.password ≠ [] ∨ url.hash ≠ [] ∨ url.search ≠ [] then none
  else if environment = some production ∧ isPrivateIpLiteral url.hostname then none
  else some url.text

end Endpoints

/-! ## Manifests -/

section Documents

variable [NumberText]

/-- `canonicalJson`: every number is written as `JSON.stringify` writes it. -/
def canonicalJson : JsValue → Except EnrollmentError CodeUnits :=
  canonicalText (fun number => .ok number.text) (.thrown "unsupported canonical JSON value")

def isScope : JsValue → Bool
  | .string text => 1 ≤ text.length ∧ text.length ≤ 128
  | _ => false

def isTool : JsValue → Bool
  | .string text => isServerKey text
  | _ => false

/-- An array of at most so many elements of a kind, unless it is left out. -/
def isListOf (isElement : JsValue → Bool) (maximum : Nat) : JsValue → Bool
  | .undefined => true
  | .array elements => elements.length ≤ maximum ∧ elements.all isElement
  | _ => false

def validateAgent : JsValue → Option String
  | .undefined => none
  | .object fields =>
      let protocol := JsValue.get (.object fields) (units "protocol")
      if protocol.isUndefined = false ∧ isText (units "matchplane.agent/v1") protocol = false then
        some "manifest.agent.protocol 不受支持"
      else if isListOf isTool 64 (JsValue.get (.object fields) (units "mcpTools")) = false then
        some "manifest.agent.mcpTools 格式无效"
      else none
  | _ => some "manifest.agent 必须是对象"

def validateManifest (manifest : JsValue) (slug : CodeUnits) :
    Except EnrollmentError (Option String) := do
  let serialized ← canonicalJson manifest
  pure <|
    if 64 * 1024 < serialized.length then some "manifest 不能超过 64 KiB"
    else if isText (units "matchplane.subplatform/v1") (manifest.get (units "apiVersion")) = false ∨
        isText (units "v1") (manifest.get (units "rootApiVersion")) = false then
      some "manifest API 版本不受支持"
    else if (stringValue (manifest.get (units "id")) 128).any isManifestId = false then
      some "manifest.id 格式无效"
    else if (stringValue (manifest.get (units "slug")) 63).any
        (fun text => text = slug ∧ isSlug text) = false then
      some "manifest.slug 与入驻 slug 不一致"
    else if isListOf isScope 32 (manifest.get (units "requiredScopes")) = false then
      some "manifest.requiredScopes 格式无效"
    else validateAgent (manifest.get (units "agent"))

/-! ## Enrollments -/

structure VerifiedFederationEnrollment where
  nodeId : CodeUnits
  slug : CodeUnits
  displayName : CodeUnits
  endpoint : CodeUnits
  mcpServerKey : CodeUnits
  publicKey : CodeUnits
  signature : CodeUnits
  manifest : JsValue
  manifestDigest : CodeUnits

/-- What a node signs. -/
structure Statement where
  displayName : CodeUnits
  endpoint : CodeUnits
  manifest : JsValue
  mcpServerKey : CodeUnits
  nodeId : CodeUnits
  slug : CodeUnits

namespace Statement

variable (statement : Statement)

def fields : List (CodeUnits × JsValue) :=
  [(units "displayName", .string statement.displayName),
    (units "endpoint", .string statement.endpoint), (units "manifest", statement.manifest),
    (units "mcpServerKey", .string statement.mcpServerKey),
    (units "nodeId", .string statement.nodeId), (units "protocol", .string federationProtocol),
    (units "slug", .string statement.slug)]

def value : JsValue := .object statement.fields

/-- `signedPayload`. -/
def payload : Except EnrollmentError CodeUnits := canonicalJson statement.value

end Statement

/-- What has been signed of an enrollment. -/
def VerifiedFederationEnrollment.statement (enrollment : VerifiedFederationEnrollment) :
    Statement where
  displayName := enrollment.displayName
  endpoint := enrollment.endpoint
  manifest := enrollment.manifest
  mcpServerKey := enrollment.mcpServerKey
  nodeId := enrollment.nodeId
  slug := enrollment.slug

abbrev refuse {α : Type} (error : String) : Except EnrollmentError α := .error (.refused error)

/-- A text that has to be there and of a form. -/
def required (text : Option CodeUnits) (isValid : CodeUnits → Bool) (error : String) :
    Except EnrollmentError CodeUnits :=
  match text with
  | some text => if isValid text then .ok text else refuse error
  | none => refuse error

def rejectInvalid : Option String → Except EnrollmentError PUnit
  | some error => refuse error
  | none => .ok ⟨⟩

variable [Runtime]

/-- The signature of a payload by a key. -/
def checkSignature (payload publicKey signature : CodeUnits) : Except EnrollmentError PUnit :=
  let keyBytes := Runtime.decodeBase64 publicKey
  let signatureBytes := Runtime.decodeBase64 signature
  if keyBytes.length < 32 ∨ 4096 < keyBytes.length ∨ signatureBytes.length ≠ 64 then
    refuse "联邦公钥或签名长度无效"
  else match Runtime.verify (bytesOfUnits payload) keyBytes signatureBytes with
    | none => refuse "联邦公钥不是有效的 Ed25519 SPKI 公钥"
    | some false => refuse "联邦清单签名校验失败"
    | some true => .ok ⟨⟩

def verifyFederationEnrollment (value : JsValue) (environment : Option CodeUnits) :
    Except EnrollmentError VerifiedFederationEnrollment :=
  if isRecord value = false then refuse "入驻报文必须是 JSON 对象"
  else if isText federationProtocol (value.get (units "protocol")) = false then
    refuse "不支持的联邦协议版本"
  else do
    let nodeId ← required (stringValue (value.get (units "nodeId")) 64) isUuid
      "nodeId 必须是 UUID"
    let slug ← required (stringValue (value.get (units "slug")) 63) isSlug "slug 格式无效"
    let displayName ← required (stringValue (value.get (units "displayName")) 200)
      (fun _ => true) "displayName 必须填写"
    let endpoint ← required (stringValue (value.get (units "endpoint")) 2048) (fun _ => true)
      "endpoint 必须是安全的 HTTPS MCP 地址"
    let mcpServerKey ← required (stringValue (value.get (units "mcpServerKey")) 128) isServerKey
      "mcpServerKey 格式无效"
    let publicKey ← required (stringValue (value.get (units "publicKey")) 8192) isBase64
      "publicKey 和 signature 必须是 base64"
    let signature ← required (stringValue (value.get (units "signature")) 8192) isBase64
      "publicKey 和 signature 必须是 base64"
    let normalizedEndpoint ← required (normalizeFederationEndpoint endpoint environment)
      (fun _ => true) "endpoint 必须是安全的 HTTPS MCP 地址"
    let manifest := value.get (units "manifest")
    if isRecord manifest = false then refuse "manifest 必须是 JSON 对象"
    else do
      rejectInvalid (← validateManifest manifest slug)
      let payload ← Statement.payload
        ⟨displayName, normalizedEndpoint, manifest, mcpServerKey, nodeId, slug⟩
      checkSignature payload publicKey signature
      let serialized ← canonicalJson manifest
      pure {
        nodeId
        slug
        displayName
        endpoint := normalizedEndpoint
        mcpServerKey
        publicKey
        signature
        manifest
        manifestDigest := Runtime.sha256 (bytesOfUnits serialized)
      }

/-! ## What a signature is about -/

omit [NumberText] in
theorem verified_of_checked {payload publicKey signature : CodeUnits}
    (h : checkSignature payload publicKey signature = .ok ⟨⟩) :
    Runtime.verify (bytesOfUnits payload) (Runtime.decodeBase64 publicKey)
      (Runtime.decodeBase64 signature) = some true := by
  rw [checkSignature, guard_eq_ok_iff] at h
  obtain ⟨_, h⟩ := h
  split at h
  · cases h
  · cases h
  · rename_i hverified
    exact hverified

/-- What is accepted has been signed, and its manifest is the one of the document. -/
theorem signed_of_accepted {value : JsValue} {environment : Option CodeUnits}
    {enrollment : VerifiedFederationEnrollment}
    (h : verifyFederationEnrollment value environment = .ok enrollment) :
    enrollment.manifest = value.get (units "manifest") ∧ isRecord enrollment.manifest = true ∧
      ∃ payload, enrollment.statement.payload = .ok payload ∧
        Runtime.verify (bytesOfUnits payload) (Runtime.decodeBase64 enrollment.publicKey)
          (Runtime.decodeBase64 enrollment.signature) = some true := by
  rw [verifyFederationEnrollment, guard_eq_ok_iff, guard_eq_ok_iff] at h
  obtain ⟨nodeId, _, h⟩ := bind_eq_ok_iff.mp h.2.2
  obtain ⟨slug, _, h⟩ := bind_eq_ok_iff.mp h
  obtain ⟨displayName, _, h⟩ := bind_eq_ok_iff.mp h
  obtain ⟨endpoint, _, h⟩ := bind_eq_ok_iff.mp h
  obtain ⟨mcpServerKey, _, h⟩ := bind_eq_ok_iff.mp h
  obtain ⟨publicKey, _, h⟩ := bind_eq_ok_iff.mp h
  obtain ⟨signature, _, h⟩ := bind_eq_ok_iff.mp h
  obtain ⟨normalizedEndpoint, _, h⟩ := bind_eq_ok_iff.mp h
  obtain ⟨hmanifest, h⟩ := guard_eq_ok_iff.mp h
  obtain ⟨outcome, _, h⟩ := bind_eq_ok_iff.mp h
  obtain ⟨_, _, h⟩ := bind_eq_ok_iff.mp h
  obtain ⟨payload, hpayload, h⟩ := bind_eq_ok_iff.mp h
  obtain ⟨_, hsignature, h⟩ := bind_eq_ok_iff.mp h
  obtain ⟨serialized, _, h⟩ := bind_eq_ok_iff.mp h
  obtain rfl := Except.ok.inj h
  refine ⟨rfl, by simpa using hmanifest, payload, hpayload, ?_⟩
  exact verified_of_checked hsignature

end Documents

section Determined

variable [NumberText] {kind : JsNumber → Prop}

theorem number_text (number : JsNumber) (text : CodeUnits)
    (h : (.ok number.text : Except EnrollmentError CodeUnits) = .ok text) : text = number.text :=
  (Except.ok.inj h).symm

/-- The texts of two trees are equal exactly when the trees are the same. -/
theorem canonicalJson_eq_iff {value other : JsValue} {text otherText : CodeUnits}
    (hvalue : value.IsTree kind) (hother : other.IsTree kind)
    (htext : canonicalJson value = .ok text) (hotherText : canonicalJson other = .ok otherText) :
    text = otherText ↔ Same value other :=
  canonicalText_eq_iff number_text hvalue hother htext hotherText

/-- A tree can always be written. -/
theorem canonicalJson_succeeds {value : JsValue} (h : value.IsTree kind) :
    ∃ text, canonicalJson value = .ok text :=
  canonicalText_succeeds (isTree_mono (fun number _ => ⟨number.text, rfl⟩) h)

namespace Statement

omit [NumberText] in
theorem nodup_fields (statement : Statement) : (statement.fields.map Prod.fst).Nodup := by
  change ([units "displayName", units "endpoint", units "manifest", units "mcpServerKey",
    units "nodeId", units "protocol", units "slug"] : List CodeUnits).Nodup
  decide +kernel

omit [NumberText] in
theorem isTree_value {statement : Statement} (h : statement.manifest.IsTree kind) :
    statement.value.IsTree kind :=
  ⟨statement.nodup_fields, trivial, trivial, h, trivial, trivial, trivial, trivial, trivial⟩

/-- Two statements that say the same. -/
structure Agrees (statement other : Statement) : Prop where
  displayName : statement.displayName = other.displayName
  endpoint : statement.endpoint = other.endpoint
  manifest : Same statement.manifest other.manifest
  mcpServerKey : statement.mcpServerKey = other.mcpServerKey
  nodeId : statement.nodeId = other.nodeId
  slug : statement.slug = other.slug

theorem agrees_of_same {statement other : Statement} (h : Same statement.value other.value) :
    Agrees statement other where
  displayName := h.text (units "displayName") other.nodup_fields (by simp [fields])
    (by simp [fields])
  endpoint := h.text (units "endpoint") other.nodup_fields (by simp [fields]) (by simp [fields])
  manifest := h.field (units "manifest") other.nodup_fields (by simp [fields])
    (by simp [fields])
  mcpServerKey := h.text (units "mcpServerKey") other.nodup_fields (by simp [fields])
    (by simp [fields])
  nodeId := h.text (units "nodeId") other.nodup_fields (by simp [fields]) (by simp [fields])
  slug := h.text (units "slug") other.nodup_fields (by simp [fields]) (by simp [fields])

/-- The bytes that are signed determine what the statement says. -/
theorem agrees_of_payload {statement other : Statement} {payload otherPayload : CodeUnits}
    (hmanifest : statement.manifest.IsTree kind) (hother : other.manifest.IsTree kind)
    (hpayload : statement.payload = .ok payload) (hotherPayload : other.payload = .ok otherPayload)
    (hbytes : bytesOfUnits payload = bytesOfUnits otherPayload) : Agrees statement other := by
  have hformed : WellFormed payload := wellFormed_canonicalText number_text hpayload
  have hotherFormed : WellFormed otherPayload := wellFormed_canonicalText number_text hotherPayload
  have htext : payload = otherPayload := by
    rw [← unitsOfBytes_bytesOfUnits hformed, hbytes, unitsOfBytes_bytesOfUnits hotherFormed]
  exact agrees_of_same <|
    (canonicalJson_eq_iff (isTree_value hmanifest) (isTree_value hother) hpayload
      hotherPayload).mp htext

end Statement

omit [NumberText] in
/-- The manifest of a document that is a tree. -/
theorem isTree_manifest {document manifest : JsValue} (h : document.IsTree kind)
    (hmanifest : manifest = document.get (units "manifest"))
    (hrecord : isRecord manifest = true) : manifest.IsTree kind := by
  rw [hmanifest] at hrecord ⊢
  refine isTree_get h ?_
  cases hfield : document.get (units "manifest") with
  | undefined =>
      rw [hfield] at hrecord
      cases hrecord
  | _ => rfl

end Determined

end MatchPlane.Federation
