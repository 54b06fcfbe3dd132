import MatchPlane.Platform.Releases

/-!
# The intake of registrations

What `POST /api/platform/subplatforms` checks of a manifest, of the source that it comes
from and of the scopes that are asked for, before anything is written.
-/

namespace MatchPlane.Platform

open MatchPlane.Library

/-! ## Patterns -/

/-- What `.` does not match. -/
def isLineTerminator (character : Char) : Bool :=
  character.toNat ∈ [0x0A, 0x0D, 0x2028, 0x2029]

/-- `/^.{minimum,maximum}$/u`. -/
def isLine (minimum maximum : Nat) (text : String) : Bool :=
  minimum ≤ text.length ∧ text.length ≤ maximum ∧
    text.toList.all fun character => !isLineTerminator character

/-- `/^(?!\/)(?!.*\.\.).+$/`. -/
def isRelative (text : String) : Bool :=
  text.toList ≠ [] ∧ text.toList.head? ≠ some '/' ∧ ¬['.', '.'] <:+: text.toList ∧
    text.toList.all fun character => !isLineTerminator character

/-- `/^\/[a-z0-9][a-z0-9-]*(?:\/.*)?$/`. -/
def isRoute (text : String) : Bool :=
  match text.toList with
  | '/' :: first :: rest =>
      let later := rest.dropWhile fun character => isAlphanumeric character ∨ character = '-'
      isAlphanumeric first ∧ (later = [] ∨ later.head? = some '/') ∧
        later.all fun character => !isLineTerminator character
  | _ => false

/-- `/^[a-z0-9_:-]+$/`. -/
def isCapability (text : String) : Bool :=
  text.toList ≠ [] ∧ text.toList.all fun character =>
    isAlphanumeric character ∨ character ∈ ['_', ':', '-']

/-- `/^[a-z0-9][a-z0-9._-]{1,99}$/`. -/
def isProviderKey : String → Bool :=
  isKey (fun character => isAlphanumeric character ∨ character ∈ ['.', '_', '-']) 99

/-- `/^[^\s@]+@[^\s@]+\.[^\s@]+$/`. -/
def isAddress (text : String) : Bool :=
  match text.toList.splitOn '@' with
  | [user, domain] => user ≠ [] ∧ '.' ∈ (domain.drop 1).dropLast ∧
      (user ++ domain).all fun character => !JavaScript.isBlank character
  | _ => false

/-- `/^[A-Z]{3}$/`. -/
def isCurrencyCode (text : String) : Bool := text.length = 3 ∧ text.toList.all Char.isUpper

def isLetter (character : Char) : Bool := character.isLower ∨ character.isUpper

/-- `/^[a-zA-Z][…]{0,limit}$/`. -/
def isName (others : List Char) (limit : Nat) (text : String) : Bool :=
  match text.toList with
  | [] => false
  | first :: rest => isLetter first ∧ rest.length ≤ limit ∧ rest.all fun character =>
      isLetter character ∨ character.isDigit ∨ character ∈ others

/-! ## Values of JavaScript -/

/-- `stringMatches`; a field that is missing is `undefined`. -/
def stringMatches (value : Option Json) (pattern : String → Bool) : Bool :=
  (value.bind Json.asStr).any pattern

/-- A field that is `undefined` or passes a check. -/
def isOptional (value : Option Json) (check : Json → Bool) : Bool := value.all check

/-- The bytes of a character in the text of a JSON string. -/
def escapedSize (character : Char) : Nat :=
  if character.toNat ∈ [0x08, 0x09, 0x0A, 0x0C, 0x0D, 0x22, 0x5C] then 2
  else if character.toNat < 0x20 then 6
  else character.utf8Size

def quotedSize (text : String) : Nat := (text.toList.map escapedSize).sum + 2

mutual

/-- `Buffer.byteLength(JSON.stringify(value), "utf8")`. -/
def serializedSize : Json → Nat
  | .null => 4
  | .bool value => if value then 4 else 5
  | .integer value => (toString value).length
  | .float literal => literal.length
  | .string text => quotedSize text
  | .array elements => elementsSize elements + (elements.length - 1) + 2
  | .object fields => fieldsSize fields + (fields.length - 1) + 2

def elementsSize : List Json → Nat
  | [] => 0
  | element :: rest => serializedSize element + elementsSize rest

def fieldsSize : List (String × Json) → Nat
  | [] => 0
  | (key, value) :: rest => quotedSize key + 1 + serializedSize value + fieldsSize rest

end

/-! ## Sections of a manifest -/

def validateManifestEmail (value : Json) : Bool :=
  value.isObject ∧
    isOptional (value.get "providerKey") (fun key => stringMatches (some key) isProviderKey) ∧
    isOptional (value.get "fromAddress") fun address => stringMatches (some address) isAddress

def isScaleNumber : Json → Bool
  | .integer value => 0 ≤ value ∧ value ≤ 18
  | _ => false

def validateManifestPricing (value : Json) : Bool :=
  match value with
  | .object fields =>
      fields.all (fun (key, _) => key ∈ ["mode", "currency", "currencyScale", "label"]) ∧
        value.text "mode" ∈ [some "fixed", some "range", some "negotiable", some "none"] ∧
        isOptional (value.get "currency") (fun currency =>
          stringMatches (some currency) isCurrencyCode) ∧
        isOptional (value.get "currencyScale") isScaleNumber ∧
        isOptional (value.get "label") (fun label => stringMatches (some label) (isLine 0 120)) ∧
        (value.text "mode" = some "fixed" → stringMatches (value.get "currency") isCurrencyCode) ∧
        (value.text "mode" = some "none" → value.get "currencyScale" = none)
  | _ => false

/-- A record of bounded texts. -/
def isStringMap (maxEntries : Nat) : Json → Bool
  | .object fields => fields.length ≤ maxEntries ∧ fields.all fun (key, value) =>
      isName ['_', '-'] 63 key ∧ stringMatches (some value) fun text =>
        JavaScript.length text ≤ 500
  | _ => false

def isLabelText (value : Option Json) : Bool := stringMatches value (isLine 1 200)

def isFilter (value : Json) : Bool :=
  value.isObject ∧ stringMatches (value.get "key") (isName ['_', '-'] 63) ∧
    isLabelText (value.get "label") ∧
    stringMatches (value.get "source") (· ∈ ["trust", "price", "attribute"]) ∧
    isOptional (value.get "attribute") (fun name =>
      stringMatches (some name) (isName ['_', '.', '-'] 127)) ∧
    isOptional (value.get "value") fun text => stringMatches (some text) (isLine 0 200)

def isBoolean : Json → Bool
  | .bool _ => true
  | _ => false

def isArrayOf (limit : Nat) (check : Json → Bool) : Json → Bool
  | .array elements => elements.length ≤ limit ∧ elements.all check
  | _ => false

def isSupplyField (value : Json) : Bool :=
  value.isObject ∧ stringMatches (value.get "key") (isName ['_', '.', '-'] 127) ∧
    isLabelText (value.get "label") ∧
    isOptional (value.get "type") (fun kind =>
      stringMatches (some kind) (· ∈ ["text", "number", "url", "date", "select"])) ∧
    isOptional (value.get "required") isBoolean ∧
    isOptional (value.get "placeholder") (fun text =>
      stringMatches (some text) (isLine 0 500)) ∧
    isOptional (value.get "options") (isArrayOf 64 fun option => isLabelText (some option))

def validateManifestUi : Json → Bool
  | .object fields =>
      fields.all (fun (key, _) => key ∈ ["chat", "copy", "filters", "supplyFields"]) ∧
        isOptional ((Json.object fields).get "chat") (isStringMap 64) ∧
        isOptional ((Json.object fields).get "copy") (isStringMap 128) ∧
        isOptional ((Json.object fields).get "filters") (isArrayOf 32 isFilter) ∧
        isOptional ((Json.object fields).get "supplyFields") (isArrayOf 64 isSupplyField)
  | _ => false

/-! ## Manifests -/

def manifestKeys : List String :=
  ["apiVersion", "id", "slug", "displayName", "description", "marketplaceContract", "pricing",
    "email", "ui", "rootApiVersion", "entry", "routes", "capabilities", "requiredScopes",
    "assets", "agent", "retrieval"]

def allowedScopes : List String :=
  ["marketplace:read", "marketplace:write", "retrieval:query", "retrieval:write",
    "platform:read"]

def elementsOf : Option Json → Option (List Json)
  | some (.array elements) => some elements
  | _ => none

/-- The first route is the slug, and all of them are paths. -/
def validateRoutes (manifest : Json) (slug : String) : Bool :=
  match elementsOf (manifest.get "routes") with
  | some (first :: rest) => first.asStr = some ("/" ++ slug) ∧
      (first :: rest).all fun route => stringMatches (some route) isRoute
  | _ => false

def validateAssets (assets : Json) : Bool :=
  stringMatches (assets.get "staticDirectory") isRelative ∧
    stringMatches (assets.get "buildCommand") (isLine 1 500)

/-- `latest` is what `bun` can resolve. -/
def validateDependencyPolicy (assets : Json) : Except String Unit :=
  match assets.get "dependencyPolicy" with
  | none => .ok ()
  | some policy =>
      if policy.asStr = some "locked" then .ok ()
      else if policy.asStr ≠ some "latest" then
        .error "manifest.assets.dependencyPolicy 无效"
      else if (assets.text "buildCommand").map JavaScript.trim ≠ some "bun run build" then
        .error "latest 依赖策略目前只支持 bun run build"
      else .ok ()

def validateRetrieval (retrieval : Json) : Bool :=
  isFalsy retrieval ∨ (retrieval.text "protocol" = some "matchplane.retrieval/v1" ∧
    retrieval.text "owner" = some "subplatform")

/-- The checks of the sections that only some packages have. -/
def validateSections (manifest : Json) : Except String Unit :=
  if isOptional (manifest.get "description") (fun text =>
      stringMatches (some text) (isLine 0 2000)) = false then
    .error "manifest.description 无效"
  else if isOptional (manifest.get "marketplaceContract") (fun contract =>
      contract.asStr ∈ [some "generic-v1", some "legacy-v1"]) = false then
    .error "manifest.marketplaceContract 无效"
  else if isOptional (manifest.get "pricing") validateManifestPricing = false then
    .error "manifest.pricing 无效"
  else if isOptional (manifest.get "email") validateManifestEmail = false then
    .error "manifest.email 无效"
  else if isOptional (manifest.get "ui") validateManifestUi = false then
    .error "manifest.ui 无效"
  else .ok ()

def validateAgents (manifest : Json) : Except String Unit :=
  if isOptional (manifest.get "agent") (fun agent =>
      isFalsy agent ∨ validateAgentManifest agent) = false then
    .error "manifest.agent 无效"
  else if isOptional (manifest.get "retrieval") validateRetrieval = false then
    .error "manifest.retrieval 必须声明 subplatform-owned v1"
  else .ok ()

def validateManifest (manifest : Json) (slug packageId : String) : Except String Unit :=
  match manifest with
  | .object fields =>
      if 64 * 1024 < serializedSize manifest then .error "manifest 过大"
      else match fields.find? fun (key, _) => key ∉ manifestKeys with
      | some (unknownKey, _) => .error ("manifest 包含未声明字段: " ++ unknownKey)
      | none =>
          if manifest.text "apiVersion" ≠ some "matchplane.subplatform/v1" ∨
              manifest.text "rootApiVersion" ≠ some "v1" then
            .error "manifest API 版本不受支持"
          else if stringMatches (manifest.get "id") isPackageId = false ∨
              manifest.text "id" ≠ some packageId then
            .error "manifest.id 与 packageId 不一致"
          else if stringMatches (manifest.get "slug") isSlug = false ∨
              manifest.text "slug" = some "root" ∨ manifest.text "slug" ≠ some slug then
            .error "manifest.slug 与 slug 不一致或使用了保留值"
          else if isLabelText (manifest.get "displayName") = false ∨
              stringMatches (manifest.get "entry") isRelative = false then
            .error "manifest displayName/entry 无效"
          else do
            validateSections manifest
            if validateRoutes manifest slug = false then
              .error "manifest.routes 无效，第一条路由必须是 /slug"
            else if (elementsOf (manifest.get "capabilities")).any (fun elements =>
                elements.all fun item => stringMatches (some item) isCapability) = false then
              .error "manifest.capabilities 无效"
            else if (elementsOf (manifest.get "requiredScopes")).any (fun elements =>
                elements.all fun item => item.asStr.any (· ∈ allowedScopes)) = false then
              .error "manifest.requiredScopes 无效"
            else if (manifest.get "assets").any validateAssets = false then
              .error "manifest.assets 无效"
            else do
              validateDependencyPolicy ((manifest.get "assets").getD .null)
              validateAgents manifest
  | _ => .error "manifest 必须是 JSON 对象"

/-! ## Sources -/

/-- What is read of a URL; credentials and a host that are missing are empty. -/
structure Url where
  scheme : String
  username : String
  password : String
  hostname : String
  deriving DecidableEq, Repr

/-- The parser of URLs that both sides follow, and the parser of UUIDs of the builder. -/
class SourceText where
  parseUrl : String → Option Url
  parseUuid : String → Option Uuid

def startsWith (text start : String) : Bool := start.toList.isPrefixOf text.toList

/-- `/^[0-9a-f]{7,128}$/i`. -/
def isRevision (text : String) : Bool :=
  7 ≤ text.length ∧ text.length ≤ 128 ∧ JavaScript.isHex text.length text

def validateLocator [SourceText] (request : RegistrationRequest) (locator : String) :
    Except String Unit :=
  if request.sourceKind = .git then
    match SourceText.parseUrl locator with
    | none => .error "git sourceLocator 不是有效 URL"
    | some url =>
        if url.scheme ∉ ["https", "ssh"] ∨ url.username ≠ "" ∨ url.password ≠ "" ∨
            url.hostname = "" then
          .error "git sourceLocator 只能使用不带凭据的 HTTPS/SSH URL"
        else .ok ()
  else if request.sourceDigest = "" then
    .error "archive 注册必须提供上传对象的 SHA-256 sourceDigest"
  else if startsWith locator "upload://" = false ∧ startsWith locator "https://" = false then
    .error "archive sourceLocator 必须是 upload:// 或 HTTPS 不可变对象地址"
  else .ok ()

def validateSource [SourceText] (request : RegistrationRequest) : Except String Unit :=
  let locator := JavaScript.trim request.sourceLocator
  if locator = "" ∨ 2048 < JavaScript.length locator then
    .error "sourceLocator 长度必须为 1..2048"
  else if isRevision (JavaScript.trim request.pinnedRevision) = false then
    .error "pinnedRevision 必须是不可变的 commit/digest"
  else do
    validateLocator request locator
    if JavaScript.isHex 64 request.sourceDigest = false then
      .error "sourceDigest 必须是已验证来源的 SHA-256"
    else .ok ()

/-! ## Requests -/

/-- A request as it comes in. -/
structure Intake where
  request : RegistrationRequest
  requestedScopes : Option Json

/-- Scopes that are all allowed, each once. -/
def normalizeScopes (scopes : Option Json) : Option (List String) :=
  match elementsOf scopes with
  | some elements =>
      if 32 < elements.length ∨
          elements.all (fun scope => scope.asStr.any (· ∈ allowedScopes)) = false then none
      else some (elements.filterMap Json.asStr).dedup
  | none => none

/-- An error of a check is an answer to the request. -/
def answered {α : Type} : Except String α → Except PlatformError α
  | .ok value => .ok value
  | .error message => .error (.response 400 message)

/-- The checks of the intake, in their order; the result is the scopes that are stored. -/
def Intake.accept [SourceText] (intake : Intake) : Except PlatformError (List String) := do
  let request := intake.request
  answered (validateManifest request.manifest request.slug request.packageId)
  if request.sourceKind = .remote then
    .error (.response 400 "sourceKind must be git or archive")
  else do
    answered (validateSource request)
    let scopes := (intake.requestedScopes.filter (· ≠ .null)).or
      (request.manifest.get "requiredScopes")
    match normalizeScopes scopes with
    | none => .error (.response 400 "requestedScopes contains an unsupported scope")
    | some scopes => .ok scopes

end MatchPlane.Platform
