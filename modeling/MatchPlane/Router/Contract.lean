import Mathlib
import MatchPlane.Domain.Instants
import MatchPlane.Library.Fallible
import MatchPlane.Library.JsonText
import MatchPlane.Library.Occurrences
import MatchPlane.Router.LockFiles

/-!
# The contract of the platform router

The texts, numbers and references of a stored configuration.  Each of them comes with
the proof that it is normal, so that to normalize it once more is to leave it alone.
-/

namespace MatchPlane.Router

open MatchPlane.Library MatchPlane.JavaScript

/-- The errors that the router throws, by their classes. -/
inductive RouterError where
  | configValidation (message : String)
  /-- An error that is no transaction error. -/
  | plain (message : String)
  | system (errno : Errno)
  | storageCommitUncertain (message : String)
  | transaction (message : String)
  | validation (message : String)
  | corruption (message : String)
  | conflict (message : String)
  | lockTimeout (message : String)
  | lockOwnership (message : String)
  | commitUncertain (message : String)
  | auditPending (message : String)
  | storageUncertain (message : String)
  | stateIndeterminate (message : String)
  deriving DecidableEq, Repr

/-! ## Texts -/

/-- The blanks of JavaScript. -/
def isBlankUnit (unit : UInt16) : Bool :=
  (9 ≤ unit.toNat ∧ unit.toNat ≤ 13) ∨ (0x2000 ≤ unit.toNat ∧ unit.toNat ≤ 0x200A) ∨
    unit ∈ ([32, 0xA0, 0x1680, 0x2028, 0x2029, 0x202F, 0x205F, 0x3000, 0xFEFF] : CodeUnits)

/-- `String.prototype.trim`. -/
def trim (text : CodeUnits) : CodeUnits := (text.dropWhile isBlankUnit).rdropWhile isBlankUnit

/-- The text of a value, or none. -/
def textOf : JsValue → CodeUnits
  | .string text => text
  | _ => []

/-- The rest of a text after its blanks does not start with one. -/
theorem dropWhile_prefix_blank {text part : CodeUnits}
    (h : part <+: text.dropWhile isBlankUnit) : part.dropWhile isBlankUnit = part := by
  cases part with
  | nil => rfl
  | cons unit rest =>
      obtain ⟨others, hothers⟩ := h
      have hfirst := @List.dropWhile_idempotent _ isBlankUnit text
      rw [← hothers, List.cons_append] at hfirst
      by_cases hunit : isBlankUnit unit = true
      · rw [List.dropWhile_cons_of_pos hunit] at hfirst
        have hlength := (List.dropWhile_suffix (l := rest ++ others) isBlankUnit).length_le
        rw [hfirst] at hlength
        simp at hlength
      · rw [List.dropWhile_cons_of_neg hunit]

theorem trim_trim (text : CodeUnits) : trim (trim text) = trim text := by
  have hprefix : trim text <+: text.dropWhile isBlankUnit := List.rdropWhile_prefix isBlankUnit _
  rw [trim, dropWhile_prefix_blank hprefix]
  exact List.rdropWhile_idempotent isBlankUnit _

theorem trim_of_not_blank {text : CodeUnits} (h : ∀ unit ∈ text, isBlankUnit unit = false) :
    trim text = text := by
  have hfirst : text.dropWhile isBlankUnit = text := by
    cases text with
    | nil => rfl
    | cons unit rest => rw [List.dropWhile_cons_of_neg (by simp [h])]
  rw [trim, hfirst, List.rdropWhile_eq_self_iff]
  intro hne
  simp [h]

/-- Units below the bounds of an expression of a fixed length. -/
abbrev Pattern := List (UInt16 → Bool)

def testPattern (pattern : Pattern) (text : CodeUnits) : Bool :=
  text.length = pattern.length ∧ (pattern.zip text).all fun pair => pair.1 pair.2

def literal (text : CodeUnits) : Pattern := text.map fun unit other => other = unit

def isDigitUnit (unit : UInt16) : Bool := 48 ≤ unit.toNat ∧ unit.toNat ≤ 57

def isHexUnit (unit : UInt16) : Bool :=
  isDigitUnit unit ∨ (97 ≤ unit.toNat ∧ unit.toNat ≤ 102)

def isLetterUnit (unit : UInt16) : Bool :=
  (65 ≤ unit.toNat ∧ unit.toNat ≤ 90) ∨ (97 ≤ unit.toNat ∧ unit.toNat ≤ 122)

def lowerUnit (unit : UInt16) : UInt16 :=
  if 65 ≤ unit.toNat ∧ unit.toNat ≤ 90 then unit + 32 else unit

/-! ## Identifiers -/

def isDashUnit (unit : UInt16) : Bool := unit = 45

def isVersionUnit (unit : UInt16) : Bool := 49 ≤ unit.toNat ∧ unit.toNat ≤ 56

def isVariantUnit (unit : UInt16) : Bool := unit ∈ ([56, 57, 97, 98] : CodeUnits)

/-- `UUID_PATTERN` of a text in lower case. -/
def uuidPattern : Pattern :=
  List.replicate 8 isHexUnit ++ [isDashUnit] ++ List.replicate 4 isHexUnit ++ [isDashUnit] ++
    isVersionUnit :: List.replicate 3 isHexUnit ++ [isDashUnit] ++
      isVariantUnit :: List.replicate 3 isHexUnit ++ [isDashUnit] ++ List.replicate 12 isHexUnit

structure RouterId where
  text : CodeUnits
  normal : testPattern uuidPattern text = true
  deriving DecidableEq

/-- The identifier of a value, in lower case. -/
def readUuid (value : JsValue) : Option RouterId :=
  match value with
  | .string text =>
      if h : testPattern uuidPattern (text.map lowerUnit) = true then some ⟨text.map lowerUnit, h⟩ else none
  | _ => none

def normalizeUuid (value : JsValue) : Except RouterError RouterId :=
  match readUuid value with
  | some id => .ok id
  | none => .error (.validation "AI 配置事务 ID 无效")

theorem map_lowerUnit_of_test {pattern : Pattern} {text : CodeUnits}
    (hlower : ∀ accept ∈ pattern, ∀ unit, accept unit = true → lowerUnit unit = unit)
    (h : testPattern pattern text = true) : text.map lowerUnit = text := by
  induction pattern generalizing text with
  | nil =>
      cases text with
      | nil => rfl
      | cons unit rest => simp [testPattern] at h
  | cons accept pattern ih =>
      cases text with
      | nil => simp [testPattern] at h
      | cons unit rest =>
          rw [List.forall_mem_cons] at hlower
          simp only [testPattern, List.length_cons, Nat.add_right_cancel_iff, List.zip_cons_cons,
            List.all_cons, Bool.and_eq_true, decide_eq_true_eq] at h
          have hrest : testPattern pattern rest = true := by simp [testPattern, h.1, h.2.2]
          rw [List.map_cons, hlower.1 unit h.2.1, ih hlower.2 hrest]

theorem lowerUnit_uuid : ∀ accept ∈ uuidPattern, ∀ unit, accept unit = true →
    lowerUnit unit = unit := by
  intro accept haccept unit hunit
  have hkinds : accept = isHexUnit ∨ accept = isDashUnit ∨ accept = isVersionUnit ∨
      accept = isVariantUnit := by
    simp only [uuidPattern, List.mem_append, List.mem_cons, List.mem_replicate, List.not_mem_nil,
      or_false] at haccept
    tauto
  have hrange : unit.toNat < 65 ∨ 90 < unit.toNat := by
    rcases hkinds with rfl | rfl | rfl | rfl
    · simp only [isHexUnit, isDigitUnit, decide_eq_true_eq] at hunit
      omega
    · rw [of_decide_eq_true hunit]
      decide
    · simp only [isVersionUnit, decide_eq_true_eq] at hunit
      omega
    · simp only [isVariantUnit, List.mem_cons, List.not_mem_nil, or_false,
        decide_eq_true_eq] at hunit
      rcases hunit with rfl | rfl | rfl | rfl
      all_goals decide
  rw [lowerUnit, if_neg (by omega)]

theorem readUuid_text (id : RouterId) : readUuid (.string id.text) = some id := by
  have hsame := map_lowerUnit_of_test lowerUnit_uuid id.normal
  rw [readUuid, dif_pos (by rw [hsame]; exact id.normal)]
  cases id
  simp only [hsame]

theorem normalizeUuid_text (id : RouterId) : normalizeUuid (.string id.text) = .ok id := by
  rw [normalizeUuid, readUuid_text]

/-! ## Credential files -/

def legacyRouterKeyFile : CodeUnits := units "platform-router.key"

/-- `MANAGED_ROUTER_KEY_FILE`. -/
def managedRouterKeyFile : Pattern :=
  literal (units "platform-router-key-") ++
    List.replicate 36 (fun unit => isHexUnit unit || isDashUnit unit) ++ literal (units ".key")

structure CredentialFile where
  name : CodeUnits
  valid : name = legacyRouterKeyFile ∨ testPattern managedRouterKeyFile name = true
  deriving DecidableEq

def CredentialFile.legacy : CredentialFile := ⟨legacyRouterKeyFile, .inl rfl⟩

def normalizeCredentialFile (value : JsValue) : Except RouterError CredentialFile :=
  let candidate := if textOf value = [] then legacyRouterKeyFile else textOf value
  if h : candidate = legacyRouterKeyFile ∨ testPattern managedRouterKeyFile candidate = true then
    .ok ⟨candidate, h⟩
  else .error (.configValidation "AI 凭据文件引用无效")

theorem CredentialFile.name_ne_nil (file : CredentialFile) : file.name ≠ [] := by
  intro hnil
  have hvalid := file.valid
  rw [hnil] at hvalid
  revert hvalid
  decide +kernel

theorem normalizeCredentialFile_name (file : CredentialFile) :
    normalizeCredentialFile (.string file.name) = .ok file := by
  have hcandidate : (if textOf (.string file.name) = [] then legacyRouterKeyFile
      else textOf (.string file.name)) = file.name := if_neg file.name_ne_nil
  simp only [normalizeCredentialFile, hcandidate]
  rw [dif_pos file.valid]

/-! ## Endpoints -/

/-- What the router reads of a URL. -/
structure Url where
  protocol : CodeUnits
  username : CodeUnits
  password : CodeUnits
  hostname : CodeUnits
  origin : CodeUnits
  pathname : CodeUnits
  search : CodeUnits
  hash : CodeUnits
  deriving DecidableEq

/-- `/\/+$/` is replaced by nothing. -/
def stripSlashes (pathname : CodeUnits) : CodeUnits :=
  pathname.rdropWhile fun unit => unit = 47

/-- An address of a model that has only a path after its host. -/
def Url.isBase (url : Url) : Bool :=
  url.protocol = units "https:" ∧ url.username = [] ∧ url.password = [] ∧ url.hash = [] ∧
    url.search = []

/-- The same host with another path; the path of a host alone is the root. -/
def Url.withPath (url : Url) (pathname : CodeUnits) : Url :=
  { url with pathname := if pathname = [] then [47] else pathname }

/--
The URL parser of the runtime, and the ranges of addresses that are not public.  Its
origins and paths have no blanks, and an origin, or an origin and a path without the
slashes at its end, reads as what it says.
-/
class UrlParser where
  parse : CodeUnits → Option Url
  isPrivateOrReservedIpLiteral : CodeUnits → Bool
  parse_origin : ∀ text url, parse text = some url → url.isBase = true →
    parse url.origin = some (url.withPath [])
  parse_base : ∀ text url, parse text = some url → url.isBase = true →
    parse (url.origin ++ stripSlashes url.pathname) =
      some (url.withPath (stripSlashes url.pathname))
  not_blank : ∀ text url, parse text = some url → url.isBase = true →
    ∀ unit ∈ url.origin ++ url.pathname, isBlankUnit unit = false

theorem stripSlashes_prefix (pathname : CodeUnits) : stripSlashes pathname <+: pathname :=
  List.rdropWhile_prefix _ _

theorem stripSlashes_stripSlashes (pathname : CodeUnits) :
    stripSlashes (stripSlashes pathname) = stripSlashes pathname :=
  List.rdropWhile_idempotent _ _

theorem stripSlashes_withPath (url : Url) (pathname : CodeUnits) :
    stripSlashes (url.withPath (stripSlashes pathname)).pathname = stripSlashes pathname := by
  unfold Url.withPath
  dsimp only
  split
  case isTrue h => rw [h]; rfl
  case isFalse h => exact stripSlashes_stripSlashes pathname

section Endpoints

variable [UrlParser]

def isRefusedUrl (url : Url) : Bool :=
  url.isBase = false ∨ 512 < url.pathname.length ∨
    UrlParser.isPrivateOrReservedIpLiteral url.hostname

/-- The base that is made of a text. -/
def endpointOf (text : CodeUnits) : Option CodeUnits := do
  let url ← UrlParser.parse text
  if isRefusedUrl url then none else some (url.origin ++ stripSlashes url.pathname)

/-- The base of an address that is not refused. -/
theorem endpointOf_eq_some_iff {text endpoint : CodeUnits} :
    endpointOf text = some endpoint ↔ ∃ url, UrlParser.parse text = some url ∧
      isRefusedUrl url = false ∧ endpoint = url.origin ++ stripSlashes url.pathname := by
  rw [endpointOf, Option.bind_eq_bind, Option.bind_eq_some_iff]
  refine exists_congr fun url => and_congr_right fun _ => ?_
  cases isRefusedUrl url with
  | true => simp
  | false => simp [eq_comm]

theorem isRefusedUrl_eq_false_iff {url : Url} :
    isRefusedUrl url = false ↔ url.isBase = true ∧ url.pathname.length ≤ 512 ∧
      UrlParser.isPrivateOrReservedIpLiteral url.hostname = false := by
  simp [isRefusedUrl]

theorem isRefusedUrl_withPath {url : Url} {pathname : CodeUnits} (h : isRefusedUrl url = false)
    (hlength : pathname.length ≤ 512) : isRefusedUrl (url.withPath pathname) = false := by
  rw [isRefusedUrl_eq_false_iff] at h ⊢
  refine ⟨h.1, ?_, h.2.2⟩
  unfold Url.withPath
  dsimp only
  split
  · decide
  · exact hlength

/-- A base is its own base. -/
theorem endpointOf_endpointOf {text endpoint : CodeUnits} (h : endpointOf text = some endpoint) :
    trim endpoint = endpoint ∧ endpointOf endpoint = some endpoint := by
  obtain ⟨url, hparse, haccepted, rfl⟩ := endpointOf_eq_some_iff.mp h
  have hbase := (isRefusedUrl_eq_false_iff.mp haccepted).1
  have hprefix := stripSlashes_prefix url.pathname
  constructor
  · apply trim_of_not_blank
    intro unit hunit
    apply UrlParser.not_blank text url hparse hbase
    rw [List.mem_append] at hunit ⊢
    exact hunit.imp_right fun hmem => hprefix.subset hmem
  · rw [endpointOf_eq_some_iff]
    refine ⟨url.withPath (stripSlashes url.pathname), UrlParser.parse_base text url hparse hbase,
      isRefusedUrl_withPath haccepted ?_, ?_⟩
    · have hlength := (isRefusedUrl_eq_false_iff.mp haccepted).2.1
      exact hprefix.length_le.trans hlength
    · rw [stripSlashes_withPath]
      rfl

structure Endpoint where
  text : CodeUnits
  trimmed : trim text = text
  normal : endpointOf text = some text
  deriving DecidableEq

def normalizeEndpoint (value : JsValue) : Except RouterError Endpoint :=
  match h : endpointOf (trim (textOf value)) with
  | some endpoint =>
      .ok ⟨endpoint, (endpointOf_endpointOf h).1, (endpointOf_endpointOf h).2⟩
  | none => .error (.configValidation
      "模型网关必须是 HTTPS API 基址，例如 https://api.example.com/v1")

theorem normalizeEndpoint_text (endpoint : Endpoint) :
    normalizeEndpoint (.string endpoint.text) = .ok endpoint := by
  have hread : endpointOf (trim (textOf (.string endpoint.text))) = some endpoint.text := by
    rw [textOf, endpoint.trimmed, endpoint.normal]
  unfold normalizeEndpoint
  split
  case h_1 text htext =>
    rw [hread] at htext
    cases htext
    rfl
  case h_2 hnone =>
    rw [hread] at hnone
    cases hnone

end Endpoints

/-! ## Models -/

inductive ManagedRouterProtocol where
  | openaiCompatible
  | anthropicMessages
  | geminiGenerateContent
  deriving DecidableEq, Repr

namespace ManagedRouterProtocol

def text : ManagedRouterProtocol → CodeUnits
  | openaiCompatible => units "openai-compatible"
  | anthropicMessages => units "anthropic-messages"
  | geminiGenerateContent => units "gemini-generate-content"

end ManagedRouterProtocol

def normalizeProtocol (value : JsValue) : Except RouterError ManagedRouterProtocol :=
  if textOf value = units "openai-compatible" then .ok .openaiCompatible
  else if textOf value = units "anthropic-messages" then .ok .anthropicMessages
  else if textOf value = units "gemini-generate-content" then .ok .geminiGenerateContent
  else .error (.configValidation "模型协议无效")

theorem normalizeProtocol_text (protocol : ManagedRouterProtocol) :
    normalizeProtocol (.string protocol.text) = .ok protocol := by
  cases protocol
  all_goals
    unfold normalizeProtocol
    decide +kernel

def isModelUnit (unit : UInt16) : Bool :=
  isLetterUnit unit ∨ isDigitUnit unit ∨ unit ∈ ([46, 95, 58, 47, 45] : CodeUnits)

def isValidProviderModel (value : CodeUnits) (protocol : ManagedRouterProtocol) : Bool :=
  value = trim value ∧ value ≠ [] ∧ value.length ≤ 256 ∧ value.all isModelUnit ∧
    (value.head?.any fun unit => isLetterUnit unit ∨ isDigitUnit unit) ∧
      (protocol = .geminiGenerateContent → 47 ∉ value ∧ 58 ∉ value)

structure BoundedText (maximum : Nat) where
  text : CodeUnits
  trimmed : trim text = text
  bounded : text ≠ [] ∧ text.length ≤ maximum
  deriving DecidableEq

def boundedText (value : JsValue) (label : String) (maximum : Nat) :
    Except RouterError (BoundedText maximum) :=
  let normalized := trim (textOf value)
  if h : normalized ≠ [] ∧ normalized.length ≤ maximum then .ok ⟨normalized, trim_trim _, h⟩
  else .error (.configValidation s!"{label}必须为 1..={maximum} 个字符")

theorem boundedText_text {maximum : Nat} (bounded : BoundedText maximum) (label : String) :
    boundedText (.string bounded.text) label maximum = .ok bounded := by
  obtain ⟨text, htrimmed, hbounded⟩ := bounded
  simp only [boundedText, textOf, htrimmed]
  rw [dif_pos hbounded]

abbrev ProviderModel (protocol : ManagedRouterProtocol) : Type :=
  { text : CodeUnits // isValidProviderModel text protocol = true }

def normalizeProviderModel (value : JsValue) (protocol : ManagedRouterProtocol) :
    Except RouterError (ProviderModel protocol) := do
  let model ← boundedText value "模型" 256
  if h : isValidProviderModel model.text protocol = true then .ok ⟨model.text, h⟩
  else .error (.configValidation "模型 ID 格式无效")

/-- A model is short enough for a text. -/
def ProviderModel.bounded {protocol : ManagedRouterProtocol} (model : ProviderModel protocol) :
    BoundedText 256 where
  text := model.1
  trimmed := by
    have hvalid := model.2
    simp only [isValidProviderModel, decide_eq_true_eq] at hvalid
    exact hvalid.1.symm
  bounded := by
    have hvalid := model.2
    simp only [isValidProviderModel, decide_eq_true_eq] at hvalid
    exact ⟨hvalid.2.1, hvalid.2.2.1⟩

theorem normalizeProviderModel_text {protocol : ManagedRouterProtocol}
    (model : ProviderModel protocol) :
    normalizeProviderModel (.string model.1) protocol = .ok model := by
  have hread := boundedText_text model.bounded "模型"
  change boundedText (.string model.1) "模型" 256 = .ok model.bounded at hread
  rw [normalizeProviderModel, hread]
  exact dif_pos model.2

/-! ## Other texts -/

/-- `boundedOptionalText` of the instructions of the assistant. -/
structure Instructions where
  text : CodeUnits
  trimmed : trim text = text
  bounded : text.length ≤ 4000
  deriving DecidableEq

def normalizeInstructions (value : JsValue) : Except RouterError Instructions :=
  let normalized := trim (textOf value)
  if h : normalized.length ≤ 4000 then .ok ⟨normalized, trim_trim _, h⟩
  else .error (.configValidation "导购补充指引不能超过 4000 个字符")

theorem normalizeInstructions_text (instructions : Instructions) :
    normalizeInstructions (.string instructions.text) = .ok instructions := by
  obtain ⟨text, htrimmed, hbounded⟩ := instructions
  simp only [normalizeInstructions, textOf, htrimmed]
  rw [dif_pos hbounded]

/-- A line of an audit record. -/
structure AuditText where
  text : CodeUnits
  trimmed : trim text = text
  bounded : text ≠ [] ∧ text.length ≤ 256
  oneLine : 13 ∉ text ∧ 10 ∉ text
  deriving DecidableEq

def boundedAuditText (value : CodeUnits) (label : String) : Except RouterError AuditText :=
  let normalized := trim value
  if h : (normalized ≠ [] ∧ normalized.length ≤ 256) ∧ 13 ∉ normalized ∧ 10 ∉ normalized then
    .ok ⟨normalized, trim_trim _, h.1, h.2⟩
  else .error (.configValidation s!"{label} 无效")

theorem boundedAuditText_text (line : AuditText) (label : String) :
    boundedAuditText line.text label = .ok line := by
  obtain ⟨text, htrimmed, hbounded, honeLine⟩ := line
  simp only [boundedAuditText, htrimmed]
  rw [dif_pos ⟨hbounded, honeLine⟩]

/-! ## Numbers -/

/-- `Number.isSafeInteger`. -/
def safeInteger : JsValue → Option Int
  | .number (.finite value) =>
      if value.den = 1 ∧ value.num.natAbs ≤ 2 ^ 53 - 1 then some value.num else none
  | .number .negativeZero => some 0
  | _ => none

def boundedInteger (value : JsValue) {minimum maximum : Int} (h : minimum ≤ maximum)
    (fallback : Set.Icc minimum maximum) : Set.Icc minimum maximum :=
  match safeInteger value with
  | some number => Set.projIcc minimum maximum h number
  | none => fallback

/-- `Number.isFinite`. -/
def finiteNumber : JsValue → Option Rat
  | .number (.finite value) => some value
  | .number .negativeZero => some 0
  | _ => none

def boundedNumber (value : JsValue) {minimum maximum : Rat} (h : minimum ≤ maximum)
    (fallback : Set.Icc minimum maximum) : Set.Icc minimum maximum :=
  match finiteNumber value with
  | some number => Set.projIcc minimum maximum h number
  | none => fallback

/-- The number of an integer. -/
def integerValue (number : Int) : JsValue := .number (.finite number)

theorem boundedInteger_value {minimum maximum : Int} (h : minimum ≤ maximum)
    (fallback number : Set.Icc minimum maximum) (hminimum : 0 ≤ minimum)
    (hmaximum : maximum ≤ 2 ^ 53 - 1) :
    boundedInteger (integerValue number) h fallback = number := by
  have hsafe : safeInteger (integerValue number) = some number.1 := by
    have hbounds := number.2
    rw [Set.mem_Icc] at hbounds
    rw [integerValue, safeInteger, if_pos]
    · rfl
    · refine ⟨rfl, ?_⟩
      change number.1.natAbs ≤ _
      omega
  rw [boundedInteger, hsafe]
  exact Set.projIcc_val h number

theorem boundedNumber_value {minimum maximum : Rat} (h : minimum ≤ maximum)
    (fallback number : Set.Icc minimum maximum) :
    boundedNumber (.number (.finite number)) h fallback = number := Set.projIcc_val h number

/-! ## Reasoning efforts -/

def isReasoningEffort (text : CodeUnits) : Bool :=
  text ≠ [] ∧ text.length ≤ 32 ∧
    text.all fun unit => isLetterUnit unit ∨ isDigitUnit unit ∨ unit = 95 ∨ unit = 45

structure ReasoningEfforts where
  efforts : List CodeUnits
  valid : ∀ effort ∈ efforts, isReasoningEffort effort = true
  nodup : efforts.Nodup
  bounded : efforts.length ≤ 16
  deriving DecidableEq

/-- The elements of an array. -/
def elementsOf : JsValue → List JsValue
  | .array elements => elements
  | _ => []

def reasoningEffortOf : JsValue → Option CodeUnits
  | .string text => if isReasoningEffort text then some text else none
  | _ => none

def reasoningEffortsOf (value : JsValue) : List CodeUnits :=
  ((elementsOf value).filterMap reasoningEffortOf).eraseDups.take 16

def normalizeReasoningEfforts (value : JsValue) : ReasoningEfforts where
  efforts := reasoningEffortsOf value
  valid := by
    intro effort heffort
    have hmem := List.mem_eraseDups.mp (List.mem_of_mem_take heffort)
    obtain ⟨element, _, hread⟩ := List.mem_filterMap.mp hmem
    cases element with
    | string text =>
        simp only [reasoningEffortOf, Option.ite_none_right_eq_some, Option.some.injEq] at hread
        exact hread.2 ▸ hread.1
    | _ => cases hread
  nodup := (nodup_eraseDups _).sublist (List.take_sublist _ _)
  bounded := List.length_take_le _ _

def ReasoningEfforts.value (efforts : ReasoningEfforts) : JsValue :=
  .array (efforts.efforts.map .string)

theorem normalizeReasoningEfforts_value (efforts : ReasoningEfforts) :
    normalizeReasoningEfforts efforts.value = efforts := by
  obtain ⟨efforts, hvalid, hnodup, hbounded⟩ := efforts
  have hread : reasoningEffortsOf (.array (efforts.map .string)) = efforts := by
    have hall : (efforts.map JsValue.string).filterMap reasoningEffortOf = efforts := by
      rw [List.filterMap_map]
      refine (List.filterMap_congr ?_).trans List.filterMap_some
      intro effort heffort
      simp [reasoningEffortOf, hvalid effort heffort]
    rw [reasoningEffortsOf, elementsOf, hall, eraseDups_of_nodup hnodup,
      List.take_of_length_le hbounded]
  unfold ReasoningEfforts.value normalizeReasoningEfforts
  simp only [hread]

/-- An effort that is supported, or none. -/
abbrev ReasoningEffort (supported : ReasoningEfforts) : Type :=
  { text : CodeUnits // text ∈ supported.efforts ∨ text = units "none" }

def normalizeReasoningEffort (value : JsValue) (supported : ReasoningEfforts) :
    ReasoningEffort supported :=
  if h : textOf value ∈ supported.efforts then ⟨textOf value, .inl h⟩
  else ⟨units "none", .inr rfl⟩

theorem normalizeReasoningEffort_text {supported : ReasoningEfforts}
    (effort : ReasoningEffort supported) :
    normalizeReasoningEffort (.string effort.1) supported = effort := by
  obtain ⟨text, hsupported | rfl⟩ := effort
  · exact dif_pos hsupported
  · by_cases h : units "none" ∈ supported.efforts
    · exact dif_pos h
    · exact dif_neg h

end MatchPlane.Router
