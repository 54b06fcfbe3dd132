import MatchPlane.Library.Regexes
import MatchPlane.Platform.Enrollments

/-!
# Results of retrieval providers

The answer of a provider is checked before anything of it is used.  Its candidates may not
carry the contact details of anybody, at any depth.
-/

namespace MatchPlane.Retrieval

open MatchPlane.Library MatchPlane.JavaScript MatchPlane.Router MatchPlane.Federation

/-- A value, or what is wrong with it. -/
abbrev ParseResult (α : Type) := Except CodeUnits α

abbrev failure {α : Type} (error : String) : ParseResult α := .error (units error)

/-- The libraries of the runtime. -/
class Strings where
  toLowerCase : CodeUnits → CodeUnits
  /-- `Number.isFinite(Date.parse(text))`. -/
  isDate : CodeUnits → Bool

/-! ## Contact material -/

/-- `[a-z0-9]`. -/
def isPlainUnit (unit : UInt16) : Bool := isDigitUnit unit ∨ (97 ≤ unit.toNat ∧ unit.toNat ≤ 122)

def isCapitalUnit (unit : UInt16) : Bool := 65 ≤ unit.toNat ∧ unit.toNat ≤ 90

/-- `/([a-z0-9])([A-Z])/g` is replaced by the two with a line between them. -/
def separateWords : CodeUnits → CodeUnits
  | [] => []
  | [unit] => [unit]
  | unit :: next :: rest =>
      if isPlainUnit unit ∧ isCapitalUnit next then unit :: 95 :: separateWords (next :: rest)
      else unit :: separateWords (next :: rest)

/-- `/[^a-z0-9]+/g` is replaced by a line. -/
def underscoreRuns (inRun : Bool) : CodeUnits → CodeUnits
  | [] => []
  | unit :: rest =>
      if isPlainUnit unit then unit :: underscoreRuns false rest
      else if inRun then underscoreRuns true rest
      else 95 :: underscoreRuns true rest

def contactFieldNames : List CodeUnits :=
  ["contact", "contact_details", "contact_info", "contact_method", "contact_phone",
    "contact_email", "email", "email_address", "phone", "phone_number", "telephone", "wechat",
    "wechat_id", "weixin", "whatsapp", "telegram", "skype"].map units

def contactRoles : List CodeUnits :=
  ["seller", "merchant", "buyer", "owner", "provider", "supplier", "support"].map units

/-- `/^(?:seller|...)_(?:phone|email)$/`. -/
def isRoleContact (key : CodeUnits) : Bool :=
  contactRoles.any fun role => key = role ++ units "_phone" ∨ key = role ++ units "_email"

section Keys

variable [Strings]

def normalizeKey (rawKey : CodeUnits) : CodeUnits :=
  ((underscoreRuns false (Strings.toLowerCase (separateWords rawKey))).dropWhile
    fun unit => unit = 95).rdropWhile fun unit => unit = 95

def isContactKey (rawKey : CodeUnits) : Bool :=
  let key := normalizeKey rawKey
  key ∈ contactFieldNames ∨ units "contact_" <+: key ∨ units "_contact" <:+ key ∨
    isRoleContact key

end Keys

namespace Patterns

open Regex

/-- A text in capital or small letters. -/
def folded (text : String) : Regex :=
  sequence ((units text).map fun expected => unit fun head => lowerUnit head = lowerUnit expected)

def digit : Regex := unit isDigitUnit

def blank : Regex := unit isBlankUnit

def letter : Regex := unit isLetterUnit

/-- Letters, digits and some other units. -/
def wordOf (others : String) : Regex :=
  unit fun head => isLetterUnit head ∨ isDigitUnit head ∨ head ∈ units others

def address : Regex :=
  sequence [assertion Place.atBoundary, plus (wordOf "._%+-"), folded "@", plus (wordOf ".-"),
    folded ".", atLeast letter 2, assertion Place.atBoundary]

def link : Regex :=
  choice [folded "mailto:", folded "tel:", folded "sms:",
    seq (choice (["wechat", "weixin", "tg", "skype", "facetime"].map folded)) (folded ":"),
    sequence [folded "http", optional (folded "s"), folded "://",
      choice (["wa.me", "api.whatsapp.com", "t.me", "telegram.me", "line.me"].map folded),
      folded "/"],
    address]

def notDigit : Regex := unit fun head => !isDigitUnit head

def mobileNumber : Regex :=
  sequence [either (assertion Place.atStart) notDigit, folded "1",
    unit fun head => 51 ≤ head.toNat ∧ head.toNat ≤ 57, times digit 9,
    either (assertion Place.atEnd) notDigit]

def internationalNumber : Regex :=
  sequence [folded "+", digit,
    atLeast (unit fun head => isDigitUnit head ∨ isBlankUnit head ∨ head ∈ units "().-") 6, digit]

def handle : Regex :=
  sequence [choice (["wechat", "weixin", "微信号", "telegram", "skype", "whatsapp"].map folded),
    optional (seq (star blank) (choice (["id", "账号", "帳號"].map folded))), star blank,
    oneOf (units ":=："), star blank, letter, atLeast (wordOf "_.-") 4]

end Patterns

def contactValuePatterns : List Regex :=
  [Patterns.link, Patterns.mobileNumber, Patterns.internationalNumber, Patterns.handle]

def isContactText (text : CodeUnits) : Bool :=
  contactValuePatterns.any fun pattern => pattern.test text

section Traversal

variable [Strings]

/-- The values that are still to be visited, the next one first; each of them takes a visit. -/
def scanPending : Nat → List JsValue → Bool
  | _, [] => false
  | 0, _ :: _ => true
  | visits + 1, current :: pending =>
      match current with
      | .string text => if isContactText text then true else scanPending visits pending
      | .array elements => scanPending visits (elements.reverse ++ pending)
      | .object fields =>
          if fields.any fun field => isContactKey field.1 then true
          else scanPending visits ((fields.map Prod.snd).reverse ++ pending)
      | _ => scanPending visits pending

def maxVisits : Nat := 4096

def containsContactMaterial (value : JsValue) : Bool := scanPending maxVisits [value]

end Traversal

/-! ## The whole of a value -/

mutual

/-- The values that a value consists of. -/
def nodes : JsValue → Nat
  | .array elements => 1 + elementNodes elements
  | .object fields => 1 + fieldNodes fields
  | _ => 1

def elementNodes : List JsValue → Nat
  | [] => 0
  | element :: rest => nodes element + elementNodes rest

def fieldNodes : List (CodeUnits × JsValue) → Nat
  | [] => 0
  | (_, value) :: rest => nodes value + fieldNodes rest

end

mutual

/-- The keys of the objects in a value, at any depth. -/
def keysOf : JsValue → List CodeUnits
  | .array elements => elementKeys elements
  | .object fields => fieldKeys fields
  | _ => []

def elementKeys : List JsValue → List CodeUnits
  | [] => []
  | element :: rest => keysOf element ++ elementKeys rest

def fieldKeys : List (CodeUnits × JsValue) → List CodeUnits
  | [] => []
  | (key, value) :: rest => key :: keysOf value ++ fieldKeys rest

end

mutual

/-- The strings in a value, at any depth. -/
def textsOf : JsValue → List CodeUnits
  | .string text => [text]
  | .array elements => elementTextsOf elements
  | .object fields => fieldTextsOf fields
  | _ => []

def elementTextsOf : List JsValue → List CodeUnits
  | [] => []
  | element :: rest => textsOf element ++ elementTextsOf rest

def fieldTextsOf : List (CodeUnits × JsValue) → List CodeUnits
  | [] => []
  | (_, value) :: rest => textsOf value ++ fieldTextsOf rest

end

theorem fieldNodes_eq (fields : List (CodeUnits × JsValue)) :
    fieldNodes fields = elementNodes (fields.map Prod.snd) := by
  induction fields with
  | nil => rfl
  | cons field rest ih => rw [fieldNodes, List.map_cons, elementNodes, ih]

theorem elementNodes_append (elements others : List JsValue) :
    elementNodes (elements ++ others) = elementNodes elements + elementNodes others := by
  induction elements with
  | nil => simp [elementNodes]
  | cons element rest ih =>
      rw [List.cons_append, elementNodes, elementNodes, ih]
      omega

theorem elementNodes_reverse (elements : List JsValue) :
    elementNodes elements.reverse = elementNodes elements := by
  induction elements with
  | nil => rfl
  | cons element rest ih =>
      rw [List.reverse_cons, elementNodes_append, ih, elementNodes, elementNodes, elementNodes]
      omega

theorem nodes_pos (value : JsValue) : 0 < nodes value := by
  cases value <;> simp [nodes]

theorem mem_elementKeys {key : CodeUnits} {elements : List JsValue} :
    key ∈ elementKeys elements ↔ ∃ element ∈ elements, key ∈ keysOf element := by
  induction elements with
  | nil => simp [elementKeys]
  | cons element rest ih => simp [elementKeys, ih]

theorem mem_fieldKeys {key : CodeUnits} {fields : List (CodeUnits × JsValue)} :
    key ∈ fieldKeys fields ↔
      (∃ field ∈ fields, field.1 = key) ∨ ∃ field ∈ fields, key ∈ keysOf field.2 := by
  induction fields with
  | nil => simp [fieldKeys]
  | cons field rest ih =>
      rw [fieldKeys, List.mem_append, List.mem_cons, ih, List.exists_mem_cons_iff,
        List.exists_mem_cons_iff, eq_comm]
      exact or_or_or_comm

theorem mem_elementTextsOf {text : CodeUnits} {elements : List JsValue} :
    text ∈ elementTextsOf elements ↔ ∃ element ∈ elements, text ∈ textsOf element := by
  induction elements with
  | nil => simp [elementTextsOf]
  | cons element rest ih => simp [elementTextsOf, ih]

theorem mem_fieldTextsOf {text : CodeUnits} {fields : List (CodeUnits × JsValue)} :
    text ∈ fieldTextsOf fields ↔ ∃ field ∈ fields, text ∈ textsOf field.2 := by
  induction fields with
  | nil => simp [fieldTextsOf]
  | cons field rest ih => simp [fieldTextsOf, ih]

section Recursion

variable [Strings]

/-- A contact key, or a contact text, is somewhere in a value. -/
def HasContact (value : JsValue) : Prop :=
  (∃ key ∈ keysOf value, isContactKey key = true) ∨
    ∃ text ∈ textsOf value, isContactText text = true

theorem hasContact_string {text : CodeUnits} :
    HasContact (.string text) ↔ isContactText text = true := by
  simp [HasContact, keysOf, textsOf]

theorem hasContact_array {elements : List JsValue} :
    HasContact (.array elements) ↔ ∃ element ∈ elements, HasContact element := by
  simp only [HasContact, keysOf, textsOf, mem_elementKeys, mem_elementTextsOf]
  constructor
  · rintro (⟨key, ⟨element, hmem, hkey⟩, hcontact⟩ | ⟨text, ⟨element, hmem, htext⟩, hcontact⟩)
    · exact ⟨element, hmem, .inl ⟨key, hkey, hcontact⟩⟩
    · exact ⟨element, hmem, .inr ⟨text, htext, hcontact⟩⟩
  · rintro ⟨element, hmem, ⟨key, hkey, hcontact⟩ | ⟨text, htext, hcontact⟩⟩
    · exact .inl ⟨key, ⟨element, hmem, hkey⟩, hcontact⟩
    · exact .inr ⟨text, ⟨element, hmem, htext⟩, hcontact⟩

theorem hasContact_object {fields : List (CodeUnits × JsValue)} :
    HasContact (.object fields) ↔
      (∃ field ∈ fields, isContactKey field.1 = true) ∨ ∃ field ∈ fields, HasContact field.2 := by
  simp only [HasContact, keysOf, textsOf, mem_fieldKeys, mem_fieldTextsOf]
  constructor
  · rintro (⟨key, ⟨field, hmem, rfl⟩ | ⟨field, hmem, hkey⟩, hcontact⟩ |
      ⟨text, ⟨field, hmem, htext⟩, hcontact⟩)
    · exact .inl ⟨field, hmem, hcontact⟩
    · exact .inr ⟨field, hmem, .inl ⟨key, hkey, hcontact⟩⟩
    · exact .inr ⟨field, hmem, .inr ⟨text, htext, hcontact⟩⟩
  · rintro (⟨field, hmem, hcontact⟩ |
      ⟨field, hmem, ⟨key, hkey, hcontact⟩ | ⟨text, htext, hcontact⟩⟩)
    · exact .inl ⟨field.1, .inl ⟨field, hmem, rfl⟩, hcontact⟩
    · exact .inl ⟨key, .inr ⟨field, hmem, hkey⟩, hcontact⟩
    · exact .inr ⟨text, ⟨field, hmem, htext⟩, hcontact⟩

theorem not_hasContact {value : JsValue} (hkeys : keysOf value = []) (htexts : textsOf value = []) :
    ¬HasContact value := by
  simp [HasContact, hkeys, htexts]

omit [Strings] in
theorem exists_mapped {fields : List (CodeUnits × JsValue)} {holds : JsValue → Prop} :
    (∃ value, (∃ field ∈ fields, field.2 = value) ∧ holds value) ↔
      ∃ field ∈ fields, holds field.2 := by
  constructor
  · rintro ⟨_, ⟨field, hmem, rfl⟩, h⟩
    exact ⟨field, hmem, h⟩
  · rintro ⟨field, hmem, h⟩
    exact ⟨field.2, ⟨field, hmem, rfl⟩, h⟩

/-- What is pending decides: a contact in it, or more of it than there are visits left. -/
theorem scanPending_iff {visits : Nat} {pending : List JsValue} :
    scanPending visits pending = true ↔
      (∃ value ∈ pending, HasContact value) ∨ visits < elementNodes pending := by
  induction visits generalizing pending with
  | zero =>
      cases pending with
      | nil => simp [scanPending, elementNodes]
      | cons current pending =>
          have hpos := nodes_pos current
          simp only [scanPending, elementNodes, true_iff]
          exact .inr (by omega)
  | succ visits ih =>
      cases pending with
      | nil => simp [scanPending, elementNodes]
      | cons current pending =>
          rw [List.exists_mem_cons_iff, elementNodes]
          cases current with
          | string text =>
              simp only [scanPending, hasContact_string, nodes]
              split
              · rename_i hcontact
                simp [hcontact]
              · rename_i hclean
                rw [ih]
                simp only [hclean, Bool.false_eq_true, false_or]
                exact or_congr_right (by omega)
          | array elements =>
              simp only [scanPending, hasContact_array, nodes]
              rw [ih, elementNodes_append, elementNodes_reverse]
              simp only [List.mem_append, List.mem_reverse, or_and_right, exists_or]
              exact or_congr_right (by omega)
          | object fields =>
              simp only [scanPending, hasContact_object, nodes, fieldNodes_eq]
              split
              · rename_i hcontact
                obtain ⟨field, hmem, hkey⟩ := List.any_eq_true.mp hcontact
                exact iff_of_true rfl (.inl (.inl (.inl ⟨field, hmem, hkey⟩)))
              · rename_i hclean
                have hkeys : ¬∃ field ∈ fields, isContactKey field.1 = true := by
                  rintro ⟨field, hmem, hkey⟩
                  exact hclean (List.any_eq_true.mpr ⟨field, hmem, hkey⟩)
                rw [ih, elementNodes_append, elementNodes_reverse, or_iff_right hkeys]
                simp only [List.mem_append, List.mem_reverse, List.mem_map, or_and_right, exists_or]
                rw [exists_mapped]
                exact or_congr_right (by omega)
          | _ =>
              rw [or_iff_right (not_hasContact rfl rfl)]
              simp only [scanPending, nodes]
              rw [ih]
              exact or_congr_right (by omega)

/-- The traversal with its limit agrees with the recursion over the whole value. -/
theorem containsContactMaterial_iff {value : JsValue} :
    containsContactMaterial value = true ↔ HasContact value ∨ maxVisits < nodes value := by
  rw [containsContactMaterial, scanPending_iff]
  simp [elementNodes]

end Recursion

/-! ## Candidates -/

structure RetrievalCandidate where
  assetId : Option CodeUnits
  offerId : Option CodeUnits
  displayName : Option CodeUnits
  attributes : Option JsValue
  terms : Option JsValue
  score : JsNumber
  reasons : List CodeUnits
  risks : Option (List CodeUnits)
  metadata : Option JsValue

structure RetrievalProvider where
  id : CodeUnits
  version : CodeUnits
  /-- Left out, null, or a name. -/
  model : JsValue

structure RetrievalResult where
  requestId : CodeUnits
  provider : RetrievalProvider
  candidates : List RetrievalCandidate
  degraded : Bool
  /-- Left out, null, or a date. -/
  generatedAt : JsValue

def isBoundedString (value : JsValue) (maximum : Nat) : Bool :=
  match value with
  | .string text => 1 ≤ text.length ∧ text.length ≤ maximum
  | _ => false

/-- The first key that is not allowed; an empty one is overlooked with all that come after it. -/
def checkKeys (allowed : List String) (message : String) (value : JsValue) : ParseResult PUnit :=
  match value with
  | .object fields =>
      match (fields.map Prod.fst).find? fun key => key ∉ allowed.map units with
      | some (unit :: rest) => .error (units message ++ unit :: rest)
      | _ => .ok ⟨⟩
  | _ => .ok ⟨⟩

def optionally (check : JsValue → Bool) (value : JsValue) : Bool := value.isUndefined || check value

def isUuidValue : JsValue → Bool
  | .string text => isUuid text
  | _ => false

def isScore : JsValue → Bool
  | .number (.finite score) => -1 ≤ score ∧ score ≤ 1
  | .number .negativeZero => true
  | _ => false

/-- At most 32 texts that are not blank. -/
def isTextList : JsValue → Bool
  | .array elements => elements.length ≤ 32 ∧
      elements.all fun element => isBoundedString element 500 ∧ Router.trim (textOf element) ≠ []
  | _ => false

/-- `retrieval candidate ${index} ...`. -/
def candidateFailure {α : Type} (index : Nat) (problem : String) : ParseResult α :=
  failure s!"retrieval candidate {index} {problem}"

section Parsing

variable [NumberText]

def isWithinJsonBytes (value : JsValue) (maximum : Nat) : Bool :=
  (bytesOfUnits value.text).length ≤ maximum

def maxMetadataBytes : Nat := 32 * 1024

def isMetadata (value : JsValue) : Bool :=
  isRecord value && isWithinJsonBytes value maxMetadataBytes

/-- The checks of a candidate but the one for contact material. -/
def checkCandidate (value : JsValue) (index : Nat) : ParseResult PUnit :=
  if isRecord value = false then candidateFailure index "must be an object"
  else do
    checkKeys ["asset_id", "offer_id", "display_name", "attributes", "terms", "score", "reasons",
      "risks", "metadata"] "retrieval candidate contains an unsupported field: " value
    let field (name : String) : JsValue := value.get (units name)
    if (field "asset_id").isUndefined ∧ (field "offer_id").isUndefined then
      candidateFailure index "must include asset_id or offer_id"
    else if optionally isUuidValue (field "asset_id") = false then
      candidateFailure index "asset_id must be a UUID"
    else if optionally isUuidValue (field "offer_id") = false then
      candidateFailure index "offer_id must be a UUID"
    else if optionally (isBoundedString · 500) (field "display_name") = false then
      candidateFailure index "display_name is invalid"
    else if isScore (field "score") = false then candidateFailure index "score is invalid"
    else if isTextList (field "reasons") = false then candidateFailure index "reasons are invalid"
    else if optionally isTextList (field "risks") = false then
      candidateFailure index "risks are invalid"
    else if optionally isMetadata (field "attributes") = false then
      candidateFailure index "attributes is invalid"
    else if optionally isMetadata (field "terms") = false then
      candidateFailure index "terms is invalid"
    else if optionally isMetadata (field "metadata") = false then
      candidateFailure index "metadata is invalid"
    else pure ⟨⟩

end Parsing

def textField : JsValue → Option CodeUnits
  | .string text => some text
  | _ => none

def valueField (value : JsValue) : Option JsValue := if value.isUndefined then none else some value

def textList : JsValue → List CodeUnits
  | .array elements => elements.filterMap textField
  | _ => []

def scoreOf : JsValue → JsNumber
  | .number score => score
  | _ => .nan

/-- What is copied of a candidate that has been checked. -/
def candidateOf (value : JsValue) : RetrievalCandidate :=
  let field (name : String) : JsValue := value.get (units name)
  {
    assetId := textField (field "asset_id")
    offerId := textField (field "offer_id")
    displayName := textField (field "display_name")
    attributes := valueField (field "attributes")
    terms := valueField (field "terms")
    score := scoreOf (field "score")
    reasons := textList (field "reasons")
    risks := (valueField (field "risks")).map textList
    metadata := valueField (field "metadata")
  }

section Results

variable [NumberText] [Strings]

def parseCandidate (value : JsValue) (index : Nat) : ParseResult RetrievalCandidate := do
  checkCandidate value index
  if containsContactMaterial value then
    candidateFailure index
      "contains contact material; use the consent-gated introduction flow"
  else pure (candidateOf value)

def parseCandidates : Nat → List JsValue → ParseResult (List RetrievalCandidate)
  | _, [] => .ok []
  | index, value :: rest => do
      let candidate ← parseCandidate value index
      let candidates ← parseCandidates (index + 1) rest
      pure (candidate :: candidates)

/-- A number of candidates that is greater than `Math.min(100, limit)`. -/
def exceeds (count : Nat) : JsNumber → Bool
  | .finite limit => 100 < count ∨ limit < count
  | .negativeZero => 0 < count
  | .infinite negative => negative ∨ 100 < count
  | .nan => false

def isNullOr (check : JsValue → Bool) : JsValue → Bool
  | .undefined => true
  | .null => true
  | value => check value

/-- The provider of a result. -/
def parseProvider (provider : JsValue) : ParseResult RetrievalProvider :=
  let field (name : String) : JsValue := provider.get (units name)
  if isRecord provider = false then failure "retrieval provider metadata is required"
  else if isBoundedString (field "id") 128 = false ∨ isServerKey (textOf (field "id")) = false then
    failure "retrieval provider id is invalid"
  else if isBoundedString (field "version") 128 = false then
    failure "retrieval provider version is invalid"
  else if isNullOr (isBoundedString · 200) (field "model") = false then
    failure "retrieval provider model is invalid"
  else .ok ⟨textOf (field "id"), textOf (field "version"), field "model"⟩

/-- The elements of an array that is not too long. -/
def candidateValues (limit : JsNumber) : JsValue → ParseResult (List JsValue)
  | .array elements =>
      if exceeds elements.length limit then
        failure "retrieval candidates exceed the requested limit"
      else .ok elements
  | _ => failure "retrieval candidates exceed the requested limit"

def parseRetrievalResult (value : JsValue) (requestId : CodeUnits) (limit : JsNumber) :
    ParseResult RetrievalResult :=
  let field (name : String) : JsValue := value.get (units name)
  if isRecord value = false then failure "retrieval provider result must be a JSON object"
  else do
    checkKeys ["protocol", "request_id", "provider", "candidates", "degraded", "generated_at"]
      "retrieval provider result contains an unsupported field: " value
    if Federation.isText (units "matchplane.retrieval/v1") (field "protocol") = false then
      failure "retrieval provider returned an unsupported protocol"
    else if Federation.isText requestId (field "request_id") = false then
      failure "retrieval provider request_id does not match"
    else do
      let provider ← parseProvider (field "provider")
      let values ← candidateValues limit (field "candidates")
      let candidates ← parseCandidates 0 values
      if isBoolean (field "degraded") = false then failure "retrieval degraded must be boolean"
      else if isNullOr (fun date => isBoundedString date 80 && Strings.isDate (textOf date))
          (field "generated_at") = false then
        failure "generated_at must be a valid date-time or null"
      else pure {
        requestId
        provider
        candidates
        degraded := boolOf (field "degraded")
        generatedAt := field "generated_at"
      }

end Results

/-! ## What is accepted has no contacts -/

/-- The objects of a candidate. -/
def RetrievalCandidate.objects (candidate : RetrievalCandidate) : List JsValue :=
  candidate.attributes.toList ++ candidate.terms.toList ++ candidate.metadata.toList

/-- The strings in the fields of a candidate, at any depth. -/
def RetrievalCandidate.texts (candidate : RetrievalCandidate) : List CodeUnits :=
  candidate.assetId.toList ++ candidate.offerId.toList ++ candidate.displayName.toList ++
    candidate.reasons ++ candidate.risks.getD [] ++ candidate.objects.flatMap textsOf

theorem field_of_defined {value : JsValue} {name : CodeUnits}
    (h : (value.get name).isUndefined = false) :
    ∃ fields, value = .object fields ∧ (name, value.get name) ∈ fields := by
  cases value with
  | object fields =>
      refine ⟨fields, rfl, ?_⟩
      cases hlookup : fields.lookup name with
      | none => simp [JsValue.get, hlookup, JsValue.isUndefined] at h
      | some found =>
          rw [JsValue.get, hlookup]
          exact mem_of_lookup_eq_some hlookup
  | _ => cases h

theorem mem_keysOf_get {value : JsValue} {name key : CodeUnits}
    (h : key ∈ keysOf (value.get name)) : key ∈ keysOf value := by
  cases hdefined : (value.get name).isUndefined with
  | true =>
      cases hvalue : value.get name with
      | undefined => simp [hvalue, keysOf] at h
      | _ => simp [hvalue, JsValue.isUndefined] at hdefined
  | false =>
      obtain ⟨fields, rfl, hmem⟩ := field_of_defined hdefined
      exact mem_fieldKeys.mpr (.inr ⟨_, hmem, h⟩)

theorem mem_textsOf_get {value : JsValue} {name text : CodeUnits}
    (h : text ∈ textsOf (value.get name)) : text ∈ textsOf value := by
  cases hdefined : (value.get name).isUndefined with
  | true =>
      cases hvalue : value.get name with
      | undefined => simp [hvalue, textsOf] at h
      | _ => simp [hvalue, JsValue.isUndefined] at hdefined
  | false =>
      obtain ⟨fields, rfl, hmem⟩ := field_of_defined hdefined
      exact mem_fieldTextsOf.mpr ⟨_, hmem, h⟩

theorem mem_of_textField {value : JsValue} {text : CodeUnits} (h : textField value = some text) :
    text ∈ textsOf value := by
  cases value with
  | string other =>
      obtain rfl := Option.some.inj h
      exact List.mem_singleton_self _
  | _ => cases h

theorem mem_of_textList {value : JsValue} {text : CodeUnits} (h : text ∈ textList value) :
    text ∈ textsOf value := by
  cases value with
  | array elements =>
      obtain ⟨element, hmem, htext⟩ := List.mem_filterMap.mp h
      exact mem_elementTextsOf.mpr ⟨element, hmem, mem_of_textField htext⟩
  | _ => cases h

theorem eq_of_valueField {value field : JsValue} (h : valueField value = some field) :
    field = value := by
  rw [valueField] at h
  split at h
  · cases h
  · exact (Option.some.inj h).symm

/-- An object of a candidate is a field of the value that it is copied from. -/
theorem eq_get_of_mem_objects {value object : JsValue} (h : object ∈ (candidateOf value).objects) :
    ∃ name, object = value.get name := by
  simp only [RetrievalCandidate.objects, candidateOf, List.mem_append,
    Option.mem_toList] at h
  rcases h with (h | h) | h
  · exact ⟨_, eq_of_valueField h⟩
  · exact ⟨_, eq_of_valueField h⟩
  · exact ⟨_, eq_of_valueField h⟩

/-- What is copied to a candidate was in the value. -/
theorem mem_textsOf_of_candidate {value : JsValue} {text : CodeUnits}
    (h : text ∈ (candidateOf value).texts) : text ∈ textsOf value := by
  simp only [RetrievalCandidate.texts, List.mem_append] at h
  rcases h with ((((h | h) | h) | h) | h) | h
  · exact mem_textsOf_get (mem_of_textField (Option.mem_toList.mp h))
  · exact mem_textsOf_get (mem_of_textField (Option.mem_toList.mp h))
  · exact mem_textsOf_get (mem_of_textField (Option.mem_toList.mp h))
  · exact mem_textsOf_get (mem_of_textList h)
  · cases hrisks : (candidateOf value).risks with
    | none => simp [hrisks] at h
    | some risks =>
        obtain ⟨field, hfield, rfl⟩ := Option.map_eq_some_iff.mp hrisks
        rw [hrisks, eq_of_valueField hfield] at h
        exact mem_textsOf_get (mem_of_textList h)
  · obtain ⟨object, hobject, htext⟩ := List.mem_flatMap.mp h
    obtain ⟨name, rfl⟩ := eq_get_of_mem_objects hobject
    exact mem_textsOf_get htext

section ContactFree

variable [Strings]

/-- No key of an object, and no string, is about a contact. -/
def RetrievalCandidate.ContactFree (candidate : RetrievalCandidate) : Prop :=
  (∀ object ∈ candidate.objects, ∀ key ∈ keysOf object, isContactKey key = false) ∧
    ∀ text ∈ candidate.texts, isContactText text = false

theorem contactFree_of_not_hasContact {value : JsValue} (h : ¬HasContact value) :
    (candidateOf value).ContactFree := by
  rw [HasContact, not_or] at h
  constructor
  · intro object hobject key hkey
    obtain ⟨name, rfl⟩ := eq_get_of_mem_objects hobject
    by_contra hcontact
    exact h.1 ⟨key, mem_keysOf_get hkey, by simpa using hcontact⟩
  · intro text htext
    by_contra hcontact
    exact h.2 ⟨text, mem_textsOf_of_candidate htext, by simpa using hcontact⟩

variable [NumberText]

theorem contactFree_of_parsed {value : JsValue} {index : Nat} {candidate : RetrievalCandidate}
    (h : parseCandidate value index = .ok candidate) : candidate.ContactFree := by
  obtain ⟨_, _, h⟩ := bind_eq_ok_iff.mp h
  split at h
  · cases h
  · rename_i hclean
    obtain rfl := Except.ok.inj h
    refine contactFree_of_not_hasContact fun hcontact => hclean ?_
    exact containsContactMaterial_iff.mpr (.inl hcontact)

theorem contactFree_of_parsedAll {values : List JsValue} {index : Nat}
    {candidates : List RetrievalCandidate} (h : parseCandidates index values = .ok candidates) :
    ∀ candidate ∈ candidates, candidate.ContactFree := by
  induction values generalizing index candidates with
  | nil =>
      cases h
      simp
  | cons value rest ih =>
      obtain ⟨candidate, hcandidate, h⟩ := bind_eq_ok_iff.mp h
      obtain ⟨others, hothers, h⟩ := bind_eq_ok_iff.mp h
      obtain rfl := Except.ok.inj h
      rw [List.forall_mem_cons]
      exact ⟨contactFree_of_parsed hcandidate, ih hothers⟩

theorem candidates_of_parsed {value : JsValue} {requestId : CodeUnits} {limit : JsNumber}
    {result : RetrievalResult} (h : parseRetrievalResult value requestId limit = .ok result) :
    ∃ values, parseCandidates 0 values = .ok result.candidates := by
  unfold parseRetrievalResult at h
  dsimp only at h
  rw [guard_eq_ok_iff] at h
  obtain ⟨_, _, h⟩ := bind_eq_ok_iff.mp h.2
  rw [guard_eq_ok_iff, guard_eq_ok_iff] at h
  obtain ⟨provider, _, h⟩ := bind_eq_ok_iff.mp h.2.2
  obtain ⟨values, _, h⟩ := bind_eq_ok_iff.mp h
  obtain ⟨candidates, hcandidates, h⟩ := bind_eq_ok_iff.mp h
  rw [guard_eq_ok_iff, guard_eq_ok_iff] at h
  obtain rfl := Except.ok.inj h.2.2
  exact ⟨values, hcandidates⟩

/-- A result that is accepted has no contacts in its candidates; and a candidate that is in
order is refused exactly when there is a contact in it, or when it is too large to be searched. -/
theorem parseRetrievalResult_contactFree :
    (∀ (value : JsValue) (requestId : CodeUnits) (limit : JsNumber) (result : RetrievalResult),
      parseRetrievalResult value requestId limit = .ok result →
        ∀ candidate ∈ result.candidates, candidate.ContactFree) ∧
    (∀ (value : JsValue) (index : Nat), checkCandidate value index = .ok ⟨⟩ →
      ((∃ error, parseCandidate value index = .error error) ↔
        (∃ key ∈ keysOf value, isContactKey key = true) ∨
          (∃ text ∈ textsOf value, isContactText text = true) ∨ maxVisits < nodes value)) := by
  constructor
  · intro value requestId limit result h
    obtain ⟨values, hvalues⟩ := candidates_of_parsed h
    exact contactFree_of_parsedAll hvalues
  · intro value index hcheck
    rw [parseCandidate, hcheck, ← or_assoc, ← HasContact, ← containsContactMaterial_iff]
    change (∃ error, ite _ _ _ = _) ↔ _
    split
    · rename_i hcontact
      exact iff_of_true ⟨_, rfl⟩ hcontact
    · rename_i hclean
      refine iff_of_false ?_ hclean
      rintro ⟨error, herror⟩
      cases herror

end ContactFree

example : isContactText (units "mail a.b@example.org now") = true := by decide +kernel

example : isContactText (units "WeChat id: abcde") = true := by decide +kernel

end MatchPlane.Retrieval
