import MatchPlane.Router.Configurations

/-!
# Generations

What a generation of the platform router holds besides its configurations, how it is
written as JSON, and how it is decoded.
-/

namespace MatchPlane.Router

open MatchPlane.Library MatchPlane.JavaScript

/-! ## Audit records -/

inductive AuditAction where
  | stage
  | test
  | activate
  deriving DecidableEq, Repr

def AuditAction.text : AuditAction → CodeUnits
  | stage => units "stage"
  | test => units "test"
  | activate => units "activate"

def normalizeAuditAction (value : JsValue) : Except RouterError AuditAction :=
  if textOf value = units "stage" then .ok .stage
  else if textOf value = units "test" then .ok .test
  else if textOf value = units "activate" then .ok .activate
  else .error (.plain "AI 配置审计动作无效")

theorem normalizeAuditAction_text (action : AuditAction) :
    normalizeAuditAction (.string action.text) = .ok action := by
  cases action
  all_goals
    unfold normalizeAuditAction
    decide +kernel

def normalizeAuditEventId (value : JsValue) : Except RouterError RouterId :=
  match readUuid value with
  | some id => .ok id
  | none => .error (.plain "AI 配置审计事件 ID 无效")

section AuditRecords

variable [UrlParser]

/-- An endpoint that is an origin. -/
structure EndpointOrigin extends Endpoint where
  isOrigin : (UrlParser.parse text).map Url.origin = some text
  deriving DecidableEq

theorem endpointOf_origin {text endpoint : CodeUnits} {url : Url}
    (h : endpointOf text = some endpoint) (hparse : UrlParser.parse text = some url) :
    trim url.origin = url.origin ∧ endpointOf url.origin = some url.origin ∧
      (UrlParser.parse url.origin).map Url.origin = some url.origin := by
  obtain ⟨other, hother, haccepted, _⟩ := endpointOf_eq_some_iff.mp h
  obtain rfl : url = other := Option.some.inj (hparse.symm.trans hother)
  have hbase := (isRefusedUrl_eq_false_iff.mp haccepted).1
  have horigin := UrlParser.parse_origin text url hparse hbase
  refine ⟨?_, ?_, by rw [horigin]; rfl⟩
  · apply trim_of_not_blank
    intro unit hunit
    exact UrlParser.not_blank text url hparse hbase unit (List.mem_append_left _ hunit)
  · rw [endpointOf_eq_some_iff]
    refine ⟨url.withPath [], horigin, isRefusedUrl_withPath haccepted (Nat.zero_le _), ?_⟩
    have hpath : stripSlashes (url.withPath []).pathname = [] := rfl
    rw [hpath, List.append_nil]
    rfl

/-- The origin of an endpoint. -/
def Endpoint.origin (endpoint : Endpoint) : EndpointOrigin :=
  match h : UrlParser.parse endpoint.text with
  | some url =>
      let hnormal := endpointOf_origin endpoint.normal h
      ⟨⟨url.origin, hnormal.1, hnormal.2.1⟩, hnormal.2.2⟩
  | none => absurd endpoint.normal (by simp [endpointOf, h])

theorem Endpoint.origin_of_parse {endpoint : Endpoint} {url : Url}
    (h : UrlParser.parse endpoint.text = some url) : endpoint.origin.text = url.origin := by
  unfold Endpoint.origin
  split
  case h_1 other hother =>
    rw [h] at hother
    cases hother
    rfl
  case h_2 hnone =>
    rw [h] at hnone
    cases hnone

/-- An origin is its own origin. -/
theorem EndpointOrigin.origin_text (origin : EndpointOrigin) :
    origin.toEndpoint.origin = origin := by
  obtain ⟨url, hparse, hsame⟩ := Option.map_eq_some_iff.mp origin.isOrigin
  have htext : origin.toEndpoint.origin.text = origin.text :=
    (Endpoint.origin_of_parse hparse).trans hsame
  obtain ⟨⟨text, htrimmed, hnormal⟩, hisOrigin⟩ := origin
  generalize (⟨text, htrimmed, hnormal⟩ : Endpoint).origin = other at htext
  obtain ⟨⟨text', htrimmed', hnormal'⟩, hisOrigin'⟩ := other
  cases htext
  rfl

def auditEndpointOrigin (value : JsValue) (requireOrigin : Bool) :
    Except RouterError EndpointOrigin :=
  match normalizeEndpoint value with
  | .error _ => .error (.plain "AI 配置审计端点无效")
  | .ok endpoint =>
      if requireOrigin ∧ endpoint.origin.text ≠ endpoint.text then
        .error (.plain "AI 配置审计端点无效")
      else .ok endpoint.origin

theorem auditEndpointOrigin_text (origin : EndpointOrigin) :
    auditEndpointOrigin (.string origin.text) true = .ok origin := by
  rw [auditEndpointOrigin, normalizeEndpoint_text]
  simp [origin.origin_text]

structure PlatformRouterAuditRecord where
  eventId : RouterId
  at_ : IsoInstant
  action : AuditAction
  actor : AuditText
  requestId : AuditText
  endpointOrigin : EndpointOrigin
  model : BoundedText 256
  enabled : Bool
  keyChanged : Bool
  deriving DecidableEq

namespace PlatformRouterAuditRecord

variable (record : PlatformRouterAuditRecord)

def fields : List (CodeUnits × JsValue) :=
  [(units "eventId", .string record.eventId.text), (units "at", .string record.at_.text),
    (units "action", .string record.action.text), (units "actor", .string record.actor.text),
    (units "requestId", .string record.requestId.text),
    (units "endpointOrigin", .string record.endpointOrigin.text),
    (units "model", .string record.model.text), (units "enabled", .bool record.enabled),
    (units "keyChanged", .bool record.keyChanged)]

def value : JsValue := .object record.fields

theorem nodup_fields : (record.fields.map Prod.fst).Nodup := by
  change ([units "eventId", units "at", units "action", units "actor", units "requestId",
    units "endpointOrigin", units "model", units "enabled",
    units "keyChanged"] : List CodeUnits).Nodup
  decide +kernel

theorem isJson_value : record.value.IsJson :=
  ⟨record.nodup_fields, trivial, trivial, trivial, trivial, trivial, trivial, trivial, trivial,
    trivial, trivial⟩

end PlatformRouterAuditRecord

def isAuditRecord (value : JsValue) : Bool :=
  isRecord value ∧ isIsoInstant (textOf (value.get (units "at"))) ∧
    isString (value.get (units "actor")) ∧ isString (value.get (units "requestId")) ∧
    isString (value.get (units "endpointOrigin")) ∧ isString (value.get (units "model")) ∧
    isBoolean (value.get (units "enabled")) ∧ isBoolean (value.get (units "keyChanged"))

def decodePlatformRouterAuditRecord (value : JsValue) :
    Except RouterError PlatformRouterAuditRecord :=
  if h : isAuditRecord value = true then do
    let endpointOrigin ← auditEndpointOrigin (value.get (units "endpointOrigin")) true
    let eventId ← normalizeAuditEventId (value.get (units "eventId"))
    let action ← normalizeAuditAction (value.get (units "action"))
    let actor ← boundedAuditText (textOf (value.get (units "actor"))) "actor"
    let requestId ← boundedAuditText (textOf (value.get (units "requestId"))) "request id"
    let model ← boundedText (value.get (units "model")) "模型" 256
    let at_ : IsoInstant := ⟨textOf (value.get (units "at")), by
      simp only [isAuditRecord, decide_eq_true_eq] at h
      exact h.2.1⟩
    let enabled := boolOf (value.get (units "enabled"))
    let keyChanged := boolOf (value.get (units "keyChanged"))
    pure { eventId, at_, action, actor, requestId, endpointOrigin, model, enabled, keyChanged }
  else .error (.plain "AI 配置审计记录无效")

theorem decodePlatformRouterAuditRecord_value (record : PlatformRouterAuditRecord) :
    decodePlatformRouterAuditRecord record.value = .ok record := by
  have hget : ∀ key value, (key, value) ∈ record.fields → record.value.get key = value :=
    fun key value h => get_of_mem record.nodup_fields h
  have heventId := hget (units "eventId") (.string record.eventId.text)
    (by simp [PlatformRouterAuditRecord.fields])
  have hat := hget (units "at") (.string record.at_.text)
    (by simp [PlatformRouterAuditRecord.fields])
  have haction := hget (units "action") (.string record.action.text)
    (by simp [PlatformRouterAuditRecord.fields])
  have hactor := hget (units "actor") (.string record.actor.text)
    (by simp [PlatformRouterAuditRecord.fields])
  have hrequest := hget (units "requestId") (.string record.requestId.text)
    (by simp [PlatformRouterAuditRecord.fields])
  have hendpoint := hget (units "endpointOrigin") (.string record.endpointOrigin.text)
    (by simp [PlatformRouterAuditRecord.fields])
  have hmodel := hget (units "model") (.string record.model.text)
    (by simp [PlatformRouterAuditRecord.fields])
  have henabled := hget (units "enabled") (.bool record.enabled)
    (by simp [PlatformRouterAuditRecord.fields])
  have hkey := hget (units "keyChanged") (.bool record.keyChanged)
    (by simp [PlatformRouterAuditRecord.fields])
  have hrecord : isAuditRecord record.value = true := by
    simp only [isAuditRecord, hat, hactor, hrequest, hendpoint, hmodel, henabled, hkey,
      decide_eq_true_eq]
    exact ⟨rfl, record.at_.valid, rfl, rfl, rfl, rfl, rfl, rfl⟩
  have hevent : normalizeAuditEventId (.string record.eventId.text) = .ok record.eventId := by
    rw [normalizeAuditEventId, readUuid_text]
  rw [decodePlatformRouterAuditRecord, dif_pos hrecord]
  simp only [hat, hactor, hrequest, hendpoint, hmodel, henabled, hkey, heventId, haction, textOf,
    auditEndpointOrigin_text, hevent, normalizeAuditAction_text, boundedAuditText_text,
    boundedText_text, bind, Except.bind, boolOf]
  rfl

end AuditRecords

/-! ## Generations -/

def maxPendingAuditRecords : Nat := 1024

def parentValue : Option RouterId → JsValue
  | none => .null
  | some parent => .string parent.text

def decodeParent (value : JsValue) : Except RouterError (Option RouterId) :=
  if isNull value then .ok none else (normalizeUuid value).map some

theorem decodeParent_value (parent : Option RouterId) :
    decodeParent (parentValue parent) = .ok parent := by
  cases parent with
  | none => rfl
  | some id =>
      change (normalizeUuid (.string id.text)).map some = _
      rw [normalizeUuid_text]
      rfl

/-- `=== 1`. -/
def isVersionOne : JsValue → Bool
  | .number (.finite value) => value = 1
  | _ => false

/-- The record of a generation of which the parts are not decoded. -/
structure GenerationParts where
  generationId : JsValue
  parentGenerationId : JsValue
  committedAt : JsValue
  active : JsValue
  draft : JsValue
  pendingAudit : JsValue

namespace GenerationParts

variable (parts : GenerationParts)

def fields : List (CodeUnits × JsValue) :=
  [(units "schemaVersion", integerValue 1), (units "generationId", parts.generationId),
    (units "parentGenerationId", parts.parentGenerationId),
    (units "committedAt", parts.committedAt), (units "active", parts.active),
    (units "draft", parts.draft), (units "pendingAudit", parts.pendingAudit)]

def value : JsValue := .object parts.fields

theorem nodup_fields : (parts.fields.map Prod.fst).Nodup := by
  change ([units "schemaVersion", units "generationId", units "parentGenerationId",
    units "committedAt", units "active", units "draft",
    units "pendingAudit"] : List CodeUnits).Nodup
  decide +kernel

end GenerationParts

section Generations

variable [UrlParser]

/-- The audit records that have to be delivered, each event once. -/
structure PendingAudit where
  records : List PlatformRouterAuditRecord
  bounded : records.length ≤ maxPendingAuditRecords
  distinct : (records.map PlatformRouterAuditRecord.eventId).Nodup
  deriving DecidableEq

def PendingAudit.none : PendingAudit := ⟨[], Nat.zero_le _, List.nodup_nil⟩

def auditValues (records : List PlatformRouterAuditRecord) : JsValue :=
  .array (records.map PlatformRouterAuditRecord.value)

def decodeAuditRecords : List JsValue → Except RouterError (List PlatformRouterAuditRecord)
  | [] => .ok []
  | value :: rest => do
      let record ← decodePlatformRouterAuditRecord value
      let records ← decodeAuditRecords rest
      pure (record :: records)

theorem decodeAuditRecords_values (records : List PlatformRouterAuditRecord) :
    decodeAuditRecords (records.map PlatformRouterAuditRecord.value) = .ok records := by
  induction records with
  | nil => rfl
  | cons record rest ih =>
      rw [List.map_cons, decodeAuditRecords, decodePlatformRouterAuditRecord_value, ih]
      rfl

theorem length_decodeAuditRecords {values : List JsValue}
    {records : List PlatformRouterAuditRecord} (h : decodeAuditRecords values = .ok records) :
    records.length = values.length := by
  induction values generalizing records with
  | nil =>
      cases h
      rfl
  | cons value rest ih =>
      obtain ⟨record, _, hrest⟩ := bind_eq_ok_iff.mp h
      obtain ⟨others, hothers, hrecords⟩ := bind_eq_ok_iff.mp hrest
      cases hrecords
      rw [List.length_cons, List.length_cons, ih hothers]

def decodePendingAudit (values : List JsValue) : Except RouterError PendingAudit :=
  if hbounded : values.length ≤ maxPendingAuditRecords then
    match hrecords : decodeAuditRecords values with
    | .error error => .error error
    | .ok records =>
        if hdistinct : (records.map PlatformRouterAuditRecord.eventId).Nodup then
          .ok ⟨records, (length_decodeAuditRecords hrecords).trans_le hbounded, hdistinct⟩
        else .error (.validation "AI 配置待投影审计事件重复")
  else .error (.validation "AI 配置待投影审计事件过多")

theorem decodePendingAudit_values (pending : PendingAudit) :
    decodePendingAudit (pending.records.map PlatformRouterAuditRecord.value) = .ok pending := by
  have hlength : (pending.records.map PlatformRouterAuditRecord.value).length ≤
      maxPendingAuditRecords := by
    rw [List.length_map]
    exact pending.bounded
  have hread := decodeAuditRecords_values pending.records
  rw [decodePendingAudit, dif_pos hlength]
  split
  case h_1 error herror =>
    rw [hread] at herror
    cases herror
  case h_2 records hrecords =>
    rw [hread] at hrecords
    cases hrecords
    exact dif_pos pending.distinct

/-- Only what has been decoded is pending. -/
theorem decodePendingAudit_records {values : List JsValue} {pending : PendingAudit}
    (h : decodePendingAudit values = .ok pending) :
    decodeAuditRecords values = .ok pending.records := by
  unfold decodePendingAudit at h
  split at h
  case isFalse => cases h
  case isTrue =>
    split at h
    case h_1 => cases h
    case h_2 records hrecords =>
      split at h
      case isFalse => cases h
      case isTrue =>
        cases h
        exact hrecords

structure PlatformRouterGeneration where
  generationId : RouterId
  parentGenerationId : Option RouterId
  committedAt : IsoInstant
  active : Option NormalizedStoredRouterConfig
  draft : Option StoredRouterDraft
  pendingAudit : PendingAudit
  deriving DecidableEq

namespace PlatformRouterGeneration

variable (generation : PlatformRouterGeneration)

def parts : GenerationParts where
  generationId := .string generation.generationId.text
  parentGenerationId := parentValue generation.parentGenerationId
  committedAt := .string generation.committedAt.text
  active := configValue generation.active
  draft := draftValue generation.draft
  pendingAudit := auditValues generation.pendingAudit.records

def value : JsValue := generation.parts.value

theorem isJson_value : generation.value.IsJson := by
  have hparent : (parentValue generation.parentGenerationId).IsJson := by
    cases generation.parentGenerationId with
    | none => trivial
    | some parent => trivial
  have haudit : AreJson (generation.pendingAudit.records.map PlatformRouterAuditRecord.value) := by
    induction generation.pendingAudit.records with
    | nil => trivial
    | cons record rest ih => exact ⟨record.isJson_value, ih⟩
  exact ⟨generation.parts.nodup_fields, ⟨1, rfl⟩, trivial, hparent, trivial,
    isJson_configValue _, isJson_draftValue _, haudit, trivial⟩

end PlatformRouterGeneration

def decodeGeneration (value : JsValue) : Except RouterError PlatformRouterGeneration :=
  let parent := value.get (units "parentGenerationId")
  if isRecord value = false ∨ isVersionOne (value.get (units "schemaVersion")) = false ∨
      isString (value.get (units "generationId")) = false ∨
      (isNull parent = false ∧ isString parent = false) ∨
      isString (value.get (units "committedAt")) = false ∨
      isArray (value.get (units "pendingAudit")) = false then
    .error (.validation "AI 配置代际格式无效")
  else do
    let active ← decodeGenerationConfig (value.get (units "active"))
    let draft ← decodeGenerationDraft (value.get (units "draft"))
    let pendingAudit ← decodePendingAudit (elementsOf (value.get (units "pendingAudit")))
    let generationId ← normalizeUuid (value.get (units "generationId"))
    let parentGenerationId ← decodeParent parent
    let committedAt ← normalizeIsoInstant (value.get (units "committedAt"))
    pure { generationId, parentGenerationId, committedAt, active, draft, pendingAudit }

/-- What the parts of a record are decoded to. -/
structure GenerationParts.Decoded (parts : GenerationParts)
    (generation : PlatformRouterGeneration) : Prop where
  generationId : normalizeUuid parts.generationId = .ok generation.generationId
  parentGenerationId : decodeParent parts.parentGenerationId = .ok generation.parentGenerationId
  committedAt : normalizeIsoInstant parts.committedAt = .ok generation.committedAt
  active : decodeGenerationConfig parts.active = .ok generation.active
  draft : decodeGenerationDraft parts.draft = .ok generation.draft
  pendingAudit : decodePendingAudit (elementsOf parts.pendingAudit) = .ok generation.pendingAudit

theorem decodeGeneration_eq_ok_iff {parts : GenerationParts}
    {generation : PlatformRouterGeneration} (hid : isString parts.generationId = true)
    (hparent : isNull parts.parentGenerationId = true ∨ isString parts.parentGenerationId = true)
    (hcommitted : isString parts.committedAt = true) (haudit : isArray parts.pendingAudit = true) :
    decodeGeneration parts.value = .ok generation ↔ parts.Decoded generation := by
  have hget : ∀ key value, (key, value) ∈ parts.fields → parts.value.get key = value :=
    fun key value h => get_of_mem parts.nodup_fields h
  have hversion := hget (units "schemaVersion") (integerValue 1) (by simp [GenerationParts.fields])
  rw [decodeGeneration, hversion,
    hget (units "generationId") parts.generationId (by simp [GenerationParts.fields]),
    hget (units "parentGenerationId") parts.parentGenerationId (by simp [GenerationParts.fields]),
    hget (units "committedAt") parts.committedAt (by simp [GenerationParts.fields]),
    hget (units "active") parts.active (by simp [GenerationParts.fields]),
    hget (units "draft") parts.draft (by simp [GenerationParts.fields]),
    hget (units "pendingAudit") parts.pendingAudit (by simp [GenerationParts.fields]), if_neg]
  · simp only [bind_eq_ok_iff]
    constructor
    · rintro ⟨active, hactive, draft, hdraft, pending, hpending, id, hid, parent, hparent,
        committed, hcommitted, hgeneration⟩
      cases hgeneration
      exact ⟨hid, hparent, hcommitted, hactive, hdraft, hpending⟩
    · rintro ⟨hid, hparent, hcommitted, hactive, hdraft, hpending⟩
      exact ⟨_, hactive, _, hdraft, _, hpending, _, hid, _, hparent, _, hcommitted, rfl⟩
  · rw [hid, hcommitted, haudit]
    rcases hparent with hnull | hstring
    · simp [GenerationParts.value, isRecord, isVersionOne, integerValue, hnull]
    · simp [GenerationParts.value, isRecord, isVersionOne, integerValue, hstring]

theorem decodeGeneration_value (generation : PlatformRouterGeneration) :
    decodeGeneration generation.value = .ok generation := by
  have hparent : isNull generation.parts.parentGenerationId = true ∨
      isString generation.parts.parentGenerationId = true := by
    change isNull (parentValue generation.parentGenerationId) = true ∨
      isString (parentValue generation.parentGenerationId) = true
    cases generation.parentGenerationId with
    | none => exact .inl rfl
    | some parent => exact .inr rfl
  refine (decodeGeneration_eq_ok_iff rfl hparent rfl rfl).mpr ?_
  exact ⟨normalizeUuid_text _, decodeParent_value _, normalizeIsoInstant_text _,
    decodeGenerationConfig_value _, decodeGenerationDraft_value _, decodePendingAudit_values _⟩

end Generations

/-! ## Pointers -/

structure PlatformRouterPointer where
  generationId : RouterId
  sha256 : Digest
  deriving DecidableEq

namespace PlatformRouterPointer

variable (pointer : PlatformRouterPointer)

def fields : List (CodeUnits × JsValue) :=
  [(units "schemaVersion", integerValue 1),
    (units "generationId", .string pointer.generationId.text),
    (units "sha256", .string pointer.sha256.text)]

def value : JsValue := .object pointer.fields

theorem nodup_fields : (pointer.fields.map Prod.fst).Nodup := by
  change ([units "schemaVersion", units "generationId", units "sha256"] : List CodeUnits).Nodup
  decide +kernel

theorem isJson_value : pointer.value.IsJson :=
  ⟨pointer.nodup_fields, ⟨1, rfl⟩, trivial, trivial, trivial⟩

end PlatformRouterPointer

def decodePointer (value : JsValue) : Except RouterError PlatformRouterPointer :=
  match readDigest (value.get (units "sha256")) with
  | none => .error (.validation "AI 配置指针格式无效")
  | some sha256 =>
      if isRecord value = false ∨ isVersionOne (value.get (units "schemaVersion")) = false ∨
          isString (value.get (units "generationId")) = false then
        .error (.validation "AI 配置指针格式无效")
      else do
        let generationId ← normalizeUuid (value.get (units "generationId"))
        pure ⟨generationId, sha256⟩

theorem decodePointer_value (pointer : PlatformRouterPointer) :
    decodePointer pointer.value = .ok pointer := by
  have hversion : pointer.value.get (units "schemaVersion") = integerValue 1 :=
    get_of_mem pointer.nodup_fields (by simp [PlatformRouterPointer.fields])
  have hid : pointer.value.get (units "generationId") = .string pointer.generationId.text :=
    get_of_mem pointer.nodup_fields (by simp [PlatformRouterPointer.fields])
  have hdigest : pointer.value.get (units "sha256") = .string pointer.sha256.text :=
    get_of_mem pointer.nodup_fields (by simp [PlatformRouterPointer.fields])
  rw [decodePointer, hdigest, readDigest_text, hversion, hid]
  dsimp only
  rw [if_neg, normalizeUuid_text]
  · rfl
  · simp [PlatformRouterPointer.value, isRecord, isVersionOne, integerValue, isString]

/-! ## Files of JSON -/

theorem trim_between {first last : UInt16} (hfirst : isBlankUnit first = false)
    (hlast : isBlankUnit last = false) (middle : CodeUnits) :
    trim (first :: (middle ++ [last]) ++ [10]) = first :: (middle ++ [last]) := by
  have hstart : (first :: (middle ++ [last]) ++ [10]).dropWhile isBlankUnit =
      first :: (middle ++ [last]) ++ [10] := by
    rw [List.cons_append, List.dropWhile_cons_of_neg (by simp [hfirst])]
  rw [trim, hstart, List.rdropWhile_concat_pos _ _ _ (by decide), List.rdropWhile_eq_self_iff]
  intro hne
  rw [List.getLast_cons (by simp), List.getLast_append_singleton]
  simp [hlast]

section Files

variable [NumberText]

/-- The text of a value and a new line, as bytes. -/
def jsonBytes (value : JsValue) : List UInt8 := bytesOfUnits (value.text ++ [10])

def parseStrictJson (bytes : List UInt8) : Except RouterError JsValue :=
  let raw := trim (unitsOfBytes bytes)
  if raw = [] then .error (.plain "empty JSON")
  else match parseJson raw with
    | some value => .ok value
    | none => .error (.plain "malformed JSON")

/-- The bytes of a record are read as that record. -/
theorem parseStrictJson_bytes {fields : List (CodeUnits × JsValue)}
    (h : (JsValue.object fields).IsJson) :
    parseStrictJson (jsonBytes (.object fields)) = .ok (.object fields) := by
  have hwf : WellFormed ((JsValue.object fields).text ++ [10]) :=
    (wellFormed_text _).append (wellFormed_of_lt (List.forall_mem_singleton.mpr (by decide)))
  have htext : (JsValue.object fields).text = 123 :: (joinParts (fieldTexts fields) ++ [125]) := by
    rw [JsValue.text]
  have hraw : trim (unitsOfBytes (jsonBytes (.object fields))) = (JsValue.object fields).text := by
    rw [jsonBytes, unitsOfBytes_bytesOfUnits hwf, htext]
    exact trim_between (by decide) (by decide) _
  have hne : (JsValue.object fields).text ≠ [] := by
    rw [htext]
    exact List.cons_ne_nil _ _
  simp only [parseStrictJson, hraw]
  rw [if_neg hne, parseJson_text h]

end Files

end MatchPlane.Router
