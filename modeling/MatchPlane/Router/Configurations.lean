import MatchPlane.Router.Contract

/-!
# Configurations and drafts

What a stored configuration and a draft of one hold, how they are written as records, and
how they are read from them.
-/

namespace MatchPlane.Router

open MatchPlane.Library MatchPlane.JavaScript

/-! ## Records -/

def isRecord : JsValue → Bool
  | .object _ => true
  | _ => false

def isString : JsValue → Bool
  | .string _ => true
  | _ => false

def isBoolean : JsValue → Bool
  | .bool _ => true
  | _ => false

def isNull : JsValue → Bool
  | .null => true
  | _ => false

def isArray : JsValue → Bool
  | .array _ => true
  | _ => false

def boolOf : JsValue → Bool
  | .bool value => value
  | _ => false

/-- The value of a field of a record. -/
theorem get_of_mem {fields : List (CodeUnits × JsValue)} {key : CodeUnits} {value : JsValue}
    (hnodup : (fields.map Prod.fst).Nodup) (h : (key, value) ∈ fields) :
    (JsValue.object fields).get key = value := by
  have hlookup : fields.lookup key = some value := by
    induction fields with
    | nil => cases h
    | cons field rest ih =>
        obtain ⟨other, found⟩ := field
        rw [List.map_cons, List.nodup_cons] at hnodup
        rcases List.mem_cons.mp h with hfirst | hrest
        · cases hfirst
          simp
        · have hne : key ≠ other := by
            rintro rfl
            exact hnodup.1 (List.mem_map.mpr ⟨_, hrest, rfl⟩)
          rw [List.lookup_cons, beq_eq_false_iff_ne.mpr hne]
          exact ih hnodup.2 hrest
  simp only [JsValue.get, hlookup, Option.getD_some]

/-! ## The bounds of the settings -/

theorem maxOutputTokens_bounds : (64 : Int) ≤ 512 := by decide

theorem temperature_bounds : (0 : Rat) ≤ 1 := by decide

theorem maxSteps_bounds : (2 : Int) ≤ 8 := by decide

theorem timeoutMs_bounds : (4000 : Int) ≤ 30000 := by decide

def defaultMaxOutputTokens : Set.Icc (64 : Int) 512 := ⟨320, by decide⟩

def defaultTemperature : Set.Icc (0 : Rat) 1 := ⟨1 / 5, by norm_num, by norm_num⟩

def defaultMaxSteps : Set.Icc (2 : Int) 8 := ⟨5, by decide⟩

def defaultTimeoutMs : Set.Icc (4000 : Int) 30000 := ⟨20000, by decide⟩

/-! ## Configurations -/

section Configurations

variable [UrlParser]

structure StoredRouterConfigCandidate where
  endpoint : JsValue
  model : JsValue
  protocol : JsValue
  enabled : JsValue
  assistantInstructions : JsValue
  assistantMaxOutputTokens : JsValue
  assistantTemperature : JsValue
  assistantMaxSteps : JsValue
  assistantTimeoutMs : JsValue
  assistantReasoningEffort : JsValue
  modelReasoningEfforts : JsValue
  credentialFile : JsValue

structure NormalizedStoredRouterConfig where
  endpoint : Endpoint
  protocol : ManagedRouterProtocol
  model : ProviderModel protocol
  enabled : Bool
  credentialFile : CredentialFile
  assistantInstructions : Instructions
  assistantMaxOutputTokens : Set.Icc (64 : Int) 512
  assistantTemperature : Set.Icc (0 : Rat) 1
  assistantMaxSteps : Set.Icc (2 : Int) 8
  assistantTimeoutMs : Set.Icc (4000 : Int) 30000
  modelReasoningEfforts : ReasoningEfforts
  assistantReasoningEffort : ReasoningEffort modelReasoningEfforts
  deriving DecidableEq

def requiredBoolean (value : JsValue) (label : String) : Except RouterError Bool :=
  match value with
  | .bool value => .ok value
  | _ => .error (.configValidation s!"{label}无效")

def normalizeStoredRouterConfig (value : StoredRouterConfigCandidate) :
    Except RouterError NormalizedStoredRouterConfig := do
  let reasoningEfforts := normalizeReasoningEfforts value.modelReasoningEfforts
  let protocol ← normalizeProtocol value.protocol
  let endpoint ← normalizeEndpoint value.endpoint
  let model ← normalizeProviderModel value.model protocol
  let enabled ← requiredBoolean value.enabled "启用状态"
  let credentialFile ← normalizeCredentialFile value.credentialFile
  let assistantInstructions ← normalizeInstructions value.assistantInstructions
  pure {
    endpoint
    protocol
    model
    enabled
    credentialFile
    assistantInstructions
    assistantMaxOutputTokens :=
      boundedInteger value.assistantMaxOutputTokens maxOutputTokens_bounds defaultMaxOutputTokens
    assistantTemperature :=
      boundedNumber value.assistantTemperature temperature_bounds defaultTemperature
    assistantMaxSteps := boundedInteger value.assistantMaxSteps maxSteps_bounds defaultMaxSteps
    assistantTimeoutMs := boundedInteger value.assistantTimeoutMs timeoutMs_bounds defaultTimeoutMs
    modelReasoningEfforts := reasoningEfforts
    assistantReasoningEffort :=
      normalizeReasoningEffort value.assistantReasoningEffort reasoningEfforts
  }

/-- The fields of a configuration in a record. -/
def candidateOf (value : JsValue) : StoredRouterConfigCandidate where
  endpoint := value.get (units "endpoint")
  model := value.get (units "model")
  protocol := value.get (units "protocol")
  enabled := value.get (units "enabled")
  assistantInstructions := value.get (units "assistantInstructions")
  assistantMaxOutputTokens := value.get (units "assistantMaxOutputTokens")
  assistantTemperature := value.get (units "assistantTemperature")
  assistantMaxSteps := value.get (units "assistantMaxSteps")
  assistantTimeoutMs := value.get (units "assistantTimeoutMs")
  assistantReasoningEffort := value.get (units "assistantReasoningEffort")
  modelReasoningEfforts := value.get (units "modelReasoningEfforts")
  credentialFile := value.get (units "credentialFile")

namespace NormalizedStoredRouterConfig

variable (config : NormalizedStoredRouterConfig)

def candidate : StoredRouterConfigCandidate where
  endpoint := .string config.endpoint.text
  model := .string config.model.1
  protocol := .string config.protocol.text
  enabled := .bool config.enabled
  assistantInstructions := .string config.assistantInstructions.text
  assistantMaxOutputTokens := integerValue config.assistantMaxOutputTokens
  assistantTemperature := .number (.finite config.assistantTemperature)
  assistantMaxSteps := integerValue config.assistantMaxSteps
  assistantTimeoutMs := integerValue config.assistantTimeoutMs
  assistantReasoningEffort := .string config.assistantReasoningEffort.1
  modelReasoningEfforts := config.modelReasoningEfforts.value
  credentialFile := .string config.credentialFile.name

def fields : List (CodeUnits × JsValue) :=
  [(units "endpoint", config.candidate.endpoint),
    (units "model", config.candidate.model),
    (units "protocol", config.candidate.protocol),
    (units "enabled", config.candidate.enabled),
    (units "credentialFile", config.candidate.credentialFile),
    (units "assistantInstructions", config.candidate.assistantInstructions),
    (units "assistantMaxOutputTokens", config.candidate.assistantMaxOutputTokens),
    (units "assistantTemperature", config.candidate.assistantTemperature),
    (units "assistantMaxSteps", config.candidate.assistantMaxSteps),
    (units "assistantTimeoutMs", config.candidate.assistantTimeoutMs),
    (units "modelReasoningEfforts", config.candidate.modelReasoningEfforts),
    (units "assistantReasoningEffort", config.candidate.assistantReasoningEffort)]

def value : JsValue := .object config.fields

theorem nodup_fields : (config.fields.map Prod.fst).Nodup := by
  change ([units "endpoint", units "model", units "protocol", units "enabled",
    units "credentialFile", units "assistantInstructions", units "assistantMaxOutputTokens",
    units "assistantTemperature", units "assistantMaxSteps", units "assistantTimeoutMs",
    units "modelReasoningEfforts", units "assistantReasoningEffort"] : List CodeUnits).Nodup
  decide +kernel

theorem candidateOf_value : candidateOf config.value = config.candidate := by
  have hget : ∀ key value, (key, value) ∈ config.fields → config.value.get key = value :=
    fun key value h => get_of_mem config.nodup_fields h
  unfold candidateOf
  rw [hget (units "endpoint") config.candidate.endpoint (by simp [fields]),
    hget (units "model") config.candidate.model (by simp [fields]),
    hget (units "protocol") config.candidate.protocol (by simp [fields]),
    hget (units "enabled") config.candidate.enabled (by simp [fields]),
    hget (units "credentialFile") config.candidate.credentialFile (by simp [fields]),
    hget (units "assistantInstructions") config.candidate.assistantInstructions (by simp [fields]),
    hget (units "assistantMaxOutputTokens") config.candidate.assistantMaxOutputTokens
      (by simp [fields]),
    hget (units "assistantTemperature") config.candidate.assistantTemperature (by simp [fields]),
    hget (units "assistantMaxSteps") config.candidate.assistantMaxSteps (by simp [fields]),
    hget (units "assistantTimeoutMs") config.candidate.assistantTimeoutMs (by simp [fields]),
    hget (units "modelReasoningEfforts") config.candidate.modelReasoningEfforts (by simp [fields]),
    hget (units "assistantReasoningEffort") config.candidate.assistantReasoningEffort
      (by simp [fields])]

theorem isJson_value : config.value.IsJson := by
  have hefforts : AreJson (config.modelReasoningEfforts.efforts.map .string) := by
    induction config.modelReasoningEfforts.efforts with
    | nil => trivial
    | cons effort rest ih => exact ⟨trivial, ih⟩
  refine ⟨config.nodup_fields, trivial, trivial, trivial, trivial, trivial, trivial,
    ⟨_, rfl⟩, ⟨_, rfl⟩, ⟨_, rfl⟩, ⟨_, rfl⟩, hefforts, trivial, trivial⟩

end NormalizedStoredRouterConfig

/-- A configuration that is normal stays as it is. -/
theorem normalizeStoredRouterConfig_candidate (config : NormalizedStoredRouterConfig) :
    normalizeStoredRouterConfig config.candidate = .ok config := by
  have hefforts : normalizeReasoningEfforts config.candidate.modelReasoningEfforts =
      config.modelReasoningEfforts := normalizeReasoningEfforts_value _
  have hprotocol : normalizeProtocol config.candidate.protocol = .ok config.protocol :=
    normalizeProtocol_text _
  have hendpoint : normalizeEndpoint config.candidate.endpoint = .ok config.endpoint :=
    normalizeEndpoint_text _
  have hmodel : normalizeProviderModel config.candidate.model config.protocol =
      .ok config.model := normalizeProviderModel_text _
  have hcredential : normalizeCredentialFile config.candidate.credentialFile =
      .ok config.credentialFile := normalizeCredentialFile_name _
  have hinstructions : normalizeInstructions config.candidate.assistantInstructions =
      .ok config.assistantInstructions := normalizeInstructions_text _
  unfold normalizeStoredRouterConfig
  rw [hprotocol, hendpoint, hcredential, hinstructions, hefforts]
  simp only [bind, Except.bind]
  rw [hmodel]
  simp only [NormalizedStoredRouterConfig.candidate, requiredBoolean]
  rw [boundedInteger_value _ _ _ (by decide) (by decide),
    boundedInteger_value _ _ _ (by decide) (by decide),
    boundedInteger_value _ _ _ (by decide) (by decide), boundedNumber_value,
    normalizeReasoningEffort_text]
  rfl

/-- A configuration of a record is normalized; there may be none. -/
def decodeGenerationConfig (value : JsValue) :
    Except RouterError (Option NormalizedStoredRouterConfig) :=
  if isNull value then .ok none
  else if isRecord value = false then .error (.validation "AI 配置代际配置无效")
  else (normalizeStoredRouterConfig (candidateOf value)).map some

def configValue : Option NormalizedStoredRouterConfig → JsValue
  | none => .null
  | some config => config.value

theorem decodeGenerationConfig_value (config : Option NormalizedStoredRouterConfig) :
    decodeGenerationConfig (configValue config) = .ok config := by
  cases config with
  | none => rfl
  | some config =>
      change (normalizeStoredRouterConfig (candidateOf config.value)).map some = _
      rw [config.candidateOf_value, normalizeStoredRouterConfig_candidate]
      rfl

theorem isJson_configValue (config : Option NormalizedStoredRouterConfig) :
    (configValue config).IsJson := by
  cases config with
  | none => trivial
  | some config => exact config.isJson_value

end Configurations

/-! ## Instants and digests -/

structure IsoInstant where
  text : CodeUnits
  valid : isIsoInstant text = true
  deriving DecidableEq

def normalizeIsoInstant (value : JsValue) : Except RouterError IsoInstant :=
  match value with
  | .string text =>
      if h : isIsoInstant text = true then .ok ⟨text, h⟩
      else .error (.validation "AI 配置事务时间无效")
  | _ => .error (.validation "AI 配置事务时间无效")

theorem normalizeIsoInstant_text (instant : IsoInstant) :
    normalizeIsoInstant (.string instant.text) = .ok instant := dif_pos instant.valid

/-- `SHA256_PATTERN`. -/
def sha256Pattern : Pattern := List.replicate 64 isHexUnit

structure Digest where
  text : CodeUnits
  valid : testPattern sha256Pattern text = true
  deriving DecidableEq

/-- `createHash("sha256")` with its digest in hexadecimal. -/
class Sha256Hex where
  digest : List UInt8 → Digest

def readDigest (value : JsValue) : Option Digest :=
  match value with
  | .string text => if h : testPattern sha256Pattern text = true then some ⟨text, h⟩ else none
  | _ => none

theorem readDigest_text (digest : Digest) : readDigest (.string digest.text) = some digest :=
  dif_pos digest.valid

/-! ## Attestations -/

structure DraftTestAttestation where
  digest : Digest
  testedAt : IsoInstant
  requestId : AuditText
  deriving DecidableEq

namespace DraftTestAttestation

variable (attestation : DraftTestAttestation)

def fields : List (CodeUnits × JsValue) :=
  [(units "digest", .string attestation.digest.text),
    (units "testedAt", .string attestation.testedAt.text),
    (units "requestId", .string attestation.requestId.text)]

def value : JsValue := .object attestation.fields

theorem nodup_fields : (attestation.fields.map Prod.fst).Nodup := by
  change ([units "digest", units "testedAt", units "requestId"] : List CodeUnits).Nodup
  decide +kernel

theorem isJson_value : attestation.value.IsJson :=
  ⟨attestation.nodup_fields, trivial, trivial, trivial, trivial⟩

end DraftTestAttestation

/-- The errors of an attestation have the message of what it is read from. -/
def decodeAttestation (invalid : RouterError) (value : JsValue) :
    Except RouterError DraftTestAttestation :=
  match readDigest (value.get (units "digest")) with
  | none => .error invalid
  | some digest =>
      let requestId := textOf (value.get (units "requestId"))
      if isString (value.get (units "testedAt")) = false ∨ requestId = [] ∨ 13 ∈ requestId ∨
          10 ∈ requestId then .error invalid
      else do
        let testedAt ← normalizeIsoInstant (value.get (units "testedAt"))
        let requestId ← boundedAuditText requestId "request id"
        pure ⟨digest, testedAt, requestId⟩

theorem decodeAttestation_value (invalid : RouterError) (attestation : DraftTestAttestation) :
    decodeAttestation invalid attestation.value = .ok attestation := by
  have hdigest : attestation.value.get (units "digest") = .string attestation.digest.text :=
    get_of_mem attestation.nodup_fields (by simp [DraftTestAttestation.fields])
  have htested : attestation.value.get (units "testedAt") = .string attestation.testedAt.text :=
    get_of_mem attestation.nodup_fields (by simp [DraftTestAttestation.fields])
  have hrequest : attestation.value.get (units "requestId") =
      .string attestation.requestId.text :=
    get_of_mem attestation.nodup_fields (by simp [DraftTestAttestation.fields])
  have hbounded := attestation.requestId.bounded
  have hline := attestation.requestId.oneLine
  rw [decodeAttestation, hdigest, readDigest_text, htested, hrequest]
  dsimp only
  rw [if_neg (by simp [textOf, isString, hbounded.1, hline.1, hline.2]),
    normalizeIsoInstant_text]
  change (boundedAuditText attestation.requestId.text "request id").bind _ = _
  rw [boundedAuditText_text]
  rfl

/-! ## Drafts -/

structure DraftMetadata where
  keyChanged : Bool
  deriving DecidableEq

def DraftMetadata.value (metadata : DraftMetadata) : JsValue :=
  .object [(units "keyChanged", .bool metadata.keyChanged)]

theorem DraftMetadata.get_keyChanged (metadata : DraftMetadata) :
    metadata.value.get (units "keyChanged") = .bool metadata.keyChanged :=
  get_of_mem (List.nodup_singleton _) (List.mem_singleton.mpr rfl)

section Drafts

variable [UrlParser]

structure StoredRouterDraft where
  config : NormalizedStoredRouterConfig
  metadata : DraftMetadata
  attestation : Option DraftTestAttestation
  deriving DecidableEq

def attestationValue : Option DraftTestAttestation → JsValue
  | none => .null
  | some attestation => attestation.value

namespace StoredRouterDraft

variable (draft : StoredRouterDraft)

def fields : List (CodeUnits × JsValue) :=
  [(units "config", draft.config.value), (units "metadata", draft.metadata.value),
    (units "attestation", attestationValue draft.attestation)]

def value : JsValue := .object draft.fields

theorem nodup_fields : (draft.fields.map Prod.fst).Nodup := by
  change ([units "config", units "metadata", units "attestation"] : List CodeUnits).Nodup
  decide +kernel

theorem isJson_value : draft.value.IsJson := by
  have hattestation : (attestationValue draft.attestation).IsJson := by
    cases draft.attestation with
    | none => trivial
    | some attestation => exact attestation.isJson_value
  exact ⟨draft.nodup_fields, draft.config.isJson_value, ⟨List.nodup_singleton _, trivial, trivial⟩,
    hattestation, trivial⟩

end StoredRouterDraft

def decodeDraftAttestation (value : JsValue) :
    Except RouterError (Option DraftTestAttestation) :=
  if isNull value then .ok none
  else if isRecord value = false then .error (.validation "AI 配置代际测试凭据无效")
  else (decodeAttestation (.validation "AI 配置代际测试凭据无效") value).map some

def decodeGenerationDraft (value : JsValue) : Except RouterError (Option StoredRouterDraft) :=
  if isNull value then .ok none
  else if isRecord value = false ∨ isRecord (value.get (units "metadata")) = false ∨
      isBoolean ((value.get (units "metadata")).get (units "keyChanged")) = false then
    .error (.validation "AI 配置代际待测状态无效")
  else do
    match ← decodeGenerationConfig (value.get (units "config")) with
    | none => .error (.validation "AI 配置代际待测配置无效")
    | some config =>
        let attestation ← decodeDraftAttestation (value.get (units "attestation"))
        let keyChanged := boolOf ((value.get (units "metadata")).get (units "keyChanged"))
        pure (some ⟨config, ⟨keyChanged⟩, attestation⟩)

def draftValue : Option StoredRouterDraft → JsValue
  | none => .null
  | some draft => draft.value

omit [UrlParser] in
theorem decodeDraftAttestation_value (attestation : Option DraftTestAttestation) :
    decodeDraftAttestation (attestationValue attestation) = .ok attestation := by
  cases attestation with
  | none => rfl
  | some attestation =>
      change (decodeAttestation _ attestation.value).map some = _
      rw [decodeAttestation_value]
      rfl

theorem decodeGenerationDraft_value (draft : Option StoredRouterDraft) :
    decodeGenerationDraft (draftValue draft) = .ok draft := by
  cases draft with
  | none => rfl
  | some draft =>
      have hconfig : draft.value.get (units "config") = configValue (some draft.config) :=
        get_of_mem draft.nodup_fields (by simp [StoredRouterDraft.fields, configValue])
      have hmetadata : draft.value.get (units "metadata") = draft.metadata.value :=
        get_of_mem draft.nodup_fields (by simp [StoredRouterDraft.fields])
      have hattestation : draft.value.get (units "attestation") =
          attestationValue draft.attestation :=
        get_of_mem draft.nodup_fields (by simp [StoredRouterDraft.fields])
      change decodeGenerationDraft draft.value = _
      rw [decodeGenerationDraft, if_neg (by exact Bool.false_ne_true), if_neg, hconfig,
        decodeGenerationConfig_value, hmetadata, draft.metadata.get_keyChanged, hattestation]
      · change (decodeDraftAttestation (attestationValue draft.attestation)).bind _ = _
        rw [decodeDraftAttestation_value]
        rfl
      · rw [hmetadata, draft.metadata.get_keyChanged]
        simp [StoredRouterDraft.value, DraftMetadata.value, isRecord, isBoolean]

theorem isJson_draftValue (draft : Option StoredRouterDraft) : (draftValue draft).IsJson := by
  cases draft with
  | none => trivial
  | some draft => exact draft.isJson_value

end Drafts

end MatchPlane.Router
