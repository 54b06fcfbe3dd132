import MatchPlane.Router.Transactions

/-!
# The lifecycle of a managed configuration

A configuration is staged as a draft, tested, and activated.  Every mutation recovers the
store first, and then commits one generation with its audit record under the lock.
-/

namespace MatchPlane.Router

open MatchPlane.Library MatchPlane.JavaScript Program

/-! ## Inputs -/

structure MutationContext where
  actor : CodeUnits
  requestId : CodeUnits
  deriving DecidableEq

structure AuditContext where
  actor : AuditText
  requestId : AuditText
  deriving DecidableEq

def normalizeMutationContext (context : MutationContext) : Except RouterError AuditContext := do
  let actor ← boundedAuditText context.actor "actor"
  let requestId ← boundedAuditText context.requestId "request id"
  pure ⟨actor, requestId⟩

/-- The input of a stage; its fields are not checked yet. -/
structure ManagedPlatformRouterInput where
  endpoint : JsValue
  model : JsValue
  protocol : JsValue
  enabled : JsValue
  apiKey : Option CodeUnits
  assistantInstructions : JsValue
  assistantMaxOutputTokens : JsValue
  assistantTemperature : JsValue
  assistantMaxSteps : JsValue
  assistantTimeoutMs : JsValue
  assistantReasoningEffort : JsValue
  modelReasoningEfforts : JsValue

/-- The key of an input, unless it is blank. -/
def ManagedPlatformRouterInput.suppliedKey (input : ManagedPlatformRouterInput) :
    Option CodeUnits :=
  (input.apiKey.map trim).filter fun key => key ≠ []

structure MarkTestedInput where
  context : MutationContext
  expectedGenerationId : CodeUnits
  expectedDraftDigest : CodeUnits
  status : Option CodeUnits
  deriving DecidableEq

namespace Transaction

section Lifecycle

variable [UrlParser]

def normalizeManagedRouterInput (input : ManagedPlatformRouterInput)
    (credentialFile : CodeUnits) : Except RouterError NormalizedStoredRouterConfig := do
  let reasoningEfforts := normalizeReasoningEfforts input.modelReasoningEfforts
  let protocol ← normalizeProtocol input.protocol
  let endpoint ← normalizeEndpoint input.endpoint
  let model ← normalizeProviderModel input.model protocol
  let instructions ← normalizeInstructions input.assistantInstructions
  normalizeStoredRouterConfig {
    endpoint := .string endpoint.text
    model := .string model.1
    protocol := .string protocol.text
    enabled := input.enabled
    credentialFile := .string credentialFile
    assistantInstructions := .string instructions.text
    assistantMaxOutputTokens := integerValue <|
      boundedInteger input.assistantMaxOutputTokens maxOutputTokens_bounds defaultMaxOutputTokens
    assistantTemperature := .number <| .finite <|
      boundedNumber input.assistantTemperature temperature_bounds defaultTemperature
    assistantMaxSteps := integerValue <|
      boundedInteger input.assistantMaxSteps maxSteps_bounds defaultMaxSteps
    assistantTimeoutMs := integerValue <|
      boundedInteger input.assistantTimeoutMs timeoutMs_bounds defaultTimeoutMs
    modelReasoningEfforts := reasoningEfforts.value
    assistantReasoningEffort := .string
      (normalizeReasoningEffort input.assistantReasoningEffort reasoningEfforts).1
  }

/-! ## Public states -/

/-- What is shown of a configuration. -/
structure ManagedPlatformRouterConfig where
  /-- All but the name of its credential file is shown. -/
  config : NormalizedStoredRouterConfig
  credentialConfigured : Bool
  deriving DecidableEq

structure ManagedPlatformRouterDraftConfig extends ManagedPlatformRouterConfig where
  testedReady : Bool
  testedAt : Option IsoInstant
  keyChanged : Bool
  deriving DecidableEq

structure PublicState where
  config : Option ManagedPlatformRouterConfig
  draft : Option ManagedPlatformRouterDraftConfig
  deriving DecidableEq

def presentManagedConfig (config : NormalizedStoredRouterConfig) (credentialConfigured : Bool) :
    Except RouterError ManagedPlatformRouterConfig := do
  let normalized ← normalizeStoredRouterConfig config.candidate
  pure ⟨normalized, credentialConfigured⟩

section Digests

variable [NumberText] [Sha256Hex]

/-- The digest of a configuration and its key. -/
def draftDigest (config : NormalizedStoredRouterConfig) (apiKey : CodeUnits) :
    Except RouterError Digest := do
  let normalized ← normalizeStoredRouterConfig config.candidate
  pure (Sha256Hex.digest (bytesOfUnits normalized.value.text ++ 0 :: bytesOfUnits apiKey))

def draftDigestOf (config : NormalizedStoredRouterConfig) (apiKey : Option CodeUnits) :
    Except RouterError (Option Digest) :=
  match apiKey with
  | some apiKey => (draftDigest config apiKey).map some
  | none => .ok none

def presentDraft (draft : StoredRouterDraft) (apiKey : Option CodeUnits) :
    Except RouterError ManagedPlatformRouterDraftConfig := do
  let digest ← draftDigestOf draft.config apiKey
  let config ← presentManagedConfig draft.config apiKey.isSome
  pure {
    toManagedPlatformRouterConfig := config
    testedReady := digest.isSome ∧ draft.attestation.map (·.digest) = digest
    testedAt := draft.attestation.map (·.testedAt)
    keyChanged := draft.metadata.keyChanged
  }

/-- What is shown of something that may be missing. -/
def presentOption {α β : Type} (present : α → Except RouterError β) :
    Option α → Except RouterError (Option β)
  | none => .ok none
  | some value => (present value).map some

def publicState (snapshot : PlatformRouterSnapshot) (activeApiKey draftApiKey : Option CodeUnits) :
    Except RouterError PublicState := do
  let config ← presentOption (fun config => presentManagedConfig config activeApiKey.isSome)
    snapshot.active
  let draft ← presentOption (fun draft => presentDraft draft draftApiKey) snapshot.draft
  pure ⟨config, draft⟩

/-! ## Protected storage -/

/-- What goes wrong while a key is read; a file that is missing is no key. -/
def unreadableKey : RouterError → RouterProgram (Option CodeUnits)
  | .system .noEntry => pure none
  | _ => raise (.plain "AI 受保护存储无法读取")

/-- The key in the bytes of its file. -/
def keyOfBytes (bytes : Bytes) : Option CodeUnits :=
  (some (trim (unitsOfBytes bytes))).filter fun key => key ≠ []

def storageRead (file : CredentialFile) : RouterProgram (Option CodeUnits) :=
  let path : StorePath := .root (.credential file)
  (do
    assertRegularPathIfPresent path
    invoke (.openRead path)).handle fun
  | .error error => unreadableKey error
  | .ok _ => eventually (invoke (.close path)) <| catching unreadableKey do
      let _ ← invoke (.fstat path)
      let bytes ← invoke (.read path)
      pure (keyOfBytes bytes)

/-- A temporary file is written and closed; after a failure it is closed in any case. -/
def fillTemporary (temporary : StorePath) (bytes : Bytes) : RouterProgram PUnit := do
  invoke (.openExclusive temporary)
  catching (fun error => do
      catching (fun _ => pure ⟨⟩) (invoke (.close temporary))
      raise error) do
    let _ ← invoke (.fstat temporary)
    invoke (.fchmod temporary)
    writeAll temporary bytes
    invoke (.fsync temporary)
    invoke (.close temporary)

def removeTemporaryFile (temporary : StorePath) : RouterProgram PUnit :=
  catching (fun _ => pure ⟨⟩) (invoke (.unlink temporary))

/-- The temporary file takes the place of the credential. -/
def replaceCredential (file : CredentialFile) (temporary : StorePath) (bytes : Bytes) :
    RouterProgram PUnit := do
  invoke (.lstatDirectory .root)
  assertRegularPathIfPresent (.root (.credential file))
  fillTemporary temporary bytes
  invoke (.rename temporary (.root (.credential file)))

def keyBytes (key : CodeUnits) : Bytes := bytesOfUnits (key ++ [10])

def storageWrite (file : CredentialFile) (value : CodeUnits) : RouterProgram PUnit := do
  let content := trim value
  if content = [] ∨ 16384 < content.length then
    raise (.plain "API Key必须为 1..=16384 个字符")
  let id ← invoke .newId
  let temporary : StorePath := .root (.credentialTemporary file id)
  (replaceCredential file temporary (keyBytes content)).handle fun
    | .error _ => do
        removeTemporaryFile temporary
        raise (.plain "API Key无法写入受保护存储")
    | .ok _ => catching (fun _ => do
        removeTemporaryFile temporary
        raise (.storageCommitUncertain "API Key已替换但目录同步失败，提交状态不确定"))
        (fsyncDirectory .root)

/-- A key that may have been written is read back. -/
def writeCredentialWithReconciliation (file : CredentialFile) (suppliedKey : CodeUnits) :
    RouterProgram PUnit :=
  let uncertain : RouterError := .storageUncertain "AI 凭据提交状态无法确认"
  catching (fun
      | .storageCommitUncertain _ => do
          let visible ← catching (fun _ => raise uncertain) (storageRead file)
          if visible ≠ some suppliedKey then raise uncertain
      | error => raise error)
    (storageWrite file suppliedKey)

/-! ## Snapshots -/

def emptySnapshot : PlatformRouterSnapshot where
  source := .empty
  pointer := none
  generationId := none
  parentGenerationId := none
  committedAt := none
  active := none
  draft := none
  pendingAudit := .none

def readValidatedSnapshot : RouterProgram PlatformRouterSnapshot :=
  (invoke (.lstatDirectory .root)).handle fun
    | .error (.system .noEntry) => pure emptySnapshot
    | .error error => raise error
    | .ok _ => do
        let snapshot ← readCurrentSnapshot
        validateReferencedCredentials snapshot
        pure snapshot

/-- The key of a configuration, if there is one. -/
def readSecret : Option NormalizedStoredRouterConfig → RouterProgram (Option CodeUnits)
  | none => pure none
  | some config => do
      match ← storageRead config.credentialFile with
      | none => raise (.transaction "AI 配置引用的凭据不可用")
      | some apiKey => pure (some apiKey)

/-! ## Probes -/

structure DraftProbe where
  draft : ManagedPlatformRouterDraftConfig
  secret : NormalizedStoredRouterConfig × CodeUnits
  expectedGenerationId : RouterId
  expectedDraftDigest : Digest

def noDraft : RouterError := .configValidation "没有可测试的 AI 待测配置"

def prepareDraftProbe : RouterProgram DraftProbe := do
  let snapshot ← readValidatedSnapshot
  match snapshot.source, snapshot.generationId, snapshot.draft with
  | .generation, some generationId, some draft =>
      match ← readSecret (some draft.config) with
      | none => raise noDraft
      | some apiKey =>
          let digest ← lift (draftDigest draft.config apiKey)
          let shown ← lift (presentDraft draft (some apiKey))
          pure ⟨shown, (draft.config, apiKey), generationId, digest⟩
  | _, _, _ => raise noDraft

/-! ## Commits -/

/-- What an audit record is built from. -/
structure AuditEvent where
  eventId : CodeUnits
  action : AuditAction
  context : AuditContext
  config : NormalizedStoredRouterConfig
  keyChanged : Bool

def buildPlatformRouterAuditRecord (event : AuditEvent) (now : IsoInstant) :
    Except RouterError PlatformRouterAuditRecord := do
  let eventId ← normalizeAuditEventId (.string event.eventId)
  let actor ← boundedAuditText event.context.actor.text "actor"
  let requestId ← boundedAuditText event.context.requestId.text "request id"
  let endpointOrigin ← auditEndpointOrigin (.string event.config.endpoint.text) false
  let model ← boundedText (.string event.config.model.1) "模型" 256
  pure {
    eventId
    at_ := now
    action := event.action
    actor
    requestId
    endpointOrigin
    model
    enabled := event.config.enabled
    keyChanged := event.keyChanged
  }

structure ExpectedCommittedState where
  active : Option NormalizedStoredRouterConfig
  draft : Option StoredRouterDraft

/-- `JSON.stringify` cannot tell them apart. -/
def sameState (snapshot : PlatformRouterSnapshot) (expected : ExpectedCommittedState) : Bool :=
  (configValue snapshot.active).text = (configValue expected.active).text ∧
    (draftValue snapshot.draft).text = (draftValue expected.draft).text

section Mutations

variable [OwnerText]

/-- The generation of a mutation: the next state, and one more audit record. -/
def semanticInput (current : PlatformRouterSnapshot) (generationId : CodeUnits)
    (expected : ExpectedCommittedState) (audit : PlatformRouterAuditRecord) :
    GenerationInput where
  generationId := some generationId
  parentGenerationId := current.generationId.map RouterId.text
  committedAt := none
  active := configValue expected.active
  draft := draftValue expected.draft
  pendingAudit := auditValues (current.pendingAudit.records ++ [audit])

def indeterminate : RouterError := .stateIndeterminate "AI 配置提交状态无法确认"

/-- After an uncertain commit, what is visible has to be what was committed. -/
def reconcile (current : PlatformRouterSnapshot) (generationId : CodeUnits)
    (expected : ExpectedCommittedState) (audit : PlatformRouterAuditRecord) :
    RouterProgram PlatformRouterSnapshot := do
  let visible ← catching (fun _ => raise indeterminate) do
    let visible ← readCurrentSnapshot
    validateReferencedCredentials visible
    pure visible
  if visible.source = .generation ∧ visible.generationId.map RouterId.text = some generationId ∧
      visible.parentGenerationId = current.generationId ∧
      (findRecord visible.pendingAudit.records audit.eventId).isSome ∧
      sameState visible expected then pure visible
  else raise indeterminate

def commitSemanticGeneration (current : PlatformRouterSnapshot)
    (expected : ExpectedCommittedState) (audit : PlatformRouterAuditRecord)
    (handle : LockHandle) : RouterProgram PlatformRouterSnapshot := do
  let generationId ← invoke .newId
  catching (fun
      | .commitUncertain _ => reconcile current generationId expected audit
      | error => raise error)
    (commitGeneration (semanticInput current generationId expected audit) handle)

def pendingAuditStillVisible (eventIds : List RouterId) : RouterProgram Bool :=
  catching (fun _ => pure true) do
    let visible ← readCurrentSnapshot
    pure (eventIds.any fun eventId => (findRecord visible.pendingAudit.records eventId).isSome)

structure FinalizationState where
  auditPending : Bool
  maintenancePending : Bool
  deriving DecidableEq

/-- Delivers the records of a commit and collects garbage; no failure is thrown. -/
def finalizeCommittedGeneration (options : TransactionOptions)
    (committed : PlatformRouterSnapshot) (handle : LockHandle) :
    RouterProgram FinalizationState := do
  let eventIds := committed.pendingAudit.records.map PlatformRouterAuditRecord.eventId
  let auditPending ← catching (fun _ => pendingAuditStillVisible eventIds) do
    let delivered ← flushAuditOutbox committed handle
    let _ ← checkpointDeliveredAudit committed delivered handle
    pure false
  let maintenancePending ← catching (fun _ => pure true) do
    let _ ← garbageCollectPlatformRouterArtifacts options handle
    pure false
  pure ⟨auditPending, maintenancePending⟩

structure MutationResult (α : Type) where
  value : α
  state : PublicState
  auditPending : Bool
  maintenancePending : Bool
  generationId : RouterId

def mutationResult {α : Type} (value : Option α) (state : PublicState)
    (committed : PlatformRouterSnapshot) (pending : FinalizationState) (message : String) :
    Except RouterError (MutationResult α) :=
  match value, committed.generationId with
  | none, _ => .error (.stateIndeterminate message)
  | some _, none => .error (.stateIndeterminate "AI 配置已提交但代际身份缺失")
  | some value, some generationId =>
      .ok ⟨value, state, pending.auditPending, pending.maintenancePending, generationId⟩

/-- The audit record of a mutation. -/
def auditRecord (action : AuditAction) (context : AuditContext)
    (config : NormalizedStoredRouterConfig) (keyChanged : Bool) :
    RouterProgram PlatformRouterAuditRecord := do
  let eventId ← invoke .newId
  let now ← invoke .now
  lift (buildPlatformRouterAuditRecord ⟨eventId, action, context, config, keyChanged⟩ now)

/-! ## Stage -/

/-- The name of the file of a key: a new one for a new key, or the inherited one. -/
def stagedCredentialFile (suppliedKey : Option CodeUnits)
    (inherited : Option NormalizedStoredRouterConfig) : RouterProgram CodeUnits :=
  match suppliedKey with
  | some _ => do
      let id : CodeUnits ← invoke .newId
      pure (units "platform-router-key-" ++ id ++ units ".key")
  | none => pure (inherited.elim legacyRouterKeyFile fun config => config.credentialFile.name)

/-- A supplied key has changed if it is not the one that the draft would inherit. -/
def stagedKeyChanged (suppliedKey existingKey : Option CodeUnits) : Bool :=
  suppliedKey.isSome ∧ suppliedKey ≠ existingKey

def writeSuppliedKey (file : CredentialFile) : Option CodeUnits → RouterProgram PUnit
  | none => pure ⟨⟩
  | some suppliedKey => writeCredentialWithReconciliation file suppliedKey

def stageLocked (options : TransactionOptions) (input : ManagedPlatformRouterInput)
    (context : AuditContext) (handle : LockHandle) :
    RouterProgram (MutationResult ManagedPlatformRouterDraftConfig) := do
  let current ← readValidatedSnapshot
  let activeApiKey ← readSecret current.active
  let suppliedKey := input.suppliedKey
  let inherited := (current.draft.map StoredRouterDraft.config).or current.active
  let existingKey ← readSecret inherited
  if suppliedKey = none ∧ existingKey = none then
    raise (.configValidation "首次配置时必须填写 API Key")
  let credentialFile ← stagedCredentialFile suppliedKey inherited
  let keyChanged := stagedKeyChanged suppliedKey existingKey
  let config ← lift (normalizeManagedRouterInput input credentialFile)
  writeSuppliedKey config.credentialFile suppliedKey
  let draft : StoredRouterDraft := ⟨config, ⟨keyChanged⟩, none⟩
  let audit ← auditRecord .stage context config keyChanged
  let committed ← commitSemanticGeneration current ⟨current.active, some draft⟩ audit handle
  let state ← lift (publicState committed activeApiKey (suppliedKey.or existingKey))
  let pending ← finalizeCommittedGeneration options committed handle
  lift (mutationResult state.draft state committed pending "AI 待测配置已提交但无法读取")

def stage (options : TransactionOptions) (input : ManagedPlatformRouterInput)
    (context : MutationContext) :
    RouterProgram (MutationResult ManagedPlatformRouterDraftConfig) := do
  let auditContext ← lift (normalizeMutationContext context)
  recoverPlatformRouterTransactions options
  withPlatformRouterLock options (stageLocked options input auditContext)

/-! ## Tests -/

def draftReplaced : RouterError := .conflict "AI 待测配置已变更，请重新测试"

def markTestedLocked (options : TransactionOptions) (input : MarkTestedInput)
    (context : AuditContext) (handle : LockHandle) :
    RouterProgram (MutationResult ManagedPlatformRouterDraftConfig) := do
  let current ← readValidatedSnapshot
  let activeApiKey ← readSecret current.active
  match current.source, current.draft with
  | .generation, some tested => do
      if current.generationId.map RouterId.text ≠ some input.expectedGenerationId then
        raise draftReplaced
      let secret ← readSecret (some tested.config)
      let digest ← lift (draftDigestOf tested.config secret)
      match digest with
      | none => raise draftReplaced
      | some digest => do
          if digest.text ≠ input.expectedDraftDigest then raise draftReplaced
          let testedAt ← invoke .now
          let attestation : DraftTestAttestation := ⟨digest, testedAt, context.requestId⟩
          let draft : StoredRouterDraft := { tested with attestation := some attestation }
          let audit ← auditRecord .test context draft.config draft.metadata.keyChanged
          let committed ←
            commitSemanticGeneration current ⟨current.active, some draft⟩ audit handle
          let state ← lift (publicState committed activeApiKey secret)
          let pending ← finalizeCommittedGeneration options committed handle
          lift (mutationResult state.draft state committed pending "AI 测试凭据已提交但无法读取")
  | _, _ => raise draftReplaced

/-- The checks of an input that do not read the store. -/
def checkMarkTested (input : MarkTestedInput) : Except RouterError AuditContext := do
  let context ← normalizeMutationContext input.context
  if input.status.any fun status => status ≠ units "ready" then
    .error (.configValidation "AI 测试状态无效")
  else if testPattern sha256Pattern (input.expectedDraftDigest.map lowerUnit) = false then
    .error (.configValidation "AI 待测摘要无效")
  else pure context

def markTested (options : TransactionOptions) (input : MarkTestedInput) :
    RouterProgram (MutationResult ManagedPlatformRouterDraftConfig) := do
  let auditContext ← lift (checkMarkTested input)
  recoverPlatformRouterTransactions options
  withPlatformRouterLock options (markTestedLocked options input auditContext)

/-! ## Activation -/

def untested : RouterError := .configValidation "请先成功测试待测配置"

def activateLocked (options : TransactionOptions) (context : AuditContext)
    (handle : LockHandle) : RouterProgram (MutationResult ManagedPlatformRouterConfig) := do
  let current ← readValidatedSnapshot
  match current.draft with
  | none => raise untested
  | some draft =>
      match draft.attestation with
      | none => raise untested
      | some attestation => do
          let secret ← readSecret (some draft.config)
          let digest ← lift (draftDigestOf draft.config secret)
          if digest = none then raise untested
          if digest ≠ some attestation.digest then
            raise (.conflict "待测配置已变更，请重新测试")
          if draft.config.enabled = false then
            raise (.configValidation "请先勾选启用商城 AI 导购")
          let active ← lift (normalizeStoredRouterConfig draft.config.candidate)
          let audit ← auditRecord .activate context active draft.metadata.keyChanged
          let committed ← commitSemanticGeneration current ⟨some active, none⟩ audit handle
          let state ← lift (publicState committed secret none)
          let pending ← finalizeCommittedGeneration options committed handle
          lift (mutationResult state.config state committed pending "AI 配置已提交但无法读取")

def activate (options : TransactionOptions) (context : MutationContext) :
    RouterProgram (MutationResult ManagedPlatformRouterConfig) := do
  let auditContext ← lift (normalizeMutationContext context)
  recoverPlatformRouterTransactions options
  withPlatformRouterLock options (activateLocked options auditContext)

end Mutations

end Digests

end Lifecycle

end Transaction

end MatchPlane.Router
