import MatchPlane.Router.StoreFiles

/-!
# Transactions of the store

Reading and committing generations, delivering their audit records to the journal,
collecting the credentials that are not referenced any more, and recovery, call by call.
-/

namespace MatchPlane.Router

open MatchPlane.Library MatchPlane.JavaScript Program

abbrev RouterProgram (α : Type) := Program RouterCall RouterCall.Answer RouterError α

namespace RouterError

def ofLock : LockError → RouterError
  | .system errno => system errno
  | .transaction message => transaction message
  | .corruption message => corruption message
  | .conflict message => conflict message
  | .lockTimeout message => lockTimeout message
  | .lockOwnership message => lockOwnership message

/-- `instanceof PlatformRouterTransactionError`. -/
def isTransaction : RouterError → Bool
  | configValidation _ | plain _ | system _ | storageCommitUncertain _ => false
  | _ => true

end RouterError

/-- A program of the lock as a part of one of the router. -/
def ofLock {α : Type} : LockProgram α → RouterProgram α
  | .done result => done (result.mapError RouterError.ofLock)
  | .call c next => call (.lock c) fun answer => ofLock (next answer)

/-- The options that the transactions read. -/
structure TransactionOptions where
  timeoutMs : Nat
  gcGraceMs : Option Int
  /-- The random delays of the rounds for the lock, one for each round. -/
  jitters : List Nat

namespace Transaction

/-! ## Files -/

def invoke (c : StoreCall) : RouterProgram c.Value :=
  call (.store c) fun answer =>
    match (answer : c.Answer) with
    | .ok value => done (.ok value)
    | .error errno => done (.error (.system errno))

def lift {α : Type} (result : Except RouterError α) : RouterProgram α := done result

def pathExists (path : StorePath) : RouterProgram Bool :=
  (invoke (.lstat path)).handle fun
    | .ok _ => done (.ok true)
    | .error (.system .noEntry) => done (.ok false)
    | .error error => done (.error error)

/-- Every file is a regular one. -/
def assertRegularPathIfPresent (path : StorePath) : RouterProgram PUnit := do
  let _ ← pathExists path

def assertAbsent (path : StorePath) (message : String) : RouterProgram PUnit := do
  if ← pathExists path then raise (.conflict message)

def assertTrustedDirectory (directory : StoreDirectory) (message : String) :
    RouterProgram PUnit :=
  catching (fun _ => raise (.transaction message)) (invoke (.lstatDirectory directory))

def maxStateBytes : Nat := 1024 * 1024

/-- What is thrown when a file cannot be read; a file that is missing may be optional. -/
def unreadable (optional : Bool) : RouterError → RouterProgram (Option Bytes)
  | .system .noEntry =>
      if optional then pure none else raise (.corruption "AI 配置事务文件无法读取")
  | error =>
      if error.isTransaction then raise error else raise (.corruption "AI 配置事务文件无法读取")

/-- The bytes of a file that is open. -/
def readOpened (path : StorePath) : RouterProgram (Option Bytes) := do
  let size : Nat ← invoke (.fstat path)
  if maxStateBytes < size then raise (.corruption "AI 配置事务文件无效")
  else
    let bytes ← invoke (.read path)
    pure (some bytes)

def readRegularFile (path : StorePath) (optional : Bool) : RouterProgram (Option Bytes) :=
  (do
    assertRegularPathIfPresent path
    invoke (.openRead path)).handle fun
  | .error error => unreadable optional error
  | .ok _ => eventually (invoke (.close path)) (catching (unreadable optional) (readOpened path))

/-- A file that has to be there. -/
def readRequiredFile (path : StorePath) : RouterProgram Bytes := do
  match ← readRegularFile path false with
  | some bytes => pure bytes
  | none => raise (.corruption "AI 配置事务文件无法读取")

/-- The rest of the bytes is written in at most as many calls. -/
def writeRest (path : StorePath) : Nat → Bytes → RouterProgram PUnit
  | _, [] => pure ⟨⟩
  | 0, _ :: _ => raise (.transaction "AI 配置事务写入返回零字节")
  | bound + 1, bytes => do
      let written : Nat ← invoke (.write path bytes)
      if written = 0 then raise (.transaction "AI 配置事务写入返回零字节")
      else writeRest path bound (bytes.drop written)

def writeAll (path : StorePath) (bytes : Bytes) : RouterProgram PUnit :=
  writeRest path bytes.length bytes

def writeExclusiveFile (path : StorePath) (bytes : Bytes) : RouterProgram PUnit := do
  invoke (.openExclusive path)
  eventually (invoke (.close path)) do
    let _ ← invoke (.fstat path)
    invoke (.fchmod path)
    writeAll path bytes
    invoke (.fsync path)

def fsyncDirectory (directory : StoreDirectory) : RouterProgram PUnit := do
  invoke (.openDirectory directory)
  eventually (invoke (.closeDirectory directory)) (invoke (.fsyncDirectory directory))

/-- A temporary file that cannot be removed is left to others. -/
def removeRecognizedTemporary (path : StorePath) : RouterProgram PUnit :=
  catching (fun _ => pure ⟨⟩) do
    assertRegularPathIfPresent path
    invoke (.unlink path)
    fsyncDirectory path.directory

def ensureGenerationDirectory : RouterProgram PUnit :=
  (invoke (.lstatDirectory .generations)).handle fun
    | .ok _ => pure ⟨⟩
    | .error (.system .noEntry) => do
        invoke .mkdirGenerations
        invoke .chmodGenerations
        fsyncDirectory .root
    | .error error => raise error

/-- A new identifier; one that is no UUID is refused. -/
def nextUuid : RouterProgram RouterId := do
  let id ← invoke .newId
  lift (normalizeUuid (.string id))

/-! ## Snapshots -/

inductive SnapshotSource where
  | generation
  | legacy
  | empty
  deriving DecidableEq, Repr

section Snapshots

variable [UrlParser] [NumberText] [Sha256Hex]

structure PlatformRouterSnapshot where
  source : SnapshotSource
  pointer : Option PlatformRouterPointer
  generationId : Option RouterId
  parentGenerationId : Option RouterId
  committedAt : Option IsoInstant
  active : Option NormalizedStoredRouterConfig
  draft : Option StoredRouterDraft
  pendingAudit : PendingAudit
  deriving DecidableEq

def snapshotFromGeneration (generation : PlatformRouterGeneration)
    (pointer : PlatformRouterPointer) : PlatformRouterSnapshot where
  source := .generation
  pointer := some pointer
  generationId := some generation.generationId
  parentGenerationId := generation.parentGenerationId
  committedAt := some generation.committedAt
  active := generation.active
  draft := generation.draft
  pendingAudit := generation.pendingAudit

def decodeGenerationBytes (bytes : Bytes) : Except RouterError PlatformRouterGeneration := do
  let value ← parseStrictJson bytes
  decodeGeneration value

def decodePointerBytes (bytes : Bytes) : Except RouterError PlatformRouterPointer :=
  match parseStrictJson bytes >>= decodePointer with
  | .ok pointer => .ok pointer
  | .error _ => .error (.corruption "AI 配置当前指针损坏")

/-! ### Legacy files -/

/-- A configuration of the legacy files; what JSON cannot read is none. -/
def decodeStoredRouterConfig (raw : CodeUnits) :
    Except RouterError (Option NormalizedStoredRouterConfig) :=
  let parsed := (parseJson raw).getD .null
  if isRecord parsed = false ∨ isBoolean (parsed.get (units "enabled")) = false then .ok none
  else match normalizeStoredRouterConfig (candidateOf parsed) with
    | .ok config => .ok (some config)
    | .error (.configValidation _) => .ok none
    | .error error => .error error

def decodeLegacyConfig (raw : Option Bytes) (message : String) :
    Except RouterError (Option NormalizedStoredRouterConfig) :=
  match raw with
  | none => .ok none
  | some bytes => do
      match ← decodeStoredRouterConfig (trim (unitsOfBytes bytes)) with
      | some config => .ok (some config)
      | none => .error (.corruption message)

def decodeLegacyMetadata (raw : Option Bytes) : Except RouterError (Option DraftMetadata) :=
  match raw with
  | none => .ok none
  | some bytes => do
      let value ← parseStrictJson bytes
      if isRecord value = false ∨ isBoolean (value.get (units "keyChanged")) = false then
        .error (.corruption "AI 旧版待测元数据损坏")
      else pure (some ⟨boolOf (value.get (units "keyChanged"))⟩)

def decodeLegacyAttestation (raw : Option Bytes) :
    Except RouterError (Option DraftTestAttestation) :=
  match raw with
  | none => .ok none
  | some bytes => do
      let value ← parseStrictJson bytes
      if isRecord value = false then .error (.corruption "AI 旧版待测凭据损坏")
      else (decodeAttestation (.corruption "AI 旧版待测凭据损坏") value).map some

/-- The legacy files: of the active configuration and of the draft. -/
structure LegacyFiles where
  active : Option Bytes
  draft : Option Bytes
  metadata : Option Bytes
  attestation : Option Bytes

def decodeLegacy (files : LegacyFiles) : Except RouterError PlatformRouterSnapshot := do
  let active ← decodeLegacyConfig files.active "AI 旧版生效配置损坏"
  let draftConfig ← decodeLegacyConfig files.draft "AI 旧版待测配置损坏"
  let metadata ← decodeLegacyMetadata files.metadata
  let attestation ← decodeLegacyAttestation files.attestation
  if draftConfig = none ∧ (files.metadata.isSome ∨ files.attestation.isSome) then
    .error (.corruption "AI 旧版待测状态不完整")
  else
    let draft : Option StoredRouterDraft := draftConfig.map fun config =>
      ⟨config, metadata.getD ⟨false⟩, attestation⟩
    pure {
      source := if active.isSome ∨ draft.isSome then .legacy else .empty
      pointer := none
      generationId := none
      parentGenerationId := none
      committedAt := none
      active
      draft
      pendingAudit := .none
    }

def readLegacySnapshot : RouterProgram PlatformRouterSnapshot := do
  let active ← readRegularFile (.root .legacyConfig) true
  let draft ← readRegularFile (.root .legacyDraft) true
  let metadata ← readRegularFile (.root .legacyMetadata) true
  let attestation ← readRegularFile (.root .legacyAttestation) true
  lift (decodeLegacy ⟨active, draft, metadata, attestation⟩)

/-! ### The current generation -/

/-- The generation that the bytes of its file hold, if the pointer is to it. -/
def openGeneration (pointer : PlatformRouterPointer) (bytes : Bytes) :
    Except RouterError PlatformRouterSnapshot :=
  if Sha256Hex.digest bytes ≠ pointer.sha256 then .error (.corruption "AI 配置代际校验失败")
  else match decodeGenerationBytes bytes with
    | .error _ => .error (.corruption "AI 配置代际损坏")
    | .ok generation =>
        if generation.generationId ≠ pointer.generationId then
          .error (.corruption "AI 配置代际身份不匹配")
        else .ok (snapshotFromGeneration generation pointer)

def readCurrentSnapshot : RouterProgram PlatformRouterSnapshot := do
  assertTrustedDirectory .root "AI 事务根目录无效"
  match ← readRegularFile (.root .pointer) true with
  | none => readLegacySnapshot
  | some pointerBytes =>
      let pointer ← lift (decodePointerBytes pointerBytes)
      let generationBytes ← readRequiredFile (generationPathFor pointer.generationId)
      lift (openGeneration pointer generationBytes)

def readGenerationWithoutPointer (id : RouterId) : RouterProgram PlatformRouterGeneration := do
  let bytes ← readRequiredFile (generationPathFor id)
  match decodeGenerationBytes bytes with
  | .error _ => raise (.corruption "AI 配置保留代际损坏")
  | .ok generation =>
      if generation.generationId ≠ id then raise (.corruption "AI 配置保留代际身份不匹配")
      else pure generation

/-! ## Commits -/

structure GenerationInput where
  generationId : Option CodeUnits
  parentGenerationId : Option CodeUnits
  committedAt : Option CodeUnits
  active : JsValue
  draft : JsValue
  pendingAudit : JsValue

section Commits

variable [OwnerText]

def assertOwned (handle : LockHandle) : RouterProgram PUnit :=
  ofLock (assertPlatformRouterLockOwned handle)

/-- The bytes of the pointer, if it is to the parent of a new generation. -/
def validateCommitParent (generationId : RouterId) (parentGenerationId : Option RouterId) :
    RouterProgram (Option Bytes) := do
  if parentGenerationId = some generationId then
    raise (.conflict "AI 配置代际不能引用自身为父代")
  match ← readRegularFile (.root .pointer) true with
  | none =>
      if parentGenerationId.isSome then raise (.conflict "AI 配置初始代际父代必须为空")
      else pure none
  | some pointerBytes =>
      let pointer ← lift (decodePointerBytes pointerBytes)
      if parentGenerationId ≠ some pointer.generationId then
        raise (.conflict "AI 配置提交父代已过期")
      let parentBytes ← readRequiredFile (generationPathFor pointer.generationId)
      if Sha256Hex.digest parentBytes ≠ pointer.sha256 then
        raise (.corruption "AI 配置父代校验失败")
      let parent ← lift (decodeGenerationBytes parentBytes)
      if parent.generationId ≠ pointer.generationId then
        raise (.corruption "AI 配置父代身份不匹配")
      pure (some pointerBytes)

def assertPointerUnchanged (expected : Option Bytes) : RouterProgram PUnit := do
  let actual ← readRegularFile (.root .pointer) true
  if actual ≠ expected then raise (.conflict "AI 配置当前指针在提交期间发生变化")

def generationBytes (generation : PlatformRouterGeneration) : Bytes := jsonBytes generation.value

def pointerTo (generation : PlatformRouterGeneration) : PlatformRouterPointer :=
  ⟨generation.generationId, Sha256Hex.digest (generationBytes generation)⟩

def pointerBytes (generation : PlatformRouterGeneration) : Bytes :=
  jsonBytes (pointerTo generation).value

/-- The generation is written and renamed, and then the pointer. -/
def publishGeneration (handle : LockHandle) (generation : PlatformRouterGeneration)
    (expectedPointer : Option Bytes) (generationTemporary pointerTemporary : StorePath) :
    RouterProgram PlatformRouterSnapshot := do
  let generationPath := generationPathFor generation.generationId
  assertAbsent generationPath "AI 配置代际已存在"
  assertOwned handle
  writeExclusiveFile generationTemporary (generationBytes generation)
  assertOwned handle
  invoke (.rename generationTemporary generationPath)
  fsyncDirectory .generations
  assertRegularPathIfPresent (.root .pointer)
  assertOwned handle
  writeExclusiveFile pointerTemporary (pointerBytes generation)
  assertOwned handle
  assertPointerUnchanged expectedPointer
  invoke (.rename pointerTemporary (.root .pointer))
  catching (fun _ => raise (.commitUncertain "AI 配置指针已切换但目录同步失败"))
    (fsyncDirectory .root)
  pure (snapshotFromGeneration generation (pointerTo generation))

/-- Temporary files are removed as long as the lock is owned. -/
def cleanUp (handle : LockHandle) (generationTemporary pointerTemporary : StorePath) :
    RouterProgram PUnit :=
  catching (fun
      | .lockOwnership _ => pure ⟨⟩
      | error => raise error) do
    assertOwned handle
    removeRecognizedTemporary generationTemporary
    assertOwned handle
    removeRecognizedTemporary pointerTemporary

/-- An error of a commit; it is uncertain only after the pointer has been renamed. -/
def commitFailure (error : RouterError) : RouterError :=
  if error.isTransaction then error else .transaction "AI 配置代际提交失败"

def idOrNext : Option CodeUnits → RouterProgram RouterId
  | some id => lift (normalizeUuid (.string id))
  | none => nextUuid

def committedAtOrNow : Option CodeUnits → RouterProgram IsoInstant
  | some instant => lift (normalizeIsoInstant (.string instant))
  | none => invoke .now

/-- The generation of an input. -/
def GenerationInput.decode (input : GenerationInput) (generationId : RouterId)
    (parentGenerationId : Option RouterId) (committedAt : IsoInstant) :
    Except RouterError PlatformRouterGeneration :=
  decodeGeneration <| GenerationParts.value {
    generationId := .string generationId.text
    parentGenerationId := parentValue parentGenerationId
    committedAt := .string committedAt.text
    active := input.active
    draft := input.draft
    pendingAudit := input.pendingAudit
  }

def parentOf : Option CodeUnits → Except RouterError (Option RouterId)
  | none => .ok none
  | some parent => (normalizeUuid (.string parent)).map some

def commitGeneration (input : GenerationInput) (handle : LockHandle) :
    RouterProgram PlatformRouterSnapshot := do
  assertOwned handle
  let generationId ← idOrNext input.generationId
  let parentGenerationId ← lift (parentOf input.parentGenerationId)
  let committedAt ← committedAtOrNow input.committedAt
  let generation ← lift (input.decode generationId parentGenerationId committedAt)
  if maxStateBytes < (generationBytes generation).length then
    raise (.validation "AI 配置代际超过大小限制")
  let expectedPointer ← validateCommitParent generationId parentGenerationId
  assertOwned handle
  ensureGenerationDirectory
  let generationNonce ← nextUuid
  let pointerNonce ← nextUuid
  let generationTemporary : StorePath := .generation (.temporary generationId generationNonce)
  let pointerTemporary : StorePath := .root (.pointerTemporary pointerNonce)
  catching (fun cause => do
      cleanUp handle generationTemporary pointerTemporary
      raise (commitFailure cause))
    (publishGeneration handle generation expectedPointer generationTemporary pointerTemporary)

/-! ## Audit records -/

def maxAuditRecordBytes : Nat := 65536

def auditLine (record : PlatformRouterAuditRecord) : Bytes := jsonBytes record.value

/-- The text of a line without the byte order mark that a decoder leaves out. -/
def lineText (line : Bytes) : Option CodeUnits :=
  (charsOfBytes? line).map fun characters =>
    unitsOfChars (if characters.head? = some '\uFEFF' then characters.drop 1 else characters)

def decodeAuditLine (line : Bytes) : Option PlatformRouterAuditRecord := do
  let text ← lineText line
  let value ← parseJson text
  (decodePlatformRouterAuditRecord value).toOption

def findRecord (records : List PlatformRouterAuditRecord) (eventId : RouterId) :
    Option PlatformRouterAuditRecord :=
  records.find? fun record => record.eventId = eventId

def decodeAuditJournalLine (wantedEventIds : List RouterId)
    (records : List PlatformRouterAuditRecord) (line : Bytes) :
    Except RouterError (List PlatformRouterAuditRecord) :=
  if line = [] then .error (.corruption "AI 配置审计包含完整的无效记录")
  else if maxAuditRecordBytes < line.length then .error (.corruption "AI 配置审计单条记录过大")
  else match decodeAuditLine line with
    | none => .error (.corruption "AI 配置审计包含完整的无效记录")
    | some record =>
        if record.eventId ∉ wantedEventIds then .ok records
        else match findRecord records record.eventId with
          | none => .ok (records ++ [record])
          | some found =>
              if found.value.text ≠ record.value.text then
                .error (.corruption "AI 配置审计事件 ID 内容冲突")
              else .ok records

/-- Reads the lines that are complete, and carries over what is left. -/
def scanLines (wantedEventIds : List RouterId) (records : List PlatformRouterAuditRecord)
    (carry : Bytes) :
    Bytes → Except RouterError (List PlatformRouterAuditRecord × Bytes)
  | [] => .ok (records, carry)
  | byte :: rest =>
      if byte = 10 then do
        let records ← decodeAuditJournalLine wantedEventIds records carry
        scanLines wantedEventIds records [] rest
      else scanLines wantedEventIds records (carry ++ [byte]) rest

/-- The journal ends; a last line that is not complete is an error. -/
def finishScan (records : List PlatformRouterAuditRecord) (carry : Bytes) :
    Except RouterError (List PlatformRouterAuditRecord) :=
  if carry = [] then .ok records
  else if isCut carry = false then .error (.corruption "AI 配置审计尾部包含无效 UTF-8")
  else .error (.auditPending "AI 配置审计存在未完成的尾部记录，稍后重试")

/-- The rest of the journal, in at most as many parts. -/
def scanRest (wantedEventIds : List RouterId) : Nat → Nat → Bytes →
    List PlatformRouterAuditRecord → RouterProgram (List PlatformRouterAuditRecord)
  | 0, _, _, _ => call .forever nofun
  | bound + 1, position, carry, records => do
      let chunk : Bytes ← invoke (.readChunk (.root .audit) position)
      if chunk = [] then lift (finishScan records carry)
      else
        let (records, carry) ← lift (scanLines wantedEventIds records carry chunk)
        if maxAuditRecordBytes < carry.length then
          raise (.corruption "AI 配置审计单条记录过大")
        else scanRest wantedEventIds bound (position + chunk.length) carry records

def scanAndRepairAuditJournal (wantedEventIds : List RouterId) :
    RouterProgram (List PlatformRouterAuditRecord) := do
  if ← pathExists (.root .audit) then
    assertRegularPathIfPresent (.root .audit)
    invoke (.openRead (.root .audit))
    eventually (invoke (.close (.root .audit))) do
      let size : Nat ← invoke (.fstat (.root .audit))
      scanRest wantedEventIds (size + 1) 0 [] []
  else pure []

/-- The records that the journal does not have yet. -/
def missingRecords (records : List PlatformRouterAuditRecord) :
    List PlatformRouterAuditRecord → Except RouterError (List PlatformRouterAuditRecord)
  | [] => .ok []
  | record :: rest =>
      match findRecord records record.eventId with
      | none => (missingRecords records rest).map (record :: ·)
      | some found =>
          if found.value.text ≠ record.value.text then
            .error (.corruption "AI 配置审计事件 ID 内容冲突")
          else missingRecords records rest

def appendRecords (handle : LockHandle) : List PlatformRouterAuditRecord → RouterProgram PUnit
  | [] => pure ⟨⟩
  | record :: rest => do
      assertOwned handle
      writeAll (.root .audit) (auditLine record)
      appendRecords handle rest

def projectionFailure (error : RouterError) : RouterError :=
  if error.isTransaction then error else .transaction "AI 配置审计投影失败"

def appendMissing (handle : LockHandle) (existed : Bool)
    (missing : List PlatformRouterAuditRecord) : RouterProgram PUnit :=
  (do
    assertRegularPathIfPresent (.root .audit)
    assertOwned handle
    invoke (.openAppend (.root .audit))).handle fun
  | .error error => raise (projectionFailure error)
  | .ok _ => eventually (invoke (.close (.root .audit))) <|
      catching (fun error => raise (projectionFailure error)) do
        let _ ← invoke (.fstat (.root .audit))
        assertOwned handle
        invoke (.fchmod (.root .audit))
        assertOwned handle
        appendRecords handle missing
        assertOwned handle
        invoke (.fsync (.root .audit))
        if existed = false then fsyncDirectory .root

/-- Delivers the pending records, and answers which ones have been delivered. -/
def flushAuditOutbox (snapshot : PlatformRouterSnapshot) (handle : LockHandle) :
    RouterProgram (List RouterId) := do
  assertOwned handle
  let pending ← lift <|
    decodeAuditRecords (snapshot.pendingAudit.records.map PlatformRouterAuditRecord.value)
  let records ← scanAndRepairAuditJournal (pending.map PlatformRouterAuditRecord.eventId)
  assertOwned handle
  let missing ← lift (missingRecords records pending)
  if missing ≠ [] then
    let existed ← pathExists (.root .audit)
    appendMissing handle existed missing
  pure (pending.map PlatformRouterAuditRecord.eventId)

/-- The same configurations with fewer pending records. -/
def checkpointInput (current : PlatformRouterSnapshot)
    (remaining : List PlatformRouterAuditRecord) : GenerationInput where
  generationId := none
  parentGenerationId := current.generationId.map RouterId.text
  committedAt := none
  active := configValue current.active
  draft := draftValue current.draft
  pendingAudit := auditValues remaining

def checkpointDeliveredAudit (snapshot : PlatformRouterSnapshot)
    (deliveredEventIds : List RouterId) (handle : LockHandle) :
    RouterProgram PlatformRouterSnapshot := do
  assertOwned handle
  if snapshot.source ≠ .generation ∨ snapshot.generationId = none then
    raise (.conflict "AI 配置审计检查点要求已提交代际")
  let current ← readCurrentSnapshot
  if current.source ≠ .generation ∨ current.generationId ≠ snapshot.generationId then
    raise (.conflict "AI 配置审计检查点已过期")
  let remaining := current.pendingAudit.records.filter fun record =>
    record.eventId ∉ deliveredEventIds
  assertOwned handle
  if remaining.length = current.pendingAudit.records.length then pure current
  else commitGeneration (checkpointInput current remaining) handle

/-! ## Credentials -/

def configCredentials (active : Option NormalizedStoredRouterConfig)
    (draft : Option StoredRouterDraft) : List CredentialFile :=
  (active.map fun config => config.credentialFile).toList ++
    (draft.map fun draft => draft.config.credentialFile).toList

/-- The files that a snapshot refers to, each once. -/
def snapshotCredentials (snapshot : PlatformRouterSnapshot) : List CredentialFile :=
  (configCredentials snapshot.active snapshot.draft).eraseDups

def unavailable (error : RouterError) : RouterError :=
  if error.isTransaction then error else .corruption "AI 配置引用的凭据不可用"

def validateCredential (file : CredentialFile) : RouterProgram PUnit :=
  let path : StorePath := .root (.credential file)
  (do
    assertRegularPathIfPresent path
    invoke (.openRead path)).handle fun
  | .error error => raise (unavailable error)
  | .ok _ => eventually (invoke (.close path)) <|
      catching (fun error => raise (unavailable error)) do
        let size : Nat ← invoke (.fstat path)
        if size = 0 then raise (.corruption "AI 配置引用的凭据无效")

def validateCredentials : List CredentialFile → RouterProgram PUnit
  | [] => pure ⟨⟩
  | file :: rest => do
      validateCredential file
      validateCredentials rest

def validateReferencedCredentials (snapshot : PlatformRouterSnapshot) : RouterProgram PUnit :=
  validateCredentials (snapshotCredentials snapshot)

/-! ## Garbage collection -/

def defaultGcGraceMs : Int := 5 * 60000

def boundedDuration (value : Option Int) (fallback minimum maximum : Int) : Int :=
  match value with
  | some value => max minimum (min maximum value)
  | none => fallback

def maxGenerationLineageDepth : Nat := 10000

/-- The generation and its predecessors, in at most as many steps. -/
def walkLineage : Nat → List RouterId → Option RouterId →
    RouterProgram (List PlatformRouterGeneration)
  | _, _, none => pure []
  | 0, _, some _ => raise (.corruption "AI 配置代际父链超过安全深度限制")
  | depth + 1, visited, some id => do
      if id ∈ visited then raise (.corruption "AI 配置代际父链包含循环")
      let generation ← readGenerationWithoutPointer id
      let predecessors ← walkLineage depth (id :: visited) generation.parentGenerationId
      pure (generation :: predecessors)

/-- The generations whose files are not older than the cutoff. -/
def recentGenerations (graceCutoff : Int) :
    List GenerationFile → RouterProgram (List PlatformRouterGeneration)
  | [] => pure []
  | .temporary _ _ :: rest => recentGenerations graceCutoff rest
  | .generation id :: rest => do
      let modifiedAt : Int ← invoke (.lstat (generationPathFor id))
      if graceCutoff ≤ modifiedAt then
        let generation ← readGenerationWithoutPointer id
        let others ← recentGenerations graceCutoff rest
        pure (generation :: others)
      else recentGenerations graceCutoff rest

def generationCredentials (generation : PlatformRouterGeneration) : List CredentialFile :=
  configCredentials generation.active generation.draft

/-- An entry that may be removed if it is old enough. -/
def isUnreferenced (referenced : List CredentialFile) : RootFile → Bool
  | .credential file => testPattern managedRouterKeyFile file.name ∧ file ∉ referenced
  | _ => false

def collectCredentials (handle : LockHandle) (graceCutoff : Int)
    (referenced : List CredentialFile) : List RootFile → RouterProgram (List RootFile)
  | [] => pure []
  | entry :: rest =>
      if isUnreferenced referenced entry = false then
        collectCredentials handle graceCutoff referenced rest
      else do
        let modifiedAt : Int ← invoke (.lstat (.root entry))
        if graceCutoff ≤ modifiedAt then collectCredentials handle graceCutoff referenced rest
        else
          assertOwned handle
          invoke (.unlink (.root entry))
          let removed ← collectCredentials handle graceCutoff referenced rest
          pure (entry :: removed)

/-- What the collection keeps: the files that some generation or the legacy files refer to. -/
def retainedCredentials (options : TransactionOptions) (handle : LockHandle) :
    RouterProgram (Int × List CredentialFile) := do
  assertOwned handle
  let current ← readCurrentSnapshot
  if current.source ≠ .generation ∨ current.generationId = none then
    raise (.conflict "AI 配置垃圾回收要求已提交代际")
  assertTrustedDirectory .generations "AI 配置代际目录无效"
  let nowMs : Int ← invoke .nowMs
  let graceCutoff :=
    nowMs - boundedDuration options.gcGraceMs defaultGcGraceMs 0 (7 * 24 * 60 * 60000)
  let lineage ← walkLineage maxGenerationLineageDepth [] current.generationId
  let entries ← invoke .readdirGenerations
  let recent ← recentGenerations graceCutoff entries
  let legacy ← readLegacySnapshot
  pure (graceCutoff, (lineage.take 3 ++ recent).flatMap generationCredentials ++
    configCredentials legacy.active legacy.draft ++ [CredentialFile.legacy])

def garbageCollectPlatformRouterArtifacts (options : TransactionOptions) (handle : LockHandle) :
    RouterProgram (List RootFile) := do
  let (graceCutoff, referenced) ← retainedCredentials options handle
  let entries ← invoke .readdirRoot
  assertOwned handle
  let removed ← collectCredentials handle graceCutoff referenced entries
  if removed ≠ [] then fsyncDirectory .root
  pure removed

/-! ## Recovery -/

/-- The rounds for the lock, one for each delay. -/
def acquireRounds (timeoutMs startedAt : Nat) : List Nat → RouterProgram LockHandle
  | [] => call .forever nofun
  | jitter :: rest => do
      match ← ofLock (acquireRound timeoutMs startedAt jitter) with
      | some handle => pure handle
      | none => acquireRounds timeoutMs startedAt rest

def acquirePlatformRouterLock (options : TransactionOptions) : RouterProgram LockHandle := do
  assertTrustedDirectory .root "AI 事务根目录无效"
  let startedAt : Nat ← ofLock (Router.invoke .now)
  acquireRounds options.timeoutMs startedAt options.jitters

def withPlatformRouterLock {α : Type} (options : TransactionOptions)
    (operation : LockHandle → RouterProgram α) : RouterProgram α := do
  let handle ← acquirePlatformRouterLock options
  eventually (ofLock (releasePlatformRouterLock handle true)) (operation handle)

def importInput (snapshot : PlatformRouterSnapshot) : GenerationInput where
  generationId := none
  parentGenerationId := none
  committedAt := none
  active := configValue snapshot.active
  draft := draftValue snapshot.draft
  pendingAudit := auditValues snapshot.pendingAudit.records

/-- The legacy files become the first generation. -/
def importLegacy (snapshot : PlatformRouterSnapshot) (handle : LockHandle) :
    RouterProgram PlatformRouterSnapshot :=
  if snapshot.source = .generation then pure snapshot
  else commitGeneration (importInput snapshot) handle

def recover (options : TransactionOptions) (handle : LockHandle) : RouterProgram PUnit := do
  let found ← readCurrentSnapshot
  validateReferencedCredentials found
  let imported ← importLegacy found handle
  let delivered ← flushAuditOutbox imported handle
  let snapshot ← checkpointDeliveredAudit imported delivered handle
  validateReferencedCredentials snapshot
  let _ ← garbageCollectPlatformRouterArtifacts options handle

def recoverPlatformRouterTransactions (options : TransactionOptions) : RouterProgram PUnit :=
  withPlatformRouterLock options (recover options)

end Commits

end Snapshots

end Transaction

end MatchPlane.Router
