import MatchPlane.Domain.JavaScript
import MatchPlane.Platform.Triggers

/-!
# Builds

An isolated builder claims a registration for a while, and reports a digest or a failure
under the lease that it was given.  Each of the three routes is one statement on
`subplatform_registrations`; what the callbacks read afterwards only chooses an answer.
-/

namespace MatchPlane.Platform

open MatchPlane.Library

variable [Jsonb]

/-! ## Claims -/

def Registration.isPackage (registration : Registration) : Bool :=
  registration.sourceKind = .git ∨ registration.sourceKind = .archive

/-- The lease has run out, or there is none. -/
def Registration.leaseEnded (registration : Registration) (leaseSeconds : Nat)
    (now : OffsetDateTime) : Bool :=
  registration.buildStartedAt.all fun startedAt =>
    startedAt < now - (leaseSeconds : Int) * 1000000000

def Registration.isClaimable (registration : Registration) (leaseSeconds : Nat)
    (now : OffsetDateTime) : Bool :=
  registration.isPackage ∧ registration.buildAttempts < 100 ∧
    (registration.state = .validated ∨
      (registration.state = .building ∧ registration.leaseEnded leaseSeconds now))

def Registration.lease (leaseId : LeaseId) (now : OffsetDateTime) (registration : Registration) :
    Registration :=
  { registration with
    state := .building
    buildLeaseId := some leaseId
    buildStartedAt := some now
    buildAttempts := registration.buildAttempts + 1
    buildError := none }

/-- A claim skips the rows that other transactions hold. -/
structure BuildClaim where
  leaseSeconds : Nat
  now : OffsetDateTime
  leaseId : LeaseId
  held : RegistrationId → Bool

def BuildClaim.candidate (claim : BuildClaim) (db : PlatformDatabase) : Option Registration :=
  firstBy (fun first second => decide (first.registeredAt < second.registeredAt))
    (db.registrations.rows.filter fun row =>
      row.isClaimable claim.leaseSeconds claim.now ∧ claim.held row.id = false)

def claimBuild (storeId : StoreId) (claim : BuildClaim) : Tx (Option Registration) := do
  let db ← get
  match claim.candidate db with
  | none => pure none
  | some candidate =>
      updateRegistration storeId candidate.id (fun _ => true)
        (Registration.lease claim.leaseId claim.now)

/-! ## Results -/

structure BuilderRequest where
  registrationId : RegistrationId
  leaseId : LeaseId
  buildDigest : String
  sourceDigest : Option String
  manifestDigest : Option String
  artifactPath : Option String
  artifactEntry : Option String
  deriving DecidableEq

def isSafeRelativePath (value : String) (maximum : Nat) : Bool :=
  1 ≤ JavaScript.length value ∧ JavaScript.length value ≤ maximum ∧
    value.toList.head? ≠ some '/' ∧ '\\' ∉ value.toList ∧
    (value.toList.splitOn '/').all fun segment =>
      segment ≠ [] ∧ segment ≠ ['.'] ∧ segment ≠ ['.', '.']

def validateArtifactPath (path entry : Option String) : Except PlatformError Unit :=
  if path.any (fun path => isSafeRelativePath path 512 = false) then
    throw (.response 400 "artifactPath 必须是无 traversal 的相对目录")
  else if entry.any (fun entry => isSafeRelativePath entry 256 = false) then
    throw (.response 400 "artifactEntry 必须是无 traversal 的相对文件路径")
  else if entry.isSome ∧ path.all (· = "") then
    throw (.response 400 "artifactEntry 只能随 artifactPath 一起提供")
  else pure ⟨⟩

namespace BuilderRequest

/-- The `WHERE` clause of a success. -/
def accepts (request : BuilderRequest) (row : Registration) : Bool :=
  row.state ∈ [.validated, .building, .ready] ∧
    row.buildLeaseId = some request.leaseId ∧
    row.buildDigest.all (· = JavaScript.toLowerCase request.buildDigest) ∧
    request.sourceDigest.all (row.sourceDigest = JavaScript.toLowerCase ·) ∧
    request.manifestDigest.all (row.manifestDigest = JavaScript.toLowerCase ·) ∧
    (row.artifactLocator = none ∨ request.artifactPath = none ∨
      row.artifactLocator = request.artifactPath) ∧
    (request.artifactEntry.all (row.artifactEntry = ·) ∨ row.artifactLocator = none)

/-- The `SET` clause of a success. -/
def attach (request : BuilderRequest) (row : Registration) : Registration :=
  { row with
    buildDigest := some (JavaScript.toLowerCase request.buildDigest)
    artifactLocator := request.artifactPath.or row.artifactLocator
    artifactEntry := request.artifactEntry.getD row.artifactEntry
    state := if row.state ∈ [.validated, .building] then .ready else row.state
    buildLeaseId := none
    buildStartedAt := none
    buildError := none }

/-- A field that is left empty counts as missing. -/
def given (field : Option String) : Option String := field.filter (· ≠ "")

/-- What a callback that changes nothing is told about the registration. -/
def answer (request : BuilderRequest) : Option Registration → Except PlatformError Registration
  | none => throw (.response 404 "子平台注册记录不存在")
  | some row =>
      if row.buildDigest ≠ some (JavaScript.toLowerCase request.buildDigest) then
        throw (.response 409 "不可变注册版本已有不同 buildDigest")
      else if row.state = .building ∧ row.buildLeaseId ≠ some request.leaseId then
        throw (.response 409 "该构建版本仍由另一枚 lease 处理")
      else if (given request.sourceDigest).any (row.sourceDigest ≠ JavaScript.toLowerCase ·) then
        throw (.response 409 "sourceDigest 与注册来源不一致")
      else if (given request.manifestDigest).any (row.manifestDigest ≠ JavaScript.toLowerCase ·) then
        throw (.response 409 "manifestDigest 与注册清单不一致")
      else if (given request.artifactPath).any (row.artifactLocator ≠ some ·) ∨
          (given request.artifactEntry).any (row.artifactEntry ≠ ·) then
        throw (.response 409 "不可变注册版本已有不同 artifact 路径")
      else pure row

end BuilderRequest

/-- `POST /api/platform/subplatforms/build`. -/
def completeBuild (storeId : StoreId) (request : BuilderRequest) : Tx Registration := do
  if JavaScript.isHex 64 request.buildDigest = false then
    throw (.response 400 "buildDigest must be a SHA-256 digest")
  liftM (validateArtifactPath request.artifactPath request.artifactEntry)
  match ← updateRegistration storeId request.registrationId request.accepts request.attach with
  | some row => pure row
  | none => do
      let db ← get
      liftM (request.answer (db.registrations.lookup request.registrationId))

/-! ## Failures -/

structure BuildFailure where
  registrationId : RegistrationId
  leaseId : LeaseId
  error : String
  retryable : Bool
  deriving DecidableEq

/-- A failure that may be tried again leaves the registration to the next claim. -/
def BuildFailure.record (failure : BuildFailure) (message : String) (now : OffsetDateTime)
    (row : Registration) : Registration :=
  let again := failure.retryable ∧ row.buildAttempts < 100
  { row with
    state := if again then .building else .rejected
    buildLeaseId := none
    buildStartedAt := if again then some now else none
    buildError := some message }

@[irreducible] def readError (value : String) : Option String :=
  let normalized := JavaScript.trim value
  if 1 ≤ JavaScript.length normalized ∧ JavaScript.length normalized ≤ 4000 then some normalized
  else none

/-- `POST /api/platform/subplatforms/build/fail`. -/
def failBuild (storeId : StoreId) (failure : BuildFailure) (now : OffsetDateTime) :
    Tx Registration := do
  let message ← require (.response 400 "error must be a bounded message")
    (readError failure.error)
  let row ← updateRegistration storeId failure.registrationId
    (fun row => row.state = .building ∧ row.buildLeaseId = some failure.leaseId)
    (failure.record message now)
  require (.response 409 "构建租约不存在、已过期或已被其他 worker 处理") row

end MatchPlane.Platform
