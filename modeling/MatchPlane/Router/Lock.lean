import MatchPlane.Router.LockFiles

/-!
# The transaction lock

Acquiring, taking over and releasing the lock of the platform router, call by call.  A lock
is a directory that is prepared under another name and renamed, a stale one is taken over
by renaming an exclusive claim to its owner, and a lock is released by renaming it away.
-/

namespace MatchPlane.Router

open MatchPlane.Library

inductive LockError where
  | system (errno : Errno)
  | transaction (message : String)
  | corruption (message : String)
  | conflict (message : String)
  | lockTimeout (message : String)
  | lockOwnership (message : String)
  deriving DecidableEq, Repr

abbrev LockProgram (α : Type) := Program LockCall LockCall.Answer LockError α

open Program

/-- A call whose failure is thrown. -/
def invoke (c : LockCall) : LockProgram c.Value :=
  call c fun answer =>
    match answer with
    | .ok value => done (.ok value)
    | .error errno => done (.error (.system errno))

/-- A call for which something that is missing is no failure. -/
def invokeIfPresent {α : Type} (c : LockCall) (present : c.Value → α) (absent : α) :
    LockProgram α :=
  (invoke c).handle fun
    | .ok value => done (.ok (present value))
    | .error (.system .noEntry) => done (.ok absent)
    | .error error => done (.error error)

/-! ## Files -/

/-- The rest of the bytes is written in at most as many calls. -/
def writeRest (file : FileId) : Nat → Bytes → LockProgram PUnit
  | _, [] => pure ⟨⟩
  | 0, _ :: _ => raise (.transaction "AI 配置事务写入返回零字节")
  | bound + 1, bytes => do
      let written : Nat ← invoke (.write file bytes)
      if written = 0 then raise (.transaction "AI 配置事务写入返回零字节")
      else writeRest file bound (bytes.drop written)

def writeAll (file : FileId) (bytes : Bytes) : LockProgram PUnit :=
  writeRest file bytes.length bytes

def writeExclusiveFile (place : Place) (entry : LockEntry) (bytes : Bytes) :
    LockProgram PUnit := do
  let file ← invoke (.create place entry)
  eventually (invoke (.closeFile file)) do
    invoke (.fstatFile file)
    invoke (.fchmod file)
    writeAll file bytes
    invoke (.fsyncFile file)

/-- What is thrown when a file cannot be read; a file that is missing may be optional. -/
def unreadable : LockError → LockProgram (Option Bytes)
  | .system .noEntry => pure none
  | .system _ => raise (.corruption "AI 配置事务文件无法读取")
  | error => raise error

/-- `readRegularFile` of an optional file. -/
def readRegularFile (place : Place) (entry : LockEntry) : LockProgram (Option Bytes) :=
  ((invokeIfPresent (.lstatFile place entry) (fun _ => PUnit.unit) ⟨⟩).andThen fun _ =>
    invoke (.openFile place entry)).handle fun
  | .error error => unreadable error
  | .ok file =>
      eventually (invoke (.closeReader file)) <| catching unreadable do
        invoke (.fstatFile file)
        let bytes ← invoke (.read file)
        pure (some bytes)

def fsyncRoot : LockProgram PUnit := do
  invoke .openRoot
  eventually (invoke .closeRoot) (invoke .fsyncRoot)

def fsyncDirectory (entry : RootEntry) : LockProgram PUnit := do
  let descriptor ← invoke (.openDirectory entry)
  eventually (invoke (.closeDirectory descriptor)) (invoke (.fsyncDirectory descriptor))

def pathExists (entry : RootEntry) : LockProgram Bool :=
  invokeIfPresent (.lstat entry) (fun _ => true) false

def assertAbsent (entry : RootEntry) (message : String) : LockProgram PUnit := do
  if ← pathExists entry then raise (.conflict message)

def sameLockDirectory (entry : RootEntry) (inode : Inode) : LockProgram Bool :=
  invokeIfPresent (.lstat entry) (fun found : Nat => found = inode) false

/-- The entries of a directory are removed one by one. -/
def removeEntries (place : Place) : List LockEntry → LockProgram PUnit
  | [] => pure ⟨⟩
  | entry :: rest => do
      invokeIfPresent (.unlink place entry) (fun _ => PUnit.unit) ⟨⟩
      removeEntries place rest

/-- `rmSync` of a directory. -/
def removeDirectory (entry : RootEntry) : LockProgram PUnit := do
  let entries ← invoke (.readdir entry)
  removeEntries (.named entry) entries
  invoke (.rmdir entry)

def removeLockArtifact (entry : RootEntry) (inode : Inode) : LockProgram PUnit := do
  if ← sameLockDirectory entry inode then removeDirectory entry

def removeLockFile (descriptor : Descriptor) (entry : LockEntry) : LockProgram PUnit := do
  if ← invokeIfPresent (.lstatFile (.opened descriptor) entry) (fun _ => true) false then
    invokeIfPresent (.unlink (.opened descriptor) entry) (fun _ => PUnit.unit) ⟨⟩

/-! ## Owners -/

def createLockOwner : LockProgram LockOwner := do
  let process ← invoke .identify
  let nonce ← invoke .newId
  let acquiredAt ← invoke .now
  pure ⟨process, nonce, acquiredAt⟩

def isStaleLockOwner : Option LockOwner → LockProgram Bool
  | none => invoke .isAged
  | some owner => invoke (.isGone owner.process)

/-- Every handle has a capability of its own. -/
structure LockHandle where
  owner : LockOwner
  descriptor : Descriptor
  ownerBytes : Bytes
  publicationUncertain : Bool
  deriving DecidableEq, Repr

section Owners

variable [OwnerText]

structure OwnerState where
  bytes : Bytes
  owner : Option LockOwner

def readLockOwnerState (descriptor : Descriptor) : LockProgram (Option OwnerState) := do
  let bytes ← readRegularFile (.opened descriptor) .owner
  pure (bytes.map fun bytes => ⟨bytes, OwnerText.decode bytes⟩)

/-- The owner that has been read is the one that is expected. -/
def OwnerState.isOf (actual : Option OwnerState) (ownerBytes : Bytes) (nonce : Nonce) : Bool :=
  actual.any fun state => state.bytes = ownerBytes ∧ state.owner.any (·.nonce = nonce)

/-- Whatever goes wrong, the lock is not owned. -/
def unconfirmed : LockError → LockProgram PUnit
  | .lockOwnership message => raise (.lockOwnership message)
  | _ => raise (.lockOwnership "AI 配置事务锁所有权无法确认")

def assertPlatformRouterLockOwned (handle : LockHandle) : LockProgram PUnit := do
  let finished : Bool ← invoke (.isFinished handle.owner.nonce)
  if finished then
    raise (.lockOwnership "AI 配置事务锁能力无效、已释放或根目录不匹配")
  catching unconfirmed do
    let _ ← invoke (.fstatDirectory handle.descriptor)
    if (← sameLockDirectory .lock handle.descriptor.inode) = false then
      raise (.lockOwnership "AI 配置事务锁规范目录身份已改变")
    let actual ← readLockOwnerState handle.descriptor
    if OwnerState.isOf actual handle.ownerBytes handle.owner.nonce = false then
      raise (.lockOwnership "AI 配置事务锁所有者字节或 nonce 已改变")

/-- The checks of a new handle on the lock that it has opened. -/
def checkPublished (owner : LockOwner) (expected : Option Inode) (descriptor : Descriptor) :
    LockProgram LockHandle := do
  invoke (.fstatDirectory descriptor)
  let actual ← readLockOwnerState descriptor
  let mismatch : LockError := .lockOwnership "AI 配置事务锁发布后的目录或所有者身份不匹配"
  if expected.any (· ≠ descriptor.inode) then raise mismatch
  else if (← sameLockDirectory .lock descriptor.inode) = false then raise mismatch
  else if OwnerState.isOf actual (OwnerText.encode owner) owner.nonce = false then raise mismatch
  else pure ⟨owner, descriptor, OwnerText.encode owner, false⟩

def createLockHandle (owner : LockOwner) (expected : Option Inode) : LockProgram LockHandle := do
  let descriptor ← invoke (.openDirectory .lock)
  (checkPublished owner expected descriptor).handle fun
    | .ok handle => done (.ok handle)
    | .error error => do
        invoke (.closeDirectory descriptor)
        raise error

def finishLockCapability (handle : LockHandle) : LockProgram PUnit := do
  invoke (.finish handle.owner.nonce)
  invoke (.closeDirectory handle.descriptor)

/-! ## Release -/

/-- A lock that was renamed away turned out to be another one. -/
def restoreMismatch (handle : LockHandle) : LockProgram PUnit := do
  let released : RootEntry := .released handle.owner.nonce
  if (← pathExists .lock) = false then
    if ← pathExists released then
      catching (fun _ => pure ⟨⟩) (invoke (.rename released .lock))
  finishLockCapability handle
  raise (.lockOwnership "AI 配置事务锁释放路径身份已改变")

/-- The lock that was renamed away is removed; the first failure is thrown at the end. -/
def removeReleased (handle : LockHandle) (syncRoot : Bool) : LockProgram PUnit :=
  (if syncRoot then fsyncRoot else pure ⟨⟩).handle fun synced =>
    (do
      removeLockArtifact (.released handle.owner.nonce) handle.descriptor.inode
      if syncRoot then fsyncRoot).handle fun removed => do
    finishLockCapability handle
    done synced
    done removed

def releasePlatformRouterLock (handle : LockHandle) (syncRoot : Bool) : LockProgram PUnit :=
  (assertPlatformRouterLockOwned handle).handle fun
    | .error error => do
        finishLockCapability handle
        raise error
    | .ok _ => do
        let released : RootEntry := .released handle.owner.nonce
        assertAbsent released "AI 配置事务锁释放路径已存在"
        assertPlatformRouterLockOwned handle
        invoke (.rename .lock released)
        if ← sameLockDirectory released handle.descriptor.inode then
          removeReleased handle syncRoot
        else restoreMismatch handle

/-- The directory could not be synchronized, so the lock is given up, or else kept. -/
def releaseUnsynced (handle : LockHandle) (cause : LockError) (message : String) :
    LockProgram LockHandle :=
  (releasePlatformRouterLock handle false).handle fun
    | .ok _ => raise cause
    | .error _ => (assertPlatformRouterLockOwned handle).handle fun
        | .ok _ => done (.ok { handle with publicationUncertain := true })
        | .error _ => raise (.transaction message)

/-! ## Takeover -/

structure LockInspection where
  descriptor : Descriptor
  ownerBytes : Option Bytes
  owner : Option LockOwner
  stale : Bool

/-- What an open lock shows; nothing if it is not the lock any more. -/
def inspectOpened (descriptor : Descriptor) : LockProgram (Option LockInspection) := do
  invoke (.fstatDirectory descriptor)
  let ownerState ← readLockOwnerState descriptor
  if ← sameLockDirectory .lock descriptor.inode then
    let owner := ownerState.bind (·.owner)
    let stale ← isStaleLockOwner owner
    pure (some ⟨descriptor, ownerState.map (·.bytes), owner, stale⟩)
  else
    invoke (.closeDirectory descriptor)
    pure none

def inspectLockStaleness : LockProgram (Option LockInspection) :=
  (invoke (.openDirectory .lock)).handle fun
    | .error (.system .noEntry) => done (.ok none)
    | .error _ => raise (.corruption "AI 配置事务锁路径无效")
    | .ok descriptor => (inspectOpened descriptor).handle fun
        | .ok inspection => done (.ok inspection)
        | .error error => do
            invoke (.closeDirectory descriptor)
            raise error

def LockInspection.claim (inspection : LockInspection) : LockEntry :=
  .recoveryClaim <| match inspection.owner with
    | some owner => .nonce owner.nonce
    | none => .digest inspection.descriptor.inode (inspection.ownerBytes.getD [])

/-- The claim has been written; it becomes the owner unless something has changed. -/
def claimOwner (inspection : LockInspection) (owner : LockOwner) :
    LockProgram (Option LockHandle) := do
  let descriptor := inspection.descriptor
  invoke (.fsyncDirectory descriptor)
  if (← sameLockDirectory .lock descriptor.inode) = false then pure none
  else
    let current ← readLockOwnerState descriptor
    if current.map (·.bytes) ≠ inspection.ownerBytes then pure none
    else if (← isStaleLockOwner (current.bind (·.owner))) = false then pure none
    else
      invoke (.renameFile descriptor inspection.claim .owner)
      let handle ← createLockHandle owner (some descriptor.inode)
      (invoke (.fsyncDirectory descriptor)).handle fun
        | .ok _ => done (.ok (some handle))
        | .error cause => do
            let handle ← releaseUnsynced handle cause "AI 配置事务锁接管同步失败且无法安全回滚"
            pure (some handle)

def takeOverStaleLock (inspection : LockInspection) (owner : LockOwner) :
    LockProgram (Option LockHandle) := do
  if (← sameLockDirectory .lock inspection.descriptor.inode) = false then pure none
  else
    (writeExclusiveFile (.opened inspection.descriptor) inspection.claim
        (OwnerText.encode owner)).handle fun
      | .error (.system .exists) | .error (.system .noEntry) => done (.ok none)
      | .error error => done (.error error)
      | .ok _ => eventually (removeLockFile inspection.descriptor inspection.claim)
          (claimOwner inspection owner)

/-! ## Acquisition -/

/-- The candidate is prepared and renamed to the lock. -/
def publishCandidate (owner : LockOwner) : LockProgram PUnit := do
  let candidate : RootEntry := .candidate owner.nonce
  invoke (.chmod candidate)
  writeExclusiveFile (.named candidate) .owner (OwnerText.encode owner)
  fsyncDirectory candidate
  assertAbsent .lock "AI 配置事务锁已被其他进程持有"
  invoke (.rename candidate .lock)

/-- The handle of a lock that has just been published. -/
def openPublished (owner : LockOwner) (inode : Inode) : LockProgram LockHandle := do
  let handle ← createLockHandle owner (some inode)
  fsyncRoot.handle fun
    | .ok _ => done (.ok handle)
    | .error cause =>
        releaseUnsynced handle cause "AI 配置事务锁发布同步失败且无法安全回滚"

/-- One try to publish a lock; a candidate that is not published is removed. -/
def publishLock (owner : LockOwner) : LockProgram (Except LockError LockHandle) :=
  let candidate : RootEntry := .candidate owner.nonce
  ((invoke (.mkdir candidate)).andThen fun _ => invoke (.lstat candidate)).handle fun
    | .error error => pure (.error error)
    | .ok inode => (publishCandidate owner).handle fun
        | .error error => do
            removeLockArtifact candidate inode
            pure (.error error)
        | .ok _ => (openPublished owner inode).handle fun result => pure result

/-- Somebody else has the lock. -/
def LockError.isTaken : LockError → Bool
  | .conflict _ | .system .exists | .system .notEmpty => true
  | _ => false

/-- What an error of a try is reported as. -/
def LockError.reported : LockError → LockError
  | .system _ => .transaction "AI 配置事务锁无法创建"
  | error => error

/-- Waits for the owner of the lock, unless the time is over. -/
def awaitLock (timeoutMs startedAt jitter : Nat) : LockProgram PUnit := do
  let now : Nat ← invoke .now
  let elapsed := now - startedAt
  if timeoutMs ≤ elapsed then raise (.lockTimeout "AI 配置事务锁等待超时")
  else invoke (.sleep (max 1 (min jitter (timeoutMs - elapsed))))

/-- The lock is taken; a stale one is taken over. -/
def contend (timeoutMs startedAt jitter : Nat) : LockProgram (Option LockHandle) := do
  match ← inspectLockStaleness with
  | none => pure none
  | some inspection =>
      let taken ← eventually (invoke (.closeDirectory inspection.descriptor)) do
        if inspection.stale then
          let owner ← createLockOwner
          let recovered ← takeOverStaleLock inspection owner
          pure (some recovered)
        else pure none
      match taken with
      | some recovered => pure recovered
      | none => do
          awaitLock timeoutMs startedAt jitter
          pure none

/-- One round of `acquirePlatformRouterLock`; without a handle there is another round. -/
def acquireRound (timeoutMs startedAt jitter : Nat) : LockProgram (Option LockHandle) := do
  let owner ← createLockOwner
  match ← publishLock owner with
  | .ok handle => pure (some handle)
  | .error error =>
      if error.isTaken then contend timeoutMs startedAt jitter
      else raise error.reported

end Owners

end MatchPlane.Router
