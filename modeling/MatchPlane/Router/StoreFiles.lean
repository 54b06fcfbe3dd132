import MatchPlane.Router.Generations
import MatchPlane.Router.Lock

/-!
# Files of the store

The files that the platform router keeps besides its lock, and the calls that it makes on
them.  A call is atomic, and may fail without an effect.  A file that is open is known by
its path, since none is renamed while it is open.
-/

namespace MatchPlane.Router

open MatchPlane.Library

/-! ## Names -/

/-- The files in the root of the store. -/
inductive RootFile where
  | pointer
  | pointerTemporary (id : RouterId)
  | legacyConfig
  | legacyDraft
  | legacyMetadata
  | legacyAttestation
  | credential (file : CredentialFile)
  | credentialTemporary (file : CredentialFile) (id : CodeUnits)
  | audit
  deriving DecidableEq

/-- The files in the directory of the generations. -/
inductive GenerationFile where
  | generation (id : RouterId)
  | temporary (id nonce : RouterId)
  deriving DecidableEq

inductive StorePath where
  | root (file : RootFile)
  | generation (file : GenerationFile)
  deriving DecidableEq

inductive StoreDirectory where
  | root
  | generations
  deriving DecidableEq, Repr

def StorePath.directory : StorePath → StoreDirectory
  | root _ => .root
  | generation _ => .generations

/-- The file is there only while another one is being written. -/
def StorePath.isTemporary : StorePath → Bool
  | root (.pointerTemporary _) => true
  | root (.credentialTemporary _ _) => true
  | generation (.temporary _ _) => true
  | _ => false

def generationPathFor (id : RouterId) : StorePath := .generation (.generation id)

/-! ## States -/

structure StoredFile where
  bytes : Bytes
  modifiedAt : Int
  deriving DecidableEq, Repr

structure Store where
  files : Dictionary StorePath StoredFile
  hasGenerations : Bool

namespace Store

variable (s : Store)

def file (path : StorePath) : Option StoredFile := s.files.lookup path

def bytes (path : StorePath) : Option Bytes := (s.file path).map StoredFile.bytes

def setFile (path : StorePath) (file : StoredFile) : Store :=
  { s with files := s.files.insert path file }

def removeFile (path : StorePath) : Store := { s with files := s.files.erase path }

def empty : Store := ⟨∅, false⟩

@[simp] theorem file_setFile_self (path : StorePath) (file : StoredFile) :
    (s.setFile path file).file path = some file := AList.lookup_insert _

theorem file_setFile_of_ne {path other : StorePath} (h : other ≠ path) (file : StoredFile) :
    (s.setFile path file).file other = s.file other := AList.lookup_insert_ne h

@[simp] theorem file_removeFile_self (path : StorePath) : (s.removeFile path).file path = none :=
  AList.lookup_erase _ _

theorem file_removeFile_of_ne {path other : StorePath} (h : other ≠ path) :
    (s.removeFile path).file other = s.file other := AList.lookup_erase_ne h

@[simp] theorem hasGenerations_setFile (path : StorePath) (file : StoredFile) :
    (s.setFile path file).hasGenerations = s.hasGenerations := rfl

@[simp] theorem hasGenerations_removeFile (path : StorePath) :
    (s.removeFile path).hasGenerations = s.hasGenerations := rfl

end Store

/-! ## Calls -/

inductive StoreCall where
  | newId
  | now
  | nowMs
  | lstatDirectory (directory : StoreDirectory)
  | mkdirGenerations
  | chmodGenerations
  | lstat (path : StorePath)
  | openRead (path : StorePath)
  /-- `O_CREAT | O_EXCL`. -/
  | openExclusive (path : StorePath)
  /-- `O_CREAT | O_APPEND`. -/
  | openAppend (path : StorePath)
  | fstat (path : StorePath)
  | fchmod (path : StorePath)
  | read (path : StorePath)
  /-- The next part of a file that is read from a position on. -/
  | readChunk (path : StorePath) (position : Nat)
  | write (path : StorePath) (bytes : Bytes)
  | fsync (path : StorePath)
  | close (path : StorePath)
  | openDirectory (directory : StoreDirectory)
  | fsyncDirectory (directory : StoreDirectory)
  | closeDirectory (directory : StoreDirectory)
  | rename (source target : StorePath)
  | unlink (path : StorePath)
  | readdirRoot
  | readdirGenerations
  deriving DecidableEq

namespace StoreCall

def Value : StoreCall → Type
  | newId => CodeUnits
  | now => IsoInstant
  | nowMs => Int
  | lstat _ => Int
  | fstat _ => Nat
  | read _ => Bytes
  | readChunk _ _ => Bytes
  | write _ _ => Nat
  | readdirRoot => List RootFile
  | readdirGenerations => List GenerationFile
  | _ => PUnit

abbrev Answer (c : StoreCall) : Type := Except Errno c.Value

/-- The call stays in the process and cannot fail. -/
def isLocal : StoreCall → Bool
  | newId | now | nowMs => true
  | _ => false

/-- The call leaves every file as it is. -/
def isReading : StoreCall → Bool
  | mkdirGenerations | openExclusive _ | openAppend _ | write _ _ | rename _ _ | unlink _ => false
  | _ => true

end StoreCall

/-- What is left open in a call. -/
structure StoreChoice where
  fails : Bool
  /-- How many bytes a call reads or writes. -/
  count : Nat
  clock : Int
  instant : IsoInstant
  id : CodeUnits
  deriving DecidableEq

/-- The most bytes that are read at once. -/
def auditScanChunkBytes : Nat := 65536

namespace Store

variable (s : Store)

/-- An answer that depends on a file being there. -/
def found {α : Type} (path : StorePath) (answer : StoredFile → α) : Except Errno α :=
  match s.file path with
  | some file => .ok (answer file)
  | none => .error .noEntry

/-- A file in a directory that is there. -/
def canCreate (path : StorePath) : Bool := path.directory = .root ∨ s.hasGenerations

def openExclusive (clock : Int) (path : StorePath) : Except Errno PUnit × Store :=
  if s.canCreate path = false then (.error .noEntry, s)
  else if (s.file path).isSome then (.error .exists, s)
  else (.ok ⟨⟩, s.setFile path ⟨[], clock⟩)

def openAppend (clock : Int) (path : StorePath) : Except Errno PUnit × Store :=
  if s.canCreate path = false then (.error .noEntry, s)
  else if (s.file path).isSome then (.ok ⟨⟩, s)
  else (.ok ⟨⟩, s.setFile path ⟨[], clock⟩)

def write (count : Nat) (clock : Int) (path : StorePath) (bytes : Bytes) :
    Except Errno Nat × Store :=
  match s.file path with
  | some file =>
      (.ok (min count bytes.length), s.setFile path ⟨file.bytes ++ bytes.take count, clock⟩)
  | none => (.ok (min count bytes.length), s)

def rename (source target : StorePath) : Except Errno PUnit × Store :=
  match s.file source with
  | some file => (.ok ⟨⟩, (s.removeFile source).setFile target file)
  | none => (.error .noEntry, s)

def unlink (path : StorePath) : Except Errno PUnit × Store :=
  match s.file path with
  | some _ => (.ok ⟨⟩, s.removeFile path)
  | none => (.error .noEntry, s)

def mkdirGenerations : Except Errno PUnit × Store :=
  if s.hasGenerations then (.error .exists, s) else (.ok ⟨⟩, { s with hasGenerations := true })

def rootFiles : List RootFile :=
  s.files.keys.filterMap fun
    | .root file => some file
    | .generation _ => none

def generationFiles : List GenerationFile :=
  s.files.keys.filterMap fun
    | .root _ => none
    | .generation file => some file

/-- What a call does and answers. -/
def perform (choice : StoreChoice) (c : StoreCall) : c.Answer × Store :=
  if choice.fails ∧ c.isLocal = false then (.error .inputOutput, s)
  else
    match c with
    | .newId => (.ok choice.id, s)
    | .now => (.ok choice.instant, s)
    | .nowMs => (.ok choice.clock, s)
    | .lstatDirectory directory =>
        (if directory = .root ∨ s.hasGenerations then .ok ⟨⟩ else .error .noEntry, s)
    | .mkdirGenerations => s.mkdirGenerations
    | .chmodGenerations => (.ok ⟨⟩, s)
    | .lstat path => (s.found path StoredFile.modifiedAt, s)
    | .openRead path => (s.found path fun _ => ⟨⟩, s)
    | .openExclusive path => s.openExclusive choice.clock path
    | .openAppend path => s.openAppend choice.clock path
    | .fstat path => (s.found path fun file => file.bytes.length, s)
    | .fchmod _ => (.ok ⟨⟩, s)
    | .read path => (s.found path StoredFile.bytes, s)
    | .readChunk path position => (s.found path fun file =>
        (file.bytes.drop position).take (max 1 (min choice.count auditScanChunkBytes)), s)
    | .write path bytes => s.write choice.count choice.clock path bytes
    | .fsync _ => (.ok ⟨⟩, s)
    | .close _ => (.ok ⟨⟩, s)
    | .openDirectory directory =>
        (if directory = .root ∨ s.hasGenerations then .ok ⟨⟩ else .error .noEntry, s)
    | .fsyncDirectory _ => (.ok ⟨⟩, s)
    | .closeDirectory _ => (.ok ⟨⟩, s)
    | .rename source target => s.rename source target
    | .unlink path => s.unlink path
    | .readdirRoot => (.ok s.rootFiles, s)
    | .readdirGenerations =>
        (if s.hasGenerations then .ok s.generationFiles else .error .noEntry, s)

end Store

/-! ## The router -/

structure RouterState where
  lock : LockState
  store : Store

inductive RouterCall where
  | lock (c : LockCall)
  | store (c : StoreCall)
  /-- A loop that has not come to its end. -/
  | forever

def RouterCall.Answer : RouterCall → Type
  | lock c => c.Answer
  | store c => c.Answer
  | forever => Empty

/-- Whatever the calls answer, failures included. -/
def RouterState.step (t : Thread) : (c : RouterCall) → RouterState → c.Answer → RouterState → Prop
  | .lock c, s, answer, s' =>
      ∃ choice, s.lock.perform t choice c = (answer, s'.lock) ∧ s.store = s'.store
  | .store c, s, answer, s' =>
      ∃ choice, s.store.perform choice c = (answer, s'.store) ∧ s.lock = s'.lock
  | .forever, _, _, _ => False

end MatchPlane.Router
