import Mathlib
import MatchPlane.Domain.Identifiers
import MatchPlane.Library.Programs

/-!
# Files of the lock

The part of the file system that the transaction lock of the platform router uses: the
directories in its root, and the files in them.  A call is atomic, and may fail without an
effect.  Numbers of directories are used again once nothing links or opens them.
-/

namespace MatchPlane.Router

open MatchPlane.Library

/-! ## Names -/

/-- A process; its number stands for the boot, the process id and the start ticks. -/
structure Process where
  number : Nat
  deriving DecidableEq, Repr

/-- One of the calls that a process works on at a time. -/
structure Thread where
  process : Process
  number : Nat
  deriving DecidableEq, Repr

/-- A random UUID: no two drawings give the same. -/
structure Nonce where
  author : Thread
  number : Nat
  deriving DecidableEq, Repr

structure LockOwner where
  process : Process
  nonce : Nonce
  acquiredAt : Nat
  deriving DecidableEq, Repr

/-- The text of an owner. -/
class OwnerText where
  encode : LockOwner → Bytes
  decode : Bytes → Option LockOwner
  decode_encode : ∀ owner, decode (encode owner) = some owner

abbrev Inode := Nat

inductive ClaimIdentity where
  | nonce (nonce : Nonce)
  /-- The digest of the number of the directory and of the bytes of its owner. -/
  | digest (inode : Inode) (ownerBytes : Bytes)
  deriving DecidableEq, Repr

/-- The directories in the root. -/
inductive RootEntry where
  | lock
  | candidate (nonce : Nonce)
  | released (nonce : Nonce)
  deriving DecidableEq, Repr

/-- The files in a directory of a lock. -/
inductive LockEntry where
  | owner
  | recoveryClaim (identity : ClaimIdentity)
  deriving DecidableEq, Repr

/-- A file that a thread has created. -/
structure FileId where
  author : Thread
  number : Nat
  deriving DecidableEq, Repr

/-- An open directory. -/
structure Descriptor where
  holder : Thread
  number : Nat
  inode : Inode
  deriving DecidableEq, Repr

/-- A path to a directory. -/
inductive Place where
  | named (entry : RootEntry)
  /-- `/proc/self/fd`. -/
  | opened (descriptor : Descriptor)
  deriving DecidableEq, Repr

/-! ## States -/

abbrev Dictionary (κ ν : Type) := AList fun _ : κ => ν

structure LockState where
  root : Dictionary RootEntry Inode
  entries : Inode → Dictionary LockEntry FileId
  files : FileId → Bytes
  /-- The file is open for writing. -/
  writable : FileId → Bool
  descriptors : List Descriptor
  /-- The number of the next thing that gets one. -/
  next : Nat
  crashed : Process → Bool
  /-- The handles that have been given up. -/
  finished : Nonce → Bool
  clock : Nat

namespace LockState

def empty : LockState where
  root := ∅
  entries := fun _ => ∅
  files := fun _ => []
  writable := fun _ => false
  descriptors := []
  next := 0
  crashed := fun _ => false
  finished := fun _ => false
  clock := 0

variable (s : LockState)

def ownerFile (inode : Inode) : Option FileId := (s.entries inode).lookup .owner

def ownerBytes (inode : Inode) : Option Bytes := (s.ownerFile inode).map s.files

/-- Nothing links or opens the directory. -/
def isFree (inode : Inode) : Bool :=
  s.root.entries.all (fun entry => entry.2 ≠ inode) ∧
    s.descriptors.all fun descriptor => descriptor.inode ≠ inode

def isLinked (inode : Inode) : Bool := s.root.entries.any fun entry => entry.2 = inode

end LockState

/-! ## Calls -/

inductive Errno where
  | noEntry
  | exists
  | notEmpty
  | badDescriptor
  | inputOutput
  deriving DecidableEq, Repr

inductive LockCall where
  | newId
  | identify
  /-- The boot has changed, or the process is gone. -/
  | isGone (process : Process)
  /-- A directory without an owner is older than the grace. -/
  | isAged
  | now
  | sleep (milliseconds : Nat)
  | isFinished (nonce : Nonce)
  | finish (nonce : Nonce)
  | mkdir (entry : RootEntry)
  | chmod (entry : RootEntry)
  | lstat (entry : RootEntry)
  | openDirectory (entry : RootEntry)
  | fstatDirectory (descriptor : Descriptor)
  | fsyncDirectory (descriptor : Descriptor)
  | closeDirectory (descriptor : Descriptor)
  | openRoot
  | fsyncRoot
  | closeRoot
  | readdir (entry : RootEntry)
  | rmdir (entry : RootEntry)
  | rename (source target : RootEntry)
  | lstatFile (place : Place) (entry : LockEntry)
  /-- `O_CREAT | O_EXCL`. -/
  | create (place : Place) (entry : LockEntry)
  | openFile (place : Place) (entry : LockEntry)
  | fstatFile (file : FileId)
  | fchmod (file : FileId)
  | write (file : FileId) (bytes : Bytes)
  | fsyncFile (file : FileId)
  | closeFile (file : FileId)
  | read (file : FileId)
  | closeReader (file : FileId)
  | renameFile (descriptor : Descriptor) (source target : LockEntry)
  | unlink (place : Place) (entry : LockEntry)
  deriving DecidableEq, Repr

namespace LockCall

def Value : LockCall → Type
  | newId => Nonce
  | identify => Process
  | isGone _ | isAged | isFinished _ => Bool
  | now | write _ _ => Nat
  | lstat _ => Inode
  | openDirectory _ => Descriptor
  | readdir _ => List LockEntry
  | create _ _ | openFile _ _ => FileId
  | read _ => Bytes
  | _ => PUnit

abbrev Answer (c : LockCall) : Type := Except Errno c.Value

/-- The call stays in the process and cannot fail. -/
def isLocal : LockCall → Bool
  | newId | now | sleep _ | isFinished _ | finish _ | isAged => true
  | _ => false

end LockCall

/-- What is left open in a call. -/
structure Choice where
  fails : Bool
  /-- The number of a new directory. -/
  inode : Inode
  /-- How many bytes a write takes. -/
  count : Nat
  /-- How much longer than asked for a sleep is. -/
  delay : Nat
  aged : Bool
  deriving DecidableEq, Repr

namespace LockState

/-- The directory of a path. -/
def resolve (s : LockState) : Place → Option Inode
  | .named entry => s.root.lookup entry
  | .opened descriptor => some descriptor.inode

def setEntries (s : LockState) (inode : Inode) (entries : Dictionary LockEntry FileId) :
    LockState :=
  { s with entries := Function.update s.entries inode entries }

def mkdir (s : LockState) (entry : RootEntry) (inode : Inode) : Except Errno PUnit × LockState :=
  if (s.root.lookup entry).isSome then (.error .exists, s)
  else if s.isFree inode = false then (.error .inputOutput, s)
  else (.ok ⟨⟩, { s with root := s.root.insert entry inode }.setEntries inode ∅)

/-- A directory takes the place of another one only if that one is empty. -/
def rename (s : LockState) (source target : RootEntry) : Except Errno PUnit × LockState :=
  match s.root.lookup source with
  | none => (.error .noEntry, s)
  | some inode =>
      if (s.root.lookup target).any fun other => (s.entries other).keys ≠ [] then
        (.error .notEmpty, s)
      else (.ok ⟨⟩, { s with root := (s.root.erase source).insert target inode })

def rmdir (s : LockState) (entry : RootEntry) : Except Errno PUnit × LockState :=
  match s.root.lookup entry with
  | none => (.error .noEntry, s)
  | some inode =>
      if (s.entries inode).keys ≠ [] then (.error .notEmpty, s)
      else (.ok ⟨⟩, { s with root := s.root.erase entry })

def openDirectory (s : LockState) (t : Thread) (entry : RootEntry) :
    Except Errno Descriptor × LockState :=
  match s.root.lookup entry with
  | none => (.error .noEntry, s)
  | some inode =>
      let descriptor : Descriptor := ⟨t, s.next, inode⟩
      (.ok descriptor,
        { s with
          descriptors := descriptor :: s.descriptors
          next := s.next + 1 })

def closeDirectory (s : LockState) (descriptor : Descriptor) : Except Errno PUnit × LockState :=
  if descriptor ∈ s.descriptors then
    (.ok ⟨⟩, { s with descriptors := s.descriptors.erase descriptor })
  else (.error .badDescriptor, s)

/-- Nothing is created in a directory that has been removed. -/
def create (s : LockState) (t : Thread) (place : Place) (entry : LockEntry) :
    Except Errno FileId × LockState :=
  match (s.resolve place).filter s.isLinked with
  | none => (.error .noEntry, s)
  | some inode =>
      if ((s.entries inode).lookup entry).isSome then (.error .exists, s)
      else
        let file : FileId := ⟨t, s.next⟩
        (.ok file,
          { s with
            files := Function.update s.files file []
            writable := Function.update s.writable file true
            next := s.next + 1 }.setEntries inode ((s.entries inode).insert entry file))

/-- The file of a path. -/
def fileAt (s : LockState) (place : Place) (entry : LockEntry) : Option FileId :=
  (s.resolve place).bind fun inode => (s.entries inode).lookup entry

def write (s : LockState) (file : FileId) (bytes : Bytes) (count : Nat) :
    Except Errno Nat × LockState :=
  if s.writable file then
    (.ok (min count bytes.length),
      { s with files := Function.update s.files file (s.files file ++ bytes.take count) })
  else (.error .badDescriptor, s)

def renameFile (s : LockState) (descriptor : Descriptor) (source target : LockEntry) :
    Except Errno PUnit × LockState :=
  let entries := s.entries descriptor.inode
  match entries.lookup source with
  | none => (.error .noEntry, s)
  | some file =>
      (.ok ⟨⟩, s.setEntries descriptor.inode ((entries.erase source).insert target file))

def unlink (s : LockState) (place : Place) (entry : LockEntry) : Except Errno PUnit × LockState :=
  match s.resolve place with
  | none => (.error .noEntry, s)
  | some inode =>
      if ((s.entries inode).lookup entry).isNone then (.error .noEntry, s)
      else (.ok ⟨⟩, s.setEntries inode ((s.entries inode).erase entry))

/-- An answer that depends on nothing being missing. -/
def found {α : Type} (s : LockState) : Option α → Except Errno α × LockState
  | some value => (.ok value, s)
  | none => (.error .noEntry, s)

/-- What a call does and answers. -/
def perform (t : Thread) (choice : Choice) (c : LockCall) (s : LockState) :
    c.Answer × LockState :=
  if choice.fails ∧ c.isLocal = false then (.error .inputOutput, s)
  else
    match c with
    | .newId => (.ok ⟨t, s.next⟩, { s with next := s.next + 1 })
    | .identify => (.ok t.process, s)
    | .isGone process => (.ok (s.crashed process), s)
    | .isAged => (.ok choice.aged, s)
    | .now => (.ok s.clock, s)
    | .sleep milliseconds => (.ok ⟨⟩, { s with clock := s.clock + milliseconds + choice.delay })
    | .isFinished nonce => (.ok (s.finished nonce), s)
    | .finish nonce => (.ok ⟨⟩, { s with finished := Function.update s.finished nonce true })
    | .mkdir entry => s.mkdir entry choice.inode
    | .chmod _ => (.ok ⟨⟩, s)
    | .lstat entry => s.found (s.root.lookup entry)
    | .openDirectory entry => s.openDirectory t entry
    | .fstatDirectory _ => (.ok ⟨⟩, s)
    | .fsyncDirectory _ => (.ok ⟨⟩, s)
    | .closeDirectory descriptor => s.closeDirectory descriptor
    | .openRoot => (.ok ⟨⟩, s)
    | .fsyncRoot => (.ok ⟨⟩, s)
    | .closeRoot => (.ok ⟨⟩, s)
    | .readdir entry => s.found ((s.root.lookup entry).map fun inode => (s.entries inode).keys)
    | .rmdir entry => s.rmdir entry
    | .rename source target => s.rename source target
    | .lstatFile place entry => s.found ((s.fileAt place entry).map fun _ => ⟨⟩)
    | .create place entry => s.create t place entry
    | .openFile place entry => s.found (s.fileAt place entry)
    | .fstatFile _ => (.ok ⟨⟩, s)
    | .fchmod _ => (.ok ⟨⟩, s)
    | .write file bytes => s.write file bytes choice.count
    | .fsyncFile _ => (.ok ⟨⟩, s)
    | .closeFile file => (.ok ⟨⟩, { s with writable := Function.update s.writable file false })
    | .read file => (.ok (s.files file), s)
    | .closeReader _ => (.ok ⟨⟩, s)
    | .renameFile descriptor source target => s.renameFile descriptor source target
    | .unlink place entry => s.unlink place entry

end LockState

end MatchPlane.Router
