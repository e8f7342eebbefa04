import Egress.Fault
import Egress.Host.Path
import Egress.Keyed
import Egress.Text.Utf8

/-!
# A store of files

Files and directories of a machine, each at a location: the names that lead to it from the root.
Paths are texts and are followed name by name from the root or from the current directory
(`locate`), through directories that their owner may search. Reading fails with the system's faults.
-/

set_option autoImplicit false

namespace Egress.Host

/-- Names from the root. -/
abbrev Location := List String

/-! ## Permission bits -/

/-- Whether permission bits let the owner read. -/
def mayRead (mode : Nat) : Bool :=
  mode / 0o400 % 2 = 1

/-- Whether permission bits let the owner write. -/
def mayWrite (mode : Nat) : Bool :=
  mode / 0o200 % 2 = 1

/-- Permission bits without those of a mask. -/
def withoutMask (mode mask : Nat) : Nat :=
  mode &&& (0o7777 - mask)

/-- Whether permission bits let the owner run a file, or look up names in a directory. -/
def mayExecute (mode : Nat) : Bool :=
  mode / 0o100 % 2 = 1

/-- What can stand at a location, with its permission bits. -/
inductive Entry where
  | file (content : List UInt8) (mode : Nat)
  | directory (mode : Nat)
  deriving DecidableEq

/-- Permission bits of an entry. -/
def Entry.mode : Entry → Nat
  | .file _ mode => mode
  | .directory mode => mode

/-- Whether an entry is a directory. -/
def Entry.isDirectory : Entry → Bool
  | .file .. => false
  | .directory _ => true

/-- Files and directories. -/
structure FileStore where
  entries : List (Location × Entry) := []
  /-- The current directory. -/
  cwd : Location := []
  /-- Permission bits that new entries do not get. -/
  mask : Nat := 0o022

namespace FileStore

/-- What stands at a location; the root is a directory that cannot be written. -/
def entry? (s : FileStore) (l : Location) : Option Entry :=
  if l = [] then some (.directory 0o555) else Keyed.get? l s.entries

/-- Puts an entry at a location. -/
def put (s : FileStore) (l : Location) (e : Entry) : FileStore :=
  { s with entries := Keyed.set l e s.entries }

/-- Without the entry at a location. -/
def drop (s : FileStore) (l : Location) : FileStore :=
  { s with entries := s.entries.filter fun e => e.1 ≠ l }

/-! ## Following paths -/

/-- Most bytes a name may have. -/
def maxName : Nat := 255

/-- Most bytes a path may have. -/
def maxPath : Nat := 4095

/-- Fails unless names can be looked up at a location. -/
def search (s : FileStore) (l : Location) : Except Fault Unit :=
  match s.entry? l with
  | none => .error .noEntry
  | some (.file ..) => .error .notDirectory
  | some (.directory mode) => if mayExecute mode then .ok () else .error .denied

/-- The location of a name below another one, if it is not too long to be looked up. -/
def child (l : Location) (name : List Char) : Except Fault Location :=
  let name := String.ofList name
  if maxName < name.utf8ByteSize then .error .nameTooLong else .ok (l ++ [name])

/-- Follows pieces of a path from a location; only the last may lead to something missing. Between
two slashes nothing is looked up, yet a directory has to be there. -/
def follow (s : FileStore) : Location → List (List Char) → Except Fault Location
  | l, [] => .ok l
  | l, [] :: rest =>
    match s.entry? l with
    | none => .error .noEntry
    | some (.file ..) => .error .notDirectory
    | some (.directory _) => follow s l rest
  | l, piece :: rest =>
    match s.search l with
    | .error e => .error e
    | .ok () =>
      if piece = ['.'] then follow s l rest
      else if piece = ['.', '.'] then follow s l.dropLast rest
      else match child l piece with
        | .error e => .error e
        | .ok next => follow s next rest

/-- Pieces of a path and the location where they start, if the path is one at all. -/
def begin? (s : FileStore) (path : String) : Except Fault (Location × List (List Char)) :=
  if '\x00' ∈ path.toList then .error .nullInPath
  else if path = "" then .error .noEntry
  else if maxPath < path.utf8ByteSize then .error .nameTooLong
  else .ok (if path.toList.head? = some '/' then [] else s.cwd, Text.pieces '/' path.toList)

/-- The location a path leads to, whether something stands there or not. -/
def locate (s : FileStore) (path : String) : Except Fault Location := do
  let (start, pieces) ← s.begin? path
  s.follow start pieces

/-- What stands at the end of a path. -/
def lookup (s : FileStore) (path : String) : Except Fault (Location × Entry) := do
  let l ← s.locate path
  match s.entry? l with
  | some e => .ok (l, e)
  | none => .error .noEntry

/-- The directory that a path's last piece is looked up in, and that piece; none for the root. -/
def holder (s : FileStore) (path : String) : Except Fault (Location × Option (List Char)) := do
  let (start, pieces) ← s.begin? path
  match (pieces.filter (!·.isEmpty)).reverse with
  | [] => return (start, none)
  | last :: rest =>
    let dir ← s.follow start rest.reverse
    s.search dir
    return (dir, some last)

/-- Whether a piece of a path names something by itself. -/
def isName : Option (List Char) → Bool
  | none => false
  | some piece => piece ≠ ['.'] && piece ≠ ['.', '.']

/-! ## Reading -/

/-- Whether something stands at the end of a path. -/
def has (s : FileStore) (path : String) : Bool :=
  match s.lookup path with
  | .ok _ => true
  | .error _ => false

/-- Whether a file stands at the end of a path. -/
def isFile (s : FileStore) (path : String) : Bool :=
  match s.lookup path with
  | .ok (_, .file ..) => true
  | _ => false

/-- Content and permission bits of a file. -/
def read (s : FileStore) (path : String) : Except Fault (List UInt8 × Nat) :=
  match s.lookup path with
  | .ok (_, .file content mode) => if mayRead mode then .ok (content, mode) else .error .denied
  | .ok (_, .directory mode) => .error (if mayRead mode then .isDirectory else .denied)
  | .error e => .error e

/-- Content of a file that holds text. -/
def readText (s : FileStore) (path : String) : Except Fault String := do
  let (content, _) ← s.read path
  match Text.decode? content with
  | some text => .ok text
  | none => .error .notText

/-- Whether one location lies below another. -/
def isBelow (inner outer : Location) : Bool :=
  outer.isPrefixOf inner && inner != outer

/-- Whether nothing lies below a location. -/
def isEmptyAt (s : FileStore) (l : Location) : Bool :=
  s.entries.all fun e => !isBelow e.1 l

/-- Names that stand directly below a location. -/
def namesAt (s : FileStore) (l : Location) : List String :=
  s.entries.filterMap fun e => if e.1.dropLast = l then e.1.getLast? else none

end FileStore

end Egress.Host
