import Egress.Host.FileStore.Basic

/-!
# Changes to files

Staging, creating, changing permissions, renaming and removing. Each fails with the system's faults
and then changes nothing. What is put into a directory, or taken from it, needs the right to write
the directory and to look up names in it.
-/

set_option autoImplicit false

namespace Egress.Host.FileStore

/-- Fails unless entries of the directory at a location can be added and removed. -/
def mayChange (s : FileStore) (l : Location) : Except Fault Unit :=
  match s.entry? l with
  | some (.directory mode) => if mayWrite mode && mayExecute mode then .ok () else .error .denied
  | some (.file ..) => .error .notDirectory
  | none => .error .noEntry

/-- Whether a path ends with a slash. -/
def endsInSlash (path : String) : Bool :=
  path.toList.getLast? = some '/'

/-! ## Staging -/

/-- Whether a name looks like one of a staged file. -/
def isStaged (name : String) : Bool :=
  name.toList.all fun c => c = '.' || c = 't'

/-- Length of the longest name in the store that looks like one of a staged file. -/
def longestStaged (s : FileStore) : Nat :=
  ((s.entries.flatMap fun e => (e.1.filter isStaged).map String.length)).foldl max 0

/-- A name that nothing in the store has: of those that look like it, none is as long. -/
def freshName (s : FileStore) : String :=
  String.ofList ('.' :: List.replicate (max 9 s.longestStaged) 't')

/-- Makes an empty file in a directory, for its owner only; gives its path. -/
def createIn (s : FileStore) (dir : String) : Except Fault (FileStore × String) := do
  let path := dir ++ "/" ++ s.freshName
  let l ← s.locate path
  s.mayChange l.dropLast
  return (s.put l (.file [] 0o600), path)

/-- Writes bytes at the end of a file that was opened when it was made. -/
def append (s : FileStore) (path : String) (bytes : List UInt8) : Except Fault FileStore := do
  match ← s.lookup path with
  | (l, .file content mode) => .ok (s.put l (.file (content ++ bytes) mode))
  | (_, .directory _) => .error .isDirectory

/-! ## Permission bits -/

/-- Changes permission bits; of the number the low twelve bits. -/
def setMode (s : FileStore) (path : String) (mode : Nat) : Except Fault FileStore := do
  match ← s.lookup path with
  | (l, .file content _) => .ok (s.put l (.file content (mode % 0o10000)))
  | (l, .directory _) =>
    if l = [] then .error .notPermitted else .ok (s.put l (.directory (mode % 0o10000)))

/-! ## Renaming -/

/-- Puts the entry at a location at another one, with all below it. -/
def move (s : FileStore) (l : Location) (e : Entry) (target : Location) : FileStore :=
  if e.isDirectory then
    { s with
      entries := (s.drop target).entries.map fun (k, e) =>
        if l.isPrefixOf k then (target ++ k.drop l.length, e) else (k, e) }
  else (s.drop l).put target e

/-- Fails unless an entry can take the place of another: a file that of a file, a directory that of
a directory. -/
def replaces (e : Entry) : Option Entry → Except Fault Unit
  | none => .ok ()
  | some old =>
    if e.isDirectory && !old.isDirectory then .error .notDirectory
    else if !e.isDirectory && old.isDirectory then .error .isDirectory
    else .ok ()

/-- Lets the entry at a location take the place of whatever stands at another one. -/
def replace (s : FileStore) (l : Location) (e : Entry) (target : Location) :
    Except Fault FileStore := do
  if l = target then return s
  s.mayChange l.dropLast
  s.mayChange target.dropLast
  replaces e (s.entry? target)
  if e.isDirectory && l.dropLast ≠ target.dropLast && !mayWrite e.mode then throw .denied
  if e.isDirectory && !s.isEmptyAt target then throw .notEmpty
  return s.move l e target

/-- Lets what one path leads to take the place of what another does. -/
def rename (s : FileStore) (source destination : String) : Except Fault FileStore := do
  let (sourceDir, sourceName) ← s.holder source
  let (targetDir, targetName) ← s.holder destination
  if !isName sourceName || !isName targetName then throw .busy
  let l ← child sourceDir (sourceName.getD [])
  match s.entry? l with
  | none => throw .noEntry
  | some e =>
    let target ← child targetDir (targetName.getD [])
    if !e.isDirectory && (endsInSlash source || endsInSlash destination) then throw .notDirectory
    if l.isPrefixOf targetDir then throw .invalid
    if target.isPrefixOf sourceDir then throw .notEmpty
    s.replace l e target

/-! ## Removing -/

/-- Removes a file. -/
def unlink (s : FileStore) (path : String) : Except Fault FileStore := do
  match ← s.lookup path with
  | (_, .directory _) => throw .isDirectory
  | (l, .file ..) =>
    s.mayChange l.dropLast
    return s.drop l

/-- Removes a file, if one stands there and can be removed. -/
def remove (s : FileStore) (path : String) : FileStore :=
  match s.unlink path with
  | .ok s => s
  | .error _ => s

/-- Removes an empty directory. -/
def removeDirectory (s : FileStore) (path : String) : Except Fault FileStore := do
  match ← s.lookup path with
  | (_, .file ..) => throw .notDirectory
  | (l, .directory _) =>
    s.mayChange l.dropLast
    if s.isEmptyAt l then return s.drop l else throw .notEmpty

/-! ## Creating -/

/-- Makes a directory in one that is there. -/
def newDirectory (s : FileStore) (path : String) (mode : Nat) : Except Fault FileStore := do
  let (dir, name) ← s.holder path
  if !isName name then throw .taken
  let l ← child dir (name.getD [])
  if (s.entry? l).isSome then throw .taken
  s.mayChange dir
  return s.put l (.directory (withoutMask mode s.mask))

/-- Makes a directory and those that lead to it. -/
def makeDirectory (s : FileStore) (l : Location) : FileStore :=
  (List.range l.length).foldl (fun s n => s.put (l.take (n + 1)) (.directory 0o755)) s

/-- Writes a file and makes the directories that lead to it. -/
def write (s : FileStore) (l : Location) (content : List UInt8) (mode : Nat) : FileStore :=
  (s.makeDirectory l.dropLast).put l (.file content mode)

/-- The file at the end of a path, which is made if it is missing; and its location. -/
def create (s : FileStore) (path : String) (mode : Nat) : Except Fault (FileStore × Location) := do
  let (dir, name) ← s.holder path
  if !isName name || endsInSlash path then throw .isDirectory
  let l ← child dir (name.getD [])
  match s.entry? l with
  | some (.directory _) => throw .isDirectory
  | some (.file _ mode) => if mayWrite mode then return (s, l) else throw .denied
  | none =>
    s.mayChange dir
    return (s.put l (.file [] (withoutMask mode s.mask)), l)

end Egress.Host.FileStore
