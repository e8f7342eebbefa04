import Egress.CommandLine.Run
import Egress.Host.Basic

/-!
# Running the program on this machine

Answers the program's requests with the files, streams and clock of the machine it runs on. Programs
are those that `Host.spawn` knows, given the files that their arguments name; files that they leave
are written. There is no network, and a signal ends the process itself.
-/

set_option autoImplicit false

namespace Egress.Machine

/-- The fault that an error of the system is. -/
def faultOf : IO.Error → Fault
  | .noFileOrDirectory .. => .noEntry
  | .permissionDenied .. => .denied
  | .resourceBusy .. => .busy
  | e => .other (toString e)

/-- The result of an action on the system. -/
def attempt {α : Type} (act : IO α) : IO (Except Fault α) := do
  match ← act.toBaseIO with
  | .ok a => return .ok a
  | .error e => return .error (faultOf e)

/-- Content of a file. -/
def readBytes (path : String) : IO (Except Fault (List UInt8)) := do
  return (← attempt (IO.FS.readBinFile path)).map fun bytes => bytes.toList

/-- Content of a file that holds text. -/
def readTextFile (path : String) : IO (Except Fault String) := do
  return (← readBytes path).bind fun bytes =>
    match Text.decode? bytes with
    | some text => .ok text
    | none => .error .notText

/-- The rights that three bits stand for. -/
def accessRight (bits : Nat) : IO.AccessRight :=
  { read := bits / 4 % 2 = 1, write := bits / 2 % 2 = 1, execution := bits % 2 = 1 }

/-- The rights that permission bits stand for. -/
def fileRight (mode : Nat) : IO.FileRight :=
  { user := accessRight (mode / 64), group := accessRight (mode / 8), other := accessRight mode }

/-- Makes an empty file in a directory, for its owner only. -/
def createFile (dir : String) : IO (Except Fault String) := attempt do
  let path := dir ++ "/.tmp" ++ toString (← IO.monoNanosNow)
  let _ ← IO.FS.Handle.mk path .writeNew
  IO.setAccessRights path (fileRight 0o600)
  return path

/-- Writes text at the end of a file, and holds nothing back. -/
def appendFile (path content : String) : IO (Except Fault Unit) := attempt do
  let file ← IO.FS.Handle.mk path .append
  file.putStr content
  file.flush

/-- The location that stands for the current directory. -/
def here : Host.Location := ["here"]

/-- The location that a path leads to. -/
def locationOf (path : String) : Host.Location :=
  let names := (Text.pieces '/' path.toList).filter fun piece => !Host.staysPut piece
  (if path.toList.head? = some '/' then [] else here) ++ names.map String.ofList

/-- The path that leads to a location. -/
def pathOf (l : Host.Location) : String :=
  if here.isPrefixOf l then "/".intercalate (l.drop here.length) else "/" ++ "/".intercalate l

/-- The store of the files that words name. -/
def namedFiles (words : List String) : IO Host.FileStore :=
  words.foldlM (fun store word => do
    match ← readBytes word with
    | .ok content => return store.write (locationOf word) content 0o755
    | .error _ => return store) ({ cwd := here : Host.FileStore }.makeDirectory here)

/-- Writes the files of a store that another one has not. -/
def writeChanges (before after : Host.FileStore) : IO Unit := do
  for (l, entry) in after.entries do
    if before.entry? l ≠ some entry then
      match entry with
      | .file content _ =>
        let _ ← attempt (IO.FS.writeBinFile (pathOf l) (ByteArray.mk content.toArray))
      | .directory _ =>
        let _ ← attempt (IO.FS.createDirAll (pathOf l))

/-- Runs a program to its end. -/
def runProgram (program : String) (args : List String) : IO (Except Fault Host.Outcome) := do
  let files ← namedFiles (program :: args)
  let environment ← ["PATH", "HOME"].filterMapM fun name => do
    return (← IO.getEnv name).map fun text => (name, text)
  match Host.spawn environment files program args with
  | .error fault => return .error fault
  | .ok (after, outcome) =>
    writeChanges files after
    return .ok outcome

/-- Milliseconds of the clock, as notes show them. -/
def clockText : IO String := do
  return toString (← IO.monoMsNow) ++ "ms"

/-- Answers the program's requests. -/
def onThisMachine : (q : Request) → IO (Reply q)
  | .has path => return (← attempt (IO.FS.realPath path)).isOk
  | .isFile path => return (← readBytes path).isOk
  | .readText path => readTextFile path
  | .create dir => createFile dir
  | .append path content => appendFile path content
  | .flush _ => return .ok ()
  | .setMode path mode => attempt (IO.setAccessRights path (fileRight mode))
  | .rename source destination => attempt (IO.FS.rename source destination)
  | .remove path => do
    let _ ← attempt (IO.FS.removeFile path)
    return ()
  | .spawn program args => runProgram program args
  | .connect _ => return .unreachable
  | .pause => IO.sleep 1000
  | .awaitSignal ms => do
    for _ in [0 : ms / 1000] do
      IO.sleep 1000
    return none
  | .say .output text => do
    let out ← IO.getStdout
    out.putStr text
    out.flush
  | .say .errors text => IO.eprint text
  | .note _ => return ()
  | .time => clockText

end Egress.Machine

/-- The environment of the environment that the program reads. -/
def variableNames : List String :=
  ["VPNEXITER_CONFIG", "RUST_LOG", "XDG_CONFIG_HOME", "HOME"]

def main (args : List String) : IO UInt32 := do
  let values ← variableNames.mapM fun name => return (name, ← IO.getEnv name)
  let environment := fun name => (Egress.Keyed.get? name values).bind id
  let status ← (Egress.CommandLine.run environment args).run Egress.Machine.onThisMachine
  return status.toUInt32
