import Egress.Host.Program.Table

/-!
# What is run when a path is

A path leads to a known program, or to a file that names in its first line the program to run it
with. `resolve` follows such files until it comes to a known program.
-/

set_option autoImplicit false

namespace Egress.Host

/-- Bytes at the start of a file that are looked at. -/
def firstBytes : Nat := 255

/-- The program, and its one argument, that the first line of a file names. -/
def interpreter? (content : List UInt8) : Option (String × List String) :=
  let text := (Text.Raw.ofBytes (content.take firstBytes)).toList
  match text with
  | '#' :: '!' :: rest =>
    let isBlank (c : Char) : Bool := c = ' ' || c = '\t'
    let line := rest.takeWhile (· ≠ '\n')
    let line := ((line.dropWhile isBlank).reverse.dropWhile isBlank).reverse
    let path := line.takeWhile fun c => !isBlank c && c ≠ '\x00'
    let argument := ((line.drop path.length).dropWhile isBlank).takeWhile (· ≠ '\x00')
    let isWhole := rest.contains '\n' || content.length ≤ firstBytes || path.length < line.length
    if path.isEmpty || !isWhole then none
    else some (String.ofList path,
      if argument.isEmpty then [] else [String.ofList argument])
  | _ => none

/-- The known program that is run in the end, with its arguments; `n` bounds the files that name
one another. -/
def resolve (files : FileStore) : Nat → String → List String → Except Fault (String × List String)
  | 0, _, _ => .error .tooManyLinks
  | n + 1, path, args =>
    match programAt? path with
    | some name => .ok (name, args)
    | none => match files.lookup (Text.Raw.toText path) with
      | .error fault => .error fault
      | .ok (_, .directory _) => .error .denied
      | .ok (_, .file content mode) =>
        if !mayExecute mode then .error .denied
        else match interpreter? content with
          | some (program, option) => resolve files n program (option ++ path :: args)
          | none => .error .noExecutable

/-- Most files that name one another. -/
def maxInterpreters : Nat := 6

/-- The known program that is run for a path or a name, with its arguments. A name that leads to a
directory from those for programs is refused. -/
def executable (files : FileStore) (program : String) (args : List String) :
    Except Fault (String × List String) :=
  if program.toList.contains '/' then resolve files maxInterpreters program args
  else if isProgram program then .ok (program, args)
  else if ["", ".", ".."].contains program then .error .denied
  else if FileStore.maxName < program.length then .error .nameTooLong
  else .error .noEntry

end Egress.Host
