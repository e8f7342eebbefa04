import Egress.Host.Program.Basic
import Egress.Host.Program.Escape

/-!
# Echo

The program that writes its arguments, and the shell's own command of that name, which has other
escapes and other options.
-/

set_option autoImplicit false

namespace Egress.Host

/-- Escapes of the program. -/
def echoEscapes : EscapeRules :=
  { zero := true, hex := true, stop := true, escape := true, quote := false }

/-- Escapes of the shell's own command. -/
def shellEchoEscapes : EscapeRules :=
  { zero := true, hex := false, stop := true, escape := false, quote := false }

/-- Whether an argument consists of options of the program. -/
def isEchoOption (arg : String) : Bool :=
  match arg.toList with
  | '-' :: c :: cs => (c :: cs).all fun x => x = 'n' || x = 'e' || x = 'E'
  | _ => false

/-- How the program was asked to write: with a line end, and with escapes replaced. -/
structure EchoStyle where
  newline : Bool := true
  escapes : Option EscapeRules := none

/-- The style after one more argument of options. -/
def EchoStyle.add (s : EchoStyle) (arg : String) : EchoStyle :=
  arg.toList.foldl (fun s c =>
    if c = 'n' then { s with newline := false }
    else if c = 'e' then { s with escapes := some echoEscapes }
    else if c = 'E' then { s with escapes := none }
    else s) s

/-- Writes arguments between spaces. -/
def writeArguments (s : EchoStyle) (args : List String) : Outcome :=
  let text := " ".intercalate args
  let (cs, goesOn) := match s.escapes with
    | some r => unescapeText r text
    | none => (text.toList, true)
  .say (String.ofList (if s.newline && goesOn then cs ++ ['\n'] else cs))

/-- The program `echo`. -/
def echo (args : List String) : Outcome :=
  let style := (args.takeWhile isEchoOption).foldl EchoStyle.add {}
  writeArguments style (args.dropWhile isEchoOption)

/-- The shell's own `echo`, which always replaces escapes and knows one option. -/
def shellEcho (args : List String) : Outcome :=
  match args with
  | "-n" :: args => writeArguments { newline := false, escapes := some shellEchoEscapes } args
  | args => writeArguments { escapes := some shellEchoEscapes } args

end Egress.Host
