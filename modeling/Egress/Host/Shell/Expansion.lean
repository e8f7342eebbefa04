import Egress.Host.Shell.Arithmetic
import Egress.Host.Shell.Pattern
import Egress.Host.Shell.Script

/-!
# What words become

A word becomes glyphs, and from those come the fields of a command, a single text, or a pattern.
What a parameter brought in is split into fields at separators, and what is quoted is neither split
nor a pattern.
-/

set_option autoImplicit false

namespace Egress.Host.Shell

/-! ## Fields -/

/-- Characters at which fields are split. -/
def Session.separators (s : Session) : List Char :=
  ((s.value? "IFS").getD " \t\n").toList

/-- Whether a separator is a blank, of which several are one. -/
def isBlankSeparator (c : Char) : Bool :=
  c = ' ' || c = '\t' || c = '\n'

/-- Fields made so far, the field that is being put together if one has begun, and whether a blank
has just ended one. -/
structure Fields where
  done : List (List PatternChar) := []
  current : Option (List PatternChar) := none
  afterBlank : Bool := false

namespace Fields

/-- Ends the field that is being put together. -/
def close (f : Fields) (afterBlank : Bool) : Fields :=
  match f.current with
  | some field => { done := f.done ++ [field], current := none, afterBlank }
  | none => { f with afterBlank := f.afterBlank && afterBlank }

/-- Takes a separator. -/
def separate (f : Fields) (c : Char) : Fields :=
  if isBlankSeparator c then
    if f.current.isSome then f.close true else f
  else if f.current.isSome then f.close false
  else if f.afterBlank then { f with afterBlank := false }
  else { f with done := f.done ++ [[]] }

/-- Takes a glyph. -/
def add (separators : List Char) (f : Fields) : Glyph → Fields
  | .char c origin =>
    if origin = .value && separators.contains c then f.separate c
    else
      let field := f.current.getD [] ++ [(c, decide (origin = .quoted))]
      { f with current := some field, afterBlank := false }
  | .quotes => { f with current := some (f.current.getD []), afterBlank := false }
  | .cut => f.close false

/-- The fields of glyphs. -/
def ofGlyphs (separators : List Char) (gs : List Glyph) : List (List PatternChar) :=
  ((gs.foldl (add separators) {}).close false).done

end Fields

/-- The text of characters of a pattern. -/
def plainText (cs : List PatternChar) : String :=
  String.ofList (cs.map Prod.fst)

/-- The paths that a field's pattern fits, or else its text. -/
def Session.paths (s : Session) (field : List PatternChar) : List String :=
  if s.has 'f' || !(Pattern.ofChars field).isWild then [plainText field]
  else match pathsFor s.files field with
    | [] => [plainText field]
    | found => found

/-- The text of glyphs. -/
def glyphText (gs : List Glyph) : String :=
  String.ofList (gs.filterMap fun
    | .char c _ => some c
    | .quotes => none
    | .cut => some ' ')

/-- The pattern of glyphs. -/
def glyphPattern (gs : List Glyph) : Pattern :=
  .ofChars (gs.filterMap fun
    | .char c origin => some (c, decide (origin = .quoted))
    | .quotes => none
    | .cut => some (' ', false))

namespace Evaluator

/-- The fields that words become. -/
def fields (e : Evaluator) (ws : List Word) : Run (List String) := do
  let lists ← ws.mapM fun w => do
    let gs ← e.word .script w
    let s ← get
    return (Fields.ofGlyphs s.separators gs).flatMap s.paths
  return lists.flatten

/-- The text that a word becomes. -/
def text (e : Evaluator) (w : Word) : Run String := do
  return glyphText (← e.word .script w)

/-- The pattern that a word becomes. -/
def pattern (e : Evaluator) (w : Word) : Run Pattern := do
  return glyphPattern (← e.word .script w)

end Evaluator

/-! ## Parameters -/

/-- Value of a parameter. -/
inductive Value where
  | unset
  | one (text : String)
  /-- All arguments. -/
  | all (texts : List String)

/-- Value of a parameter. -/
def Session.parameter (s : Session) (name : String) : Value :=
  match name with
  | "@" => .all s.arguments
  | "*" => .all s.arguments
  | "#" => .one (toString s.arguments.length)
  | "?" => .one (toString s.status)
  | "$" => .one (toString s.process)
  | "-" => .one (String.ofList s.options)
  | "!" => match s.background with
    | (n, _) :: _ => .one (toString n)
    | [] => .unset
  | "LINENO" => .one (toString s.line)
  | name => match Text.natural? 10 name.toList with
    | some 0 => .one s.name
    | some n => match s.arguments[n - 1]? with
      | some text => .one text
      | none => .unset
    | none => match s.value? name with
      | some text => .one text
      | none => .unset

/-- Whether a value counts as one. -/
def Value.isThere (empty : Bool) : Value → Bool
  | .unset => false
  | .one text => !(empty && text = "")
  | .all texts => !texts.isEmpty && !(empty && texts.all (· = ""))

/-- Characters of a text, of one origin. -/
def chars (origin : Origin) (text : String) : List Glyph :=
  text.toList.map (Glyph.char · origin)

/-- Arguments joined by the first separator. -/
def Session.joinedArguments (s : Session) (texts : List String) : String :=
  (String.ofList (s.separators.take 1)).intercalate texts

/-- Glyphs of a parameter's value. -/
def Session.glyphs (s : Session) (name : String) (quoted : Bool) : Value → List Glyph
  | .unset => []
  | .one text => chars (if quoted then .quoted else .value) text
  | .all texts =>
    if quoted && name = "*" then chars .quoted (s.joinedArguments texts)
    else
      let argument (text : String) : List Glyph :=
        if quoted then .quotes :: chars .quoted text else chars .value text
      [Glyph.cut].intercalate (texts.map argument)

/-- The text of a value. -/
def Session.valueText (s : Session) : Value → String
  | .unset => ""
  | .one text => text
  | .all texts => s.joinedArguments texts

/-- Ends the shell for want of a parameter. -/
def demandParameter {α : Type} (name : String) : Run α :=
  Run.abort (name ++ ": parameter not set")

/-- The value of a parameter, which has to be set if the shell is strict about that. -/
def strictValue (name : String) : Run Value := do
  let s ← get
  match s.parameter name with
  | .unset => if s.has 'u' then demandParameter name else return .unset
  | v => return v

/-- Glyphs of a parameter. -/
def parameterGlyphs (e : Evaluator) (name : String) (use : Use) (w : Word) (quoted : Bool) :
    Run (List Glyph) := do
  let plain : Origin := if quoted then .quoted else .value
  let whole (v : Value) : Run (List Glyph) := do
    let s ← get
    return s.glyphs name quoted v
  match use with
  | .malformed => Run.abort "Bad substitution"
  | .value => whole (← strictValue name)
  | .length =>
    let v ← strictValue name
    let s ← get
    return chars plain (toString (s.valueText v).length)
  | .orElse empty =>
    let v := (← get).parameter name
    if v.isThere empty then whole v else e.word plain w
  | .instead empty =>
    if ((← get).parameter name).isThere empty then e.word plain w else return []
  | .assign empty =>
    let v := (← get).parameter name
    if v.isThere empty then whole v
    else
      let text ← e.text w
      if !isVariableName name.toList then Run.abort (name ++ ": bad variable name")
      Run.assign name text
      return chars plain text
  | .demand empty =>
    let v := (← get).parameter name
    if v.isThere empty then whole v
    else if w.isEmpty then
      Run.abort (name ++ ": parameter not set" ++ if empty then " or null" else "")
    else Run.abort (name ++ ": " ++ (← e.text w))
  | .cut atEnd longest =>
    let v ← strictValue name
    let p ← e.pattern w
    let cutText (text : String) : String :=
      String.ofList (if atEnd then cutEnd longest p text.toList
        else cutStart longest p text.toList)
    whole (match v with
      | .unset => .unset
      | .one text => .one (cutText text)
      | .all texts => .all (texts.map cutText))

/-! ## Expressions -/

/-- The wording of what is wrong with an expression. -/
def ArithmeticFault.message (text : String) (f : ArithmeticFault) : String :=
  let about (what : String) : String := "arithmetic expression: " ++ what ++ ": \"" ++ text ++ "\""
  match f with
  | .expectingPrimary => about "expecting primary"
  | .expectingParenthesis => about "expecting ')'"
  | .expectingColon => about "expecting ':'"
  | .expectingEnd => about "expecting EOF"
  | .divisionByZero => about "division by zero"
  | .badNumber number => "Illegal number: " ++ number
  | .unset name => name ++ ": parameter not set"

/-- The value of an expression, whose assignments are carried out. -/
def arithmeticValue (text : String) : Run Int := do
  let s ← get
  match ((expressionOf text.toList).value (s.has 'u') s.value?).run [] with
  | .error f => Run.abort (f.message text)
  | .ok (n, assigned) =>
    for (name, value) in assigned do Run.assign name (toString value)
    return n

/-! ## Parts -/

/-- Bytes without line ends at their end, and without null bytes. -/
def trimOutput (bytes : List UInt8) : List UInt8 :=
  ((bytes.filter (· ≠ 0)).reverse.dropWhile (· = 10)).reverse

/-- The output of a command. -/
def commandOutput (e : Evaluator) (c : Command) : Run String := do
  let (i, s) := (← get).addStream (.kept [])
  set s
  isolated e do
    modify (·.setDescriptor 1 (some i))
    e.command false c
  modify fun after => { after with outputStatus := after.status, status := s.status }
  match (← get).streams[i]? with
  | some (.kept bytes) =>
    modify (·.setStream i .nowhere)
    return Text.Raw.ofBytes (trimOutput bytes)
  | _ => return ""

/-- Glyphs of a part of a word. -/
def partGlyphs (e : Evaluator) (origin : Origin) : Part → Run (List Glyph)
  | .text cs quoted => return chars (if quoted then .quoted else origin) (String.ofList cs)
  | .quotes => return [.quotes]
  | .parameter name use w quoted => parameterGlyphs e name use w quoted
  | .output c quoted => do
    return chars (if quoted then .quoted else .value) (← commandOutput e c)
  | .arithmetic w quoted => do
    let n ← arithmeticValue (← e.text w)
    return chars (if quoted then .quoted else .value) (toString n)
  | .home => do
    return match (← get).value? "HOME" with
    | some text => chars .quoted text
    | none => chars .script "~"

/-- Glyphs of a word. -/
def wordGlyphs (e : Evaluator) (origin : Origin) (w : Word) : Run (List Glyph) := do
  return (← w.mapM (partGlyphs e origin)).flatten

end Egress.Host.Shell
