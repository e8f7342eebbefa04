import Egress.Note
import Egress.Text.Alphanumeric
import Egress.Text.Numeral
import Egress.Text.Piece

/-!
# Filters of notes

Which notes are shown. A filter is written as directives between commas; a directive is a level, a
name or both (`name=level`), and may ask for a span and a field in brackets (`name[span]=level`). Of
the directives that fit a note the most specific one decides, and of equally specific ones the last.
Notes stand in no span and have one field, their message.
-/

set_option autoImplicit false

namespace Egress

/-- The name of a topic in filters. -/
def Topic.name : Topic → String
  | .configuration => "vx_core::config"
  | .settings => "vx_core::config::app"
  | .build => "vx_directory::builder"
  | .registry => "vx_directory::registry"
  | .resolver => "vx_directory::resolver"
  | .commands => "vx_router::exec"
  | .connection => "vx_router::ssh"
  | .transport => "vx_router::transport"
  | .session => "vx_router::controller"
  | .watch => "vpnexiter::commands::watch"

namespace Log

/-- The least important notes shown, if any are. -/
abbrev Threshold := Option Level

/-- Rank of a level, the most important first. -/
def rank : Level → Nat
  | .error => 1
  | .warn => 2
  | .info => 3
  | .debug => 4
  | .trace => 5

/-- The word for a level. -/
def word : Level → String
  | .error => "ERROR"
  | .warn => "WARN"
  | .info => "INFO"
  | .debug => "DEBUG"
  | .trace => "TRACE"

/-- Whether notes of a level are shown. -/
def allows (t : Threshold) (l : Level) : Bool :=
  match t with
  | some least => rank l ≤ rank least
  | none => false

/-- The levels, the most important first. -/
def levels : List Level :=
  [.error, .warn, .info, .debug, .trace]

/-- Upper case of the letters of English. -/
def upper (cs : List Char) : List Char :=
  cs.map Char.toUpper

/-- A number with an optional plus sign. -/
def number? (cs : List Char) : Option Nat :=
  match cs with
  | '+' :: ds => Text.natural? 10 ds
  | ds => Text.natural? 10 ds

/-- The threshold that a text names, by word or by number. -/
def threshold? (cs : List Char) : Option Threshold :=
  match number? cs with
  | some 0 => some none
  | some n => (levels.find? fun l => rank l = n).map some
  | none =>
    if cs = [] then some (some .error)
    else if upper cs = "OFF".toList then some none
    else (levels.find? fun l => upper cs = (word l).toList).map some

/-! ## Directives -/

/-- A part of a filter. -/
structure Directive where
  threshold : Threshold := some .trace
  /-- The beginning of the names of the topics it is about. -/
  target : Option (List Char) := none
  span : Option (List Char) := none
  /-- Name of a field, and whether the field has to have a value. -/
  field : Option (List Char × Bool) := none
  deriving DecidableEq

/-- Why a directive cannot be read. -/
inductive DirectiveFault where
  | malformed
  | unknownLevel
  deriving DecidableEq, Repr

/-- The wording of the fault. -/
def DirectiveFault.message : DirectiveFault → String
  | .malformed => "invalid filter directive"
  | .unknownLevel =>
    "error parsing level filter: expected one of \"off\", \"error\", \"warn\", \"info\", "
      ++ "\"debug\", \"trace\", or a number 0-5"

namespace Directive

/-- What is being read of a directive, and where it began. -/
inductive Stage where
  | start
  | levelOrTarget
  | span (from_ : Nat)
  | field (from_ : Nat)
  | fields
  | target
  | level (from_ : Nat)

/-- The piece of a text between two places. -/
def piece (text : List Char) (i j : Nat) : List Char :=
  (text.take j).drop i

/-- The field that a text asks for. -/
def fieldOf (cs : List Char) : List Char × Bool :=
  (cs.takeWhile (· ≠ '='), cs.contains '=')

/-- What a directive is that ends in a certain stage. -/
def finish (text : List Char) (d : Directive) : Stage → Except DirectiveFault Directive
  | .levelOrTarget =>
    match threshold? text with
    | some t => .ok { d with threshold := t }
    | none => .ok { d with target := some text }
  | .level i =>
    if text.drop i = [] then .ok { d with threshold := some .trace }
    else match threshold? (text.drop i) with
      | some t => .ok { d with threshold := t }
      | none => .error .unknownLevel
  | .target => .ok d
  | _ => .error .malformed

/-- The next stage after a character at a place, and what has been read by then. -/
def step (text : List Char) (d : Directive) (i : Nat) (c : Char) :
    Stage → Except DirectiveFault (Directive × Stage)
  | .start =>
    if c = '[' then .ok (d, .span (i + 1))
    else if c = '-' || c = ':' || c = '_' || Text.isAlphanumeric c then .ok (d, .levelOrTarget)
    else .error .malformed
  | .levelOrTarget =>
    if c = '=' then .ok ({ d with target := some (piece text 0 i) }, .level (i + 1))
    else if c = '[' then .ok ({ d with target := some (piece text 0 i) }, .span (i + 1))
    else .ok (d, .levelOrTarget)
  | .target => if c = '=' then .ok (d, .level (i + 1)) else .error .malformed
  | .span j =>
    if c = ']' then .ok ({ d with span := some (piece text j i) }, .target)
    else if c = '\x7b' then
      .ok (if j = i then d else { d with span := some (piece text j i) }, .field (i + 1))
    else .ok (d, .span j)
  | .field j =>
    if c = '\x7d' then
      if j = i then .error .malformed
      else .ok ({ d with field := some (fieldOf (piece text j i)) }, .fields)
    else .ok (d, .field j)
  | .fields => if c = ']' then .ok (d, .target) else .error .malformed
  | .level j => .ok (d, .level j)

/-- Reads characters from a place on. -/
def scan (text : List Char) : Directive → Stage → Nat → List Char → Except DirectiveFault Directive
  | d, stage, _, [] => finish text d stage
  | d, stage, i, c :: cs => do
    let (d, stage) ← step text d i c stage
    scan text d stage (i + 1) cs

/-- The directive that a text denotes. Its places are counted without the blanks in front, but its
pieces are cut from the text with them. -/
def ofText (text : List Char) : Except DirectiveFault Directive :=
  scan text {} .start 0 (Text.trim text)

/-- Whether the directive is about spans, or asks for a field's value there. -/
def isDynamic (d : Directive) : Bool :=
  d.span.isSome || d.field.isSome

/-- Whether the directive can be about notes that stand in no span. -/
def isStatic (d : Directive) : Bool :=
  d.span.isNone && !(d.field.any Prod.snd)

/-- Whether the directive is about a note. -/
def fits (d : Directive) (n : Note) : Bool :=
  (d.target.all fun t => t.isPrefixOf n.topic.name.toList)
    && d.field.all fun f => f.1 = "message".toList

/-- Whether a directive is at least as specific as another: by its target, then by its field. -/
def atLeast (d e : Directive) : Bool :=
  match d.target.map List.length, e.target.map List.length with
  | some m, some n => n < m || (m = n && (e.field.isNone || d.field.isSome))
  | some _, none => true
  | none, some _ => false
  | none, none => e.field.isNone || d.field.isSome

end Directive

/-! ## Filters -/

/-- The directives about notes, in the order in which they count. -/
structure Filter where
  directives : List Directive

namespace Filter

/-- The filter of directives: those about spans count last, and with no directive at all errors are
shown. -/
def ofDirectives (ds : List Directive) : Filter :=
  if ds.isEmpty then ⟨[{ threshold := some .error }]⟩
  else
    let (dynamic, static) := ds.partition Directive.isDynamic
    ⟨(static ++ dynamic).filter Directive.isStatic⟩

/-- The directives of a text, each with its text. -/
def directivesOf (text : String) : List (List Char × Except DirectiveFault Directive) :=
  ((Text.pieces ',' text.toList).filter (· ≠ [])).map fun piece => (piece, Directive.ofText piece)

/-- The filter that a text denotes. -/
def ofText (text : String) : Filter :=
  ofDirectives ((directivesOf text).filterMap fun (_, d) => d.toOption)

/-- A complaint for each directive of a text that cannot be read. -/
def complaints (text : String) : List String :=
  (directivesOf text).filterMap fun (piece, d) => match d with
    | .ok _ => none
    | .error fault =>
      some ("ignoring `" ++ String.ofList piece ++ "`: " ++ fault.message ++ "\n")

/-- The directive that decides about a note. -/
def deciding? (f : Filter) (n : Note) : Option Directive :=
  (f.directives.filter fun d => d.fits n).foldl (fun best d => match best with
    | none => some d
    | some e => some (if d.atLeast e then d else e)) none

/-- Whether a note is shown. -/
def shows (f : Filter) (n : Note) : Bool :=
  (f.deciding? n).any fun d => allows d.threshold n.level

end Filter

end Log

end Egress
