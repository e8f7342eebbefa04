import Egress.Host.Program.Files

/-!
# Programs that deal with lines

Programs that read files, or else their input, and write some of what they read: `cat`, `head`,
`tail`, `wc`, `grep`, `sort`, `tee`, and `seq`, which counts.
-/

set_option autoImplicit false

namespace Egress.Host

/-- What could be read: contents by the names of their files, and complaints. -/
structure Gathered where
  contents : List (String × List UInt8) := []
  complaints : List String := []

/-- Reads files by their names; a dash is the input. -/
def gather (program : String) (names : List String) (input : List UInt8) (files : FileStore) :
    Gathered :=
  names.foldl (fun g name =>
    if name = "-" then { g with contents := g.contents ++ [(name, input)] }
    else match files.read (Text.Raw.toText name) with
      | .ok (content, _) => { g with contents := g.contents ++ [(name, content)] }
      | .error fault =>
        let text := program ++ ": " ++ name ++ ": " ++ fault.reason ++ "\n"
        { g with complaints := g.complaints ++ [text] }) {}

/-- A program that reads files, or its input if none are named. -/
def reading (program : String) (names : List String) (failure : Nat)
    (write : List (String × List UInt8) → List UInt8 × Nat) (input : List UInt8)
    (files : FileStore) : Effect :=
  let names := if names.isEmpty then ["-"] else names
  let g := gather program names input files
  let (output, status) := write g.contents
  { outcome :=
      { output
        errors := Text.Raw.toBytes (String.join g.complaints)
        status := some (if g.complaints.isEmpty then status else failure) }
    files
    consumed := names.contains "-" }

/-- The lines of bytes, each with its end if it has one. -/
def byteLines : List UInt8 → List (List UInt8)
  | [] => []
  | b :: bytes =>
    if b = 10 then [b] :: byteLines bytes
    else match byteLines bytes with
      | [] => [[b]]
      | line :: lines => (b :: line) :: lines

/-- A line without its end. -/
def withoutEnd (line : List UInt8) : List UInt8 :=
  if line.getLast? = some 10 then line.dropLast else line

/-- Writes files one after another. -/
def cat : Program := fun args input files =>
  let (_, names) := splitOptions args
  reading "cat" names 1 (fun contents => (contents.flatMap Prod.snd, 0)) input files

/-! ## Beginnings and ends -/

/-- How much of a file is wanted: so many lines or bytes, from the start or not. -/
structure Amount where
  bytes : Bool := false
  fromStart : Bool := false
  count : Nat := 10

/-- An amount from the text of a count. -/
def Amount.ofText? (bytes : Bool) (text : String) : Option Amount :=
  match text.toList with
  | '+' :: digits => (Text.natural? 10 digits).map fun count => ⟨bytes, true, count⟩
  | '-' :: digits => (Text.natural? 10 digits).map fun count => ⟨bytes, false, count⟩
  | digits => (Text.natural? 10 digits).map fun count => ⟨bytes, false, count⟩

/-- The amount that arguments ask for, and the other arguments; none if it is no number. -/
def amountOf? : Nat → Amount → List String → Option (Amount × List String)
  | 0, a, args => some (a, args)
  | n + 1, a, args => match args with
    | "-n" :: text :: rest => (Amount.ofText? false text).bind fun a => amountOf? n a rest
    | "-c" :: text :: rest => (Amount.ofText? true text).bind fun a => amountOf? n a rest
    | "-q" :: rest => amountOf? n a rest
    | arg :: rest => match arg.toList with
      | '-' :: 'n' :: text =>
        (Amount.ofText? false (String.ofList text)).bind fun a => amountOf? n a rest
      | '-' :: 'c' :: text =>
        (Amount.ofText? true (String.ofList text)).bind fun a => amountOf? n a rest
      | '-' :: d :: text =>
        if d.isDigit then
          (Amount.ofText? false (String.ofList (d :: text))).bind fun a => amountOf? n a rest
        else some (a, arg :: rest)
      | _ => some (a, arg :: rest)
    | [] => some (a, [])

/-- A program that writes a part of each file. -/
def partOf (program : String) (part : {α : Type} → Amount → List α → List α) : Program :=
  fun args input files =>
    match amountOf? (args.length + 1) {} args with
    | none =>
      { outcome := .complain (program ++ ": invalid number of lines: "
          ++ inQuotes (args.getD 1 "") ++ "\n") 1, files }
    | some (a, names) =>
      let cut (content : List UInt8) : List UInt8 :=
        if a.bytes then part a content else (part a (byteLines content)).flatten
      reading program names 1 (fun contents =>
        let blocks := contents.map fun (name, content) =>
          if contents.length ≤ 1 then cut content
          else
            let name := if name = "-" then "standard input" else name
            Text.Raw.toBytes ("==> " ++ name ++ " <==\n") ++ cut content
        ([(10 : UInt8)].intercalate blocks, 0)) input files

/-- Writes the beginnings of files. -/
def head : Program :=
  partOf "head" fun a items => items.take a.count

/-- Writes the ends of files. -/
def tail : Program :=
  partOf "tail" fun a items =>
    items.drop (if a.fromStart then a.count - 1 else items.length - a.count)

/-! ## Counting -/

/-- The number of words between blanks. -/
def wordCount (content : List UInt8) : Nat :=
  let isBlank (b : UInt8) : Bool := b = 32 || (9 ≤ b && b ≤ 13)
  let starts := content.zip ((32 : UInt8) :: content)
  (starts.filter fun (b, before) => !isBlank b && isBlank before).length

/-- Counts lines, words and bytes. -/
def wc : Program := fun args input files =>
  let (options, names) := splitOptions args
  let letters := (options.flatMap fun option => option.toList.drop 1)
  let letters := if letters.isEmpty then ['l', 'w', 'c'] else letters
  let counts (content : List UInt8) : List Nat :=
    (if letters.contains 'l' then [(content.filter (· = 10)).length] else [])
    ++ (if letters.contains 'w' then [wordCount content] else [])
    ++ (if letters.contains 'c' || letters.contains 'm' then [content.length] else [])
  reading "wc" names 1 (fun contents =>
    let rows := contents.map fun (name, content) => (name, counts content)
    let total := counts (contents.flatMap Prod.snd)
    let rows := if rows.length ≤ 1 then rows else rows ++ [("total", total)]
    let width := if rows.length = 1 && total.length = 1 then 0
      else if names.isEmpty then 7
      else (toString (contents.flatMap Prod.snd).length).length
    let row (r : String × List Nat) : String :=
      let cells := r.2.map fun n =>
        let text := toString n
        String.ofList (List.replicate (width - text.length) ' ') ++ text
      " ".intercalate cells ++ (if names.isEmpty then "" else " " ++ r.1) ++ "\n"
    (Text.Raw.toBytes (String.join (rows.map row)), 0)) input files

/-! ## Searching -/

/-- An item of what is searched for: one character, any, or one of several; and whether it can
stand any number of times. -/
structure SearchItem where
  admits : Char → Bool
  repeated : Bool

/-- What is searched for: items, perhaps at the start or the end of a line only. -/
structure Search where
  atStart : Bool := false
  atEnd : Bool := false
  items : List SearchItem := []

/-- Characters between brackets, with ranges. -/
def bracketAdmits : List Char → Char → Bool
  | [], _ => false
  | a :: '-' :: b :: rest, c => (a ≤ c && c ≤ b) || bracketAdmits rest c
  | a :: rest, c => a = c || bracketAdmits rest c

/-- Items of a text; `n` bounds the characters. -/
def searchItems : Nat → List Char → List SearchItem
  | 0, _ => []
  | _ + 1, [] => []
  | n + 1, c :: cs =>
    let (admits, rest) : (Char → Bool) × List Char := match c, cs with
      | '.', rest => (fun _ => true, rest)
      | '\\', d :: rest => ((· = d), rest)
      | '[', inner =>
        let (negated, inner) := match inner with
          | '^' :: inner => (true, inner)
          | inner => (false, inner)
        let first := inner.take 1
        let more := (inner.drop 1).takeWhile (· ≠ ']')
        (fun x => bracketAdmits (first ++ more) x != negated, inner.drop (more.length + 2))
      | c, rest => ((· = c), rest)
    match rest with
    | '*' :: rest => ⟨admits, true⟩ :: searchItems n rest
    | rest => ⟨admits, false⟩ :: searchItems n rest

/-- What a text asks to search for. -/
def Search.ofText (text : List Char) : Search :=
  let (atStart, text) := match text with
    | '^' :: rest => (true, rest)
    | rest => (false, rest)
  let (atEnd, text) := match text.reverse with
    | '$' :: rest => if rest.head? = some '\\' then (false, text) else (true, rest.reverse)
    | _ => (false, text)
  { atStart, atEnd, items := searchItems (text.length + 1) text }

/-- Whether items stand at the start of a text. -/
def itemsMatch (atEnd : Bool) : List SearchItem → List Char → Bool
  | [], cs => !atEnd || cs.isEmpty
  | item :: items, cs =>
    if item.repeated then
      let most := (cs.takeWhile item.admits).length
      (List.range (most + 1)).any fun k => itemsMatch atEnd items (cs.drop k)
    else match cs with
      | c :: cs => item.admits c && itemsMatch atEnd items cs
      | [] => false

/-- Whether a line has what is searched for. -/
def Search.finds (s : Search) (line : List Char) : Bool :=
  if s.atStart then itemsMatch s.atEnd s.items line
  else (List.range (line.length + 1)).any fun k => itemsMatch s.atEnd s.items (line.drop k)

/-- What a text asks to search for, as it stands. -/
def Search.literal (whole : Bool) (text : List Char) : Search :=
  { atStart := whole, atEnd := whole, items := text.map fun c => ⟨(· = c), false⟩ }

/-- Writes the lines that have what is searched for. -/
def grep : Program := fun args input files =>
  let (options, rest) := splitOptions args
  let (pattern, names) := (rest.headD "", rest.tail)
  if rest.isEmpty then
    { outcome := .complain ("Usage: grep [OPTION]... PATTERNS [FILE]...\n"
        ++ "Try 'grep --help' for more information.\n") 2, files }
  else
    let fold (cs : List Char) : List Char :=
      if hasLetter options 'i' then cs.map Char.toLower else cs
    let whole := hasLetter options 'x'
    let search := if hasLetter options 'F' then Search.literal whole (fold pattern.toList)
      else
        let s := Search.ofText (fold pattern.toList)
        { s with atStart := s.atStart || whole, atEnd := s.atEnd || whole }
    let wanted (line : List UInt8) : Bool :=
      search.finds (fold (Text.Raw.ofBytes (withoutEnd line)).toList) != hasLetter options 'v'
    let write (contents : List (String × List UInt8)) : List UInt8 × Nat :=
      let mark (name : String) : List UInt8 :=
        if names.length ≤ 1 then [] else Text.Raw.toBytes (name ++ ":")
      let found := contents.map fun (name, content) => (name, (byteLines content).filter wanted)
      let any := found.any fun (_, lines) => !lines.isEmpty
      let output := found.flatMap fun (name, lines) =>
        if hasLetter options 'q' then []
        else if hasLetter options 'c' then
          mark name ++ Text.Raw.toBytes (toString lines.length ++ "\n")
        else if hasLetter options 'l' then
          if lines.isEmpty then [] else Text.Raw.toBytes (name ++ "\n")
        else lines.flatMap fun line => mark name ++ withoutEnd line ++ [10]
      (output, if any then 0 else 1)
    reading "grep" names 2 write input files

/-! ## Others -/

/-- Writes lines in order. -/
def sortLines : Program := fun args input files =>
  let (options, names) := splitOptions args
  reading "sort" names 2 (fun contents =>
    let lines := (contents.flatMap fun (_, content) => byteLines content).map fun line =>
      Text.Raw.ofBytes (withoutEnd line)
    let lines := lines.mergeSort fun a b => !(b < a)
    let lines := if hasLetter options 'u' then lines.eraseDups else lines
    let lines := if hasLetter options 'r' then lines.reverse else lines
    (Text.Raw.toBytes (String.join (lines.map (· ++ "\n"))), 0)) input files

/-- Writes its input, and into files. -/
def tee : Program := fun args input files =>
  let (options, paths) := splitOptions args
  let e := forEach (fun path => "tee: " ++ path) (fun files path => do
    let (files, l) ← files.create path 0o666
    match files.entry? l with
    | some (.file old mode) =>
      let content := if hasLetter options 'a' then old ++ input else input
      return files.put l (.file content mode)
    | _ => return files) paths files
  { e with outcome := { e.outcome with output := input }, consumed := true }

/-- Counts from a first number to a last one. -/
def seq (args : List String) : Outcome :=
  let count (first step last : Int) : Outcome :=
    if step = 0 then .complain "seq: invalid Zero increment value: '0'\n" 1
    else
      let steps := if 0 < step then (last - first) / step else (first - last) / (-step)
      let line (k : Nat) : String := toString (first + step * (k : Int)) ++ "\n"
      .say (String.join ((List.range (steps + 1).toNat).map line))
  match args.mapM fun arg => Text.integer? arg.toList with
  | some [last] => count 1 1 last
  | some [first, last] => count first 1 last
  | some [first, step, last] => count first step last
  | _ => missingOperand "seq" "operand"

end Egress.Host
