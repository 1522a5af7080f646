import CompilerDriver.Posix.Utility.Input
import CompilerDriver.Posix.Utility.Quantity
import CompilerDriver.Text.Split

/-!
# Columns

`cut` keeps parts of each line, and `paste` puts lines side by side.
-/

namespace CompilerDriver.Utility

open Kernel

namespace Columns

/-! ## Lists of positions -/

/-- Positions from one to another, or to the end. -/
structure Span where
  first : Nat
  last : Option Nat
  deriving DecidableEq, Repr, Inhabited

def Span.has (s : Span) (n : Nat) : Bool := s.first ≤ n && s.last.all (n ≤ ·)

/-- What the positions in a list are. -/
inductive Unit where
  | field
  | byte
  deriving DecidableEq, Repr

def Unit.zeroMessage : Unit → String
  | field => "fields are numbered from 1"
  | byte => "byte/character positions are numbered from 1"

def Unit.rangeMessage : Unit → String
  | field => "invalid field range"
  | byte => "invalid byte or character range"

def Unit.valueMessage (u : Unit) (rest : List Char) : String :=
  (match u with
    | field => "invalid field value "
    | byte => "invalid byte/character position ") ++ quoteText (String.ofList rest)

def Unit.sizeMessage (u : Unit) (digits : List Char) : String :=
  (match u with
    | field => "field number "
    | byte => "byte/character offset ") ++ quoteText (String.ofList digits) ++ " is too large"

/-- An entry of a list that is being read: the number before a dash, and the one at hand. -/
structure Entry where
  dashed : Bool := false
  low : Option Nat := none
  high : Option Nat := none
  deriving Inhabited

/-- The positions that an entry stands for. -/
def Entry.span (e : Entry) (u : Unit) : Except String Span :=
  match e.dashed, e.low, e.high with
  | false, some n, _ => if n = 0 then .error u.zeroMessage else .ok ⟨n, some n⟩
  | false, none, _ => .error u.zeroMessage
  | true, none, none => .error "invalid range with no endpoint: -"
  | true, low, none => .ok ⟨low.getD 1, none⟩
  | true, low, some last =>
      if last < low.getD 1 then .error "invalid decreasing range" else .ok ⟨low.getD 1, some last⟩

def readSpans (u : Unit) : Nat → List Char → Entry → List Span → Except String (List Span)
  | 0, _, _, done => .ok done.reverse
  | _ + 1, [], e, done => do
      return ((← e.span u) :: done).reverse
  | n + 1, c :: rest, e, done =>
      if c = '-' then
        if e.dashed then .error u.rangeMessage
        else if e.low = some 0 then .error u.zeroMessage
        else readSpans u n rest { e with dashed := true } done
      else if c = ',' ∨ c = ' ' ∨ c = '\t' then do
        readSpans u n rest {} ((← e.span u) :: done)
      else if c.isDigit then
        let digits := (c :: rest).takeWhile Char.isDigit
        let value := digitsValue digits
        let rest := rest.drop (digits.length - 1)
        if maxQuantity ≤ value then .error (u.sizeMessage digits)
        else readSpans u n rest
          (if e.dashed then { e with high := some value } else { e with low := some value }) done
      else .error (u.valueMessage (c :: rest))

/-- Spans in order, those that overlap made one. -/
def merged (spans : List Span) : List Span :=
  let sorted := spans.mergeSort fun a b => decide (a.first ≤ b.first)
  (sorted.foldl (fun (done : List Span) s =>
    match done with
    | t :: others =>
        if t.last.all (s.first ≤ ·) then
          let last := match t.last, s.last with
            | some a, some b => some (max a b)
            | _, _ => none
          ⟨t.first, last⟩ :: others
        else s :: done
    | [] => [s]) []).reverse

/-- The positions that are not in some merged spans, from one on. -/
def complement : Nat → List Span → List Span
  | start, [] => [⟨start, none⟩]
  | start, s :: rest =>
      let before := if start < s.first then [⟨start, some (s.first - 1)⟩] else []
      before ++ match s.last with
        | some last => complement (last + 1) rest
        | none => []

def spansOf (u : Unit) (complemented : Bool) (list : String) : Except String (List Span) := do
  let spans := merged (← readSpans u (list.length + 1) list.toList {} [])
  return if complemented then complement 1 spans else spans

/-! ## Cutting -/

/-- The pieces at the positions of some spans, each span of them on its own. -/
def chosen {α : Type} (spans : List Span) (pieces : List α) : List (List α) :=
  (spans.map fun s =>
    let rest := pieces.drop (s.first - 1)
    match s.last with
    | some last => rest.take (last + 1 - s.first)
    | none => rest).filter fun run => !run.isEmpty

/-- How lines are cut. -/
structure Cut where
  unit : Unit
  spans : List Span
  delimiter : Char := '\t'
  between : Option String := none
  onlyDelimited : Bool := false

def Cut.line (c : Cut) (line : List Char) : Option String :=
  match c.unit with
  | .byte => some ((c.between.getD "").intercalate ((chosen c.spans line).map String.ofList))
  | .field =>
      if !line.contains c.delimiter then
        if c.onlyDelimited then none else some (String.ofList line)
      else
        let pieces := Text.splitWhere (· == c.delimiter) line
        let between := c.between.getD (String.singleton c.delimiter)
        some (between.intercalate ((chosen c.spans pieces).flatten.map String.ofList))

/-- What is left of a text.  If lines are fields themselves, all of it is one line. -/
def Cut.text (c : Cut) (separator : Char) (text : String) : String :=
  let mark := String.singleton separator
  if c.unit = .field ∧ c.delimiter = separator then
    let pieces := separatedLines separator text
    if text.isEmpty ∨ (pieces.length < 2 ∧ c.onlyDelimited) then ""
    else if pieces.length < 2 then String.ofList (pieces.headD []) ++ mark
    else
      let between := c.between.getD mark
      between.intercalate ((chosen c.spans pieces).flatten.map String.ofList) ++ mark
  else
    String.join ((separatedLines separator text).filterMap fun line =>
      (c.line line).map (· ++ mark))

def cutTable : OptionTable := {
  flags := "snzC", valued := "bcfd="
  named := [("bytes", 'b'), ("characters", 'c'), ("fields", 'f'), ("delimiter", 'd'),
    ("only-delimited", 's'), ("output-delimiter", '='), ("complement", 'C'),
    ("zero-terminated", 'z')] }

/-! ## Pasting -/

/-- The delimiters in a list of them; an empty one joins without any character. -/
def delimiters? : List Char → Option (List String)
  | [] => some []
  | ['\\'] => none
  | '\\' :: c :: rest =>
      let s := match c with
        | '0' => ""
        | 'n' => "\n"
        | 't' => "\t"
        | 'b' => "\x08"
        | 'f' => "\x0c"
        | 'r' => "\r"
        | 'v' => "\x0b"
        | c => String.singleton c
      (delimiters? rest).map (s :: ·)
  | c :: rest => (delimiters? rest).map (String.singleton c :: ·)

/-- Joins texts, with the delimiters taken in turn. -/
def joinWith (delimiters : Array String) (texts : List String) : String :=
  let size := max 1 delimiters.size
  String.join (texts.zipIdx.map fun (text, i) =>
    if i = 0 then text else delimiters.getD ((i - 1) % size) "" ++ text)

/-- Takes a line from each of some open files, which may stand there more than once. -/
def takeLines (call : Call) (separator : Char) (places : List (Nat × String))
    (inputs : Array Input) (status : Nat) : Act (List (Option String) × Array Input × Nat) := do
  let (lines, inputs, status) ← places.foldlM
    (fun ((lines, inputs, status) : List (Option String) × Array Input × Nat) (place, path) => do
      match ← (inputs.getD place default).line? separator with
      | .ok (line, input) =>
          return (line.map (·.1) :: lines, inputs.setIfInBounds place input, status)
      | .error e =>
          complainOf call (quoteName path) e
          let input : Input := { inputs.getD place default with isDone := true, ahead := [] }
          return (none :: lines, inputs.setIfInBounds place input, 1)) ([], inputs, status)
  return (lines.reverse, inputs, status)

/-- Puts lines side by side until all files are at their ends. -/
def pasteLines (call : Call) (delimiters : Array String) (separator : Char)
    (places : List (Nat × String)) : Nat → Array Input → Nat → Act Nat
  | 0, _, status => return status
  | n + 1, inputs, status => do
      let (lines, inputs, status) ← takeLines call separator places inputs status
      if lines.all Option.isNone then return status
      Act.print (joinWith delimiters (lines.map fun l => l.getD "") ++ String.singleton separator)
      pasteLines call delimiters separator places n inputs status

end Columns

open Columns in
def cut : Utility := fun call => do
  let parsed ← cutTable.parse call
  let lists := parsed.options.filter fun o => "bcf".toList.contains o.1
  if lists.length > 1 then misuse call 1 "only one list may be specified"
  for (c, d) in parsed.options do
    if c = 'd' ∧ d.length > 1 then misuse call 1 "the delimiter must be a single character"
  let some (letter, list) := lists.head?
    | misuse call 1 "you must specify a list of bytes, characters, or fields"
  let u : Columns.Unit := if letter = 'f' then .field else .byte
  if u = .byte then
    if parsed.has 'd' then
      misuse call 1 "an input delimiter may be specified only when operating on fields"
    if parsed.has 's' then
      misuse call 1 "suppressing non-delimited lines makes sense\n\tonly when operating on fields"
  let spans ←
    match spansOf u (parsed.has 'C') list with
    | .ok spans => pure spans
    | .error message => misuse call 1 message
  let c : Cut := {
    unit := u, spans, onlyDelimited := parsed.has 's'
    delimiter := match parsed.value? 'd' with
      | some d => d.toList.headD '\x00'
      | none => '\t'
    between := (parsed.value? '=').map fun s => if s.isEmpty then "\x00" else s }
  let separator := if parsed.has 'z' then '\x00' else '\n'
  onEach (inputsOf parsed.operands) fun path => do
    match ← readInput path with
    | .error e =>
        complainOf call (quoteName path) e
        return 1
    | .ok text =>
        Act.print (c.text separator text)
        return 0

open Columns in
def paste : Utility := fun call => do
  let parsed ← ({
    flags := "sz", valued := "d"
    named := [("delimiters", 'd'), ("serial", 's'), ("zero-terminated", 'z')] }
      : OptionTable).parse call
  let list := (parsed.value? 'd').getD "\t"
  let some delimiters := delimiters? list.toList
    | giveUp call 1 ("delimiter list ends with an unescaped backslash: " ++ list)
  let delimiters := delimiters.toArray
  let paths := inputsOf parsed.operands
  let separator := if parsed.has 'z' then '\x00' else '\n'
  if parsed.has 's' then
    onEach paths fun path => do
      match ← readInput path with
      | .error e =>
          complainOf call (quoteName path) e
          return 1
      | .ok text =>
          let lines := (separatedLines separator text).map String.ofList
          Act.print (joinWith delimiters lines ++ String.singleton separator)
          return 0
  else
    let isShared (path : String) : Bool := path == "-"
    let (places, inputs) ← paths.foldlM
      (fun ((places, inputs) : List (Nat × String) × Array Input) path => do
        let known := places.find? fun p => isShared p.2 && isShared path
        match known with
        | some (place, _) => return ((place, path) :: places, inputs)
        | none =>
            match ← Input.openPath path with
            | .ok input => return ((inputs.size, path) :: places, inputs.push input)
            | .error e => giveUp call 1 (quoteName path ++ ": " ++ e.notice)) ([], #[])
    pasteLines call delimiters separator places.reverse Act.maxTurns inputs 0

end CompilerDriver.Utility
