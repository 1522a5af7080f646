import CompilerDriver.Posix.Text.Classes
import CompilerDriver.Posix.Utility.Environment
import CompilerDriver.Posix.Utility.Input
import CompilerDriver.Posix.Utility.Printing

/-!
# Arguments from the input

`xargs` runs a program with the items of its input as arguments, as many at a time as there may be.
-/

namespace CompilerDriver.Utility

open Kernel

namespace Batching

/-! ## Items -/

/-- What is found in the input: items, ends of lines, and at last perhaps a quote that is not
closed. -/
inductive Piece where
  | item (text : String)
  | lineEnd
  | openQuote (mark : Char)
  deriving DecidableEq, Repr, Inhabited

inductive Place where
  | between
  | inWord
  | inQuote (mark : Char)
  | afterBackslash
  deriving DecidableEq, Repr

/-- The input on its way to being taken apart; the word at hand has its last character first. -/
structure Splitter where
  place : Place := .between
  word : List Char := []
  /-- There is a word, though it may be empty. -/
  isWord : Bool := false
  before : Char := ' '
  /-- What has been found, last first. -/
  pieces : List Piece := []
  isBroken : Bool := false

def isBlank (c : Char) : Bool := c == ' ' || c == '\t'

namespace Splitter

def endWord (s : Splitter) : Splitter :=
  { s with
    place := .between, word := [], isWord := false
    pieces := .item (String.ofList s.word.reverse) :: s.pieces }

def push (s : Splitter) (c : Char) : Splitter :=
  { s with place := .inWord, word := c :: s.word, isWord := true }

/-- Takes a character of a word.  `byLines` tells whether items end only with their lines. -/
def feedWord (byLines : Bool) (s : Splitter) (c : Char) : Splitter :=
  if c = '\n' then
    let s := if s.isWord then s.endWord else { s with place := .between }
    if isBlank s.before then s else { s with pieces := .lineEnd :: s.pieces }
  else if isBlank c ∧ !byLines then s.endWord
  else
    match c with
    | '\\' => { s with place := .afterBackslash }
    | '\'' | '"' => { s with place := .inQuote c }
    | c => s.push c

def feed (byLines : Bool) (s : Splitter) (c : Char) : Splitter :=
  if s.isBroken then s
  else
    let next : Splitter := match s.place with
      | .between =>
          if Text.isWhiteSpace c then
            if c = '\n' ∧ !isBlank s.before ∧ s.before ≠ '\n' then
              { s with pieces := .lineEnd :: s.pieces }
            else s
          else feedWord byLines { s with place := .inWord } c
      | .inWord => feedWord byLines s c
      | .inQuote mark =>
          if c = '\n' then { s with pieces := .openQuote mark :: s.pieces, isBroken := true }
          else if c = mark then { s with place := .inWord, isWord := true }
          else { s.push c with place := .inQuote mark }
      | .afterBackslash => s.push c
    { next with before := c }

def finish (s : Splitter) : List Piece :=
  let s := match s.place with
    | .inQuote mark =>
        if s.isBroken then s else { s with pieces := .openQuote mark :: s.pieces }
    | _ => if s.isWord then s.endWord else s
  s.pieces.reverse

end Splitter

/-- The pieces of a text in which blanks separate items and quotes keep them together. -/
def piecesOf (byLines : Bool) (text : String) : List Piece :=
  (text.toList.foldl (Splitter.feed byLines) {}).finish

/-- The pieces of a text whose items end with a character. -/
def separatedItems (separator : Char) (text : String) : List Piece :=
  (separatedLines separator text).flatMap fun l => [.item (String.ofList l), .lineEnd]

/-- The pieces before an item that marks the end. -/
def upToEnd (mark? : Option String) (pieces : List Piece) : List Piece :=
  match mark? with
  | none => pieces
  | some mark => pieces.takeWhile fun p => p != .item mark

/-! ## Running -/

structure Plan where
  call : Call
  /-- What each command starts with. -/
  words : List String
  maxSize : Nat
  maxItems : Option Nat
  maxLines : Option Nat
  /-- The text for which an item stands. -/
  mark : Option String
  /-- A command that gets too long is an error. -/
  isStrict : Bool
  isVerbose : Bool
  asks : Bool
  /-- How many commands run at once; 0 stands for any number. -/
  jobs : Nat
  slot : Option String
  /-- Commands get an empty input. -/
  withoutInput : Bool

/-- The items for the next command, last first, and the commands that run. -/
structure Batch where
  items : List String := []
  size : Nat
  lines : Nat := 0
  started : Bool := false
  status : Nat := 0
  running : List (Nat × Nat) := []

def commandSize (words : List String) : Nat := words.foldl (fun n w => n + w.length + 1) 0

section

variable (programs : Programs)

/-- Takes note of how a command has ended, which may be the end of all. -/
def note (plan : Plan) (pid : Nat) (how : Termination) (b : Batch) : Act Batch := do
  let name := plan.words.headD ""
  let b := { b with running := b.running.filter fun r => r.1 != pid }
  match how with
  | .exit 0 => return b
  | .exit 255 => giveUp plan.call 124 (name ++ ": exited with status 255; aborting")
  | .exit _ => return { b with status := 123 }
  | .signal n => giveUp plan.call 125 (name ++ ": terminated by signal " ++ toString n)

/-- Waits until fewer than so many commands run. -/
def waitBelow (plan : Plan) (count : Nat) : Nat → Batch → Act Batch
  | 0, b => return b
  | n + 1, b => do
      if b.running.length < count then return b
      match ← Act.waitFor fun pid => b.running.any fun r => r.1 == pid with
      | .error _ => return { b with running := [] }
      | .ok (pid, how) => waitBelow plan count n (← note plan pid how b)

def waitAll (plan : Plan) (b : Batch) : Act Batch := waitBelow plan 1 (b.running.length + 1) b

/-- What a command does before it starts. -/
def prepare (withoutInput : Bool) : Op Unit := do
  if withoutInput then
    Op.close 0
    let _ ← Op.startOpen "/dev/null" { readable := true }
    Op.move 0 0

/-- A word as a shell would read it. -/
def shownWord (word : String) : String := if needsQuotes word then quoteAlways word else word

/-- Runs a command. -/
def runWords (plan : Plan) (words : List String) (b : Batch) : Act Batch := do
  let shown := " ".intercalate (words.map shownWord)
  if plan.asks then
    Act.printError shown
    giveUp plan.call 1 "failed to open /dev/tty for reading: No such device or address"
  if plan.isVerbose then Act.printError (shown ++ "\n")
  let b ← if plan.jobs = 0 then pure b else waitBelow plan plan.jobs (b.running.length + 1) b
  let slot := ((List.range (b.running.length + 1)).find? fun n =>
    !b.running.any fun r => r.2 == n).getD 0
  let environment ← Act.environment
  let environment := match plan.slot with
    | some name => Environment.assign environment (name ++ "=" ++ toString slot)
    | none => environment
  match ← findProgram environment words with
  | .error e =>
      let _ ← waitAll plan b
      complainOf plan.call (words.headD "") e
      stop (launchStatus e)
  | .ok found =>
      let pid ← startChild programs environment (prepare plan.withoutInput) found
      let b := { b with
        items := [], size := commandSize plan.words, lines := 0, started := true
        running := (pid, slot) :: b.running }
      if plan.jobs = 1 then waitAll plan b else return b

def runItems (plan : Plan) (b : Batch) : Act Batch :=
  runWords programs plan (plan.words ++ b.items.reverse) b

/-- Runs what there is before the utility ends with a message. -/
def abandon {α : Type} (plan : Plan) (b : Batch) (message : String) : Act α := do
  let b ← if b.items.isEmpty ∨ plan.isStrict then pure b else runItems programs plan b
  let _ ← waitAll plan b
  giveUp plan.call 1 message

/-- Puts an item behind the others, which may have to be run first. -/
def addItem (plan : Plan) (b : Batch) (text : String) : Act Batch := do
  if plan.maxSize < commandSize plan.words + text.length + 1 then
    abandon programs plan b "argument line too long"
  let size := text.length + 1
  let b ←
    if b.size + size ≤ plan.maxSize then pure b
    else
      if plan.isStrict && (plan.maxItems.isSome || plan.maxLines.isSome) then
        giveUp plan.call 1 "argument list too long"
      runItems programs plan b
  let b := { b with items := text :: b.items, size := b.size + size }
  if plan.maxItems = some b.items.length then runItems programs plan b else return b

def openQuoteMessage (mark : Char) : String :=
  "unmatched " ++ (if mark = '"' then "double" else "single") ++
    " quote; by default quotes are special to xargs unless you use the -0 option"

/-- Runs commands with all items. -/
def runPieces (plan : Plan) (pieces : List Piece) (b : Batch) : Act Batch :=
  pieces.foldlM (fun b piece => do
    match piece with
    | .item text => addItem programs plan b text
    | .lineEnd =>
        let b := { b with lines := b.lines + 1 }
        if plan.maxLines.any (· ≤ b.lines) then runItems programs plan b else return b
    | .openQuote mark => abandon programs plan b (openQuoteMessage mark)) b

/-- Runs a command for each item, which is put wherever the mark stands. -/
def runEach (plan : Plan) (mark : String) (pieces : List Piece) (b : Batch) : Act Batch :=
  pieces.foldlM (fun b piece => do
    match piece with
    | .item text =>
        let put (word : String) : String :=
          if mark.isEmpty then word else text.intercalate (word.splitOn mark)
        let words := plan.words.take 1 ++ (plan.words.drop 1).map put
        if plan.maxSize < commandSize words then giveUp plan.call 1 "command too long"
        runWords programs plan words b
    | .lineEnd => return b
    | .openQuote mark =>
        let _ ← waitAll plan b
        giveUp plan.call 1 (openQuoteMessage mark)) b

/-! ## Options -/

def table : OptionTable := {
  flags := "0rtpxo", valued := "nILdasPE", attached := "ile", stopsEarly := true
  valuedNames := "=", optional := "ile"
  named := [("null", '0'), ("arg-file", 'a'), ("delimiter", 'd'), ("eof", 'e'), ("replace", 'i'),
    ("max-lines", 'l'), ("max-args", 'n'), ("open-tty", 'o'), ("interactive", 'p'),
    ("no-run-if-empty", 'r'), ("max-chars", 's'), ("verbose", 't'), ("exit", 'x'),
    ("max-procs", 'P'), ("process-slot-var", '=')] }

/-- A number for an option, which has to be at least so large; `isFatal` tells what happens if it
is not. -/
def numberFor (call : Call) (option : Char) (least : Nat) (isFatal : Bool) (text : String) :
    Act Nat := do
  let cs := text.toList.dropWhile Text.isWhiteSpace
  let digits := if cs.head? = some '-' ∨ cs.head? = some '+' then cs.drop 1 else cs
  let letter := String.singleton option
  if digits.isEmpty ∨ !digits.all Char.isDigit then
    misuse call 1 ("invalid number \"" ++ text ++ "\" for -" ++ letter ++ " option")
  let value := digits.foldl (fun n c => n * 10 + (c.toNat - 48)) 0
  if value < least ∨ (cs.head? = some '-' ∧ 0 < value) then
    complain call ("value " ++ text ++ " for -" ++ letter ++ " option should be >= " ++
      toString least)
    if isFatal then
      explain (hint call ++ "\n")
      stop 1
    return least
  return value

/-- How many items or lines a command takes, or the mark that an item takes the place of. -/
structure Grouping where
  items : Option Nat := none
  lines : Option Nat := none
  mark : Option String := none

/-- Takes an option that says how items are grouped; one that does not go with it is dropped. -/
def grouped (call : Call) (g : Grouping) (option : Char × String) : Act Grouping := do
  let drop (has : Bool) (old new : String) : Act Unit :=
    if has then
      complain call ("warning: options " ++ old ++ " and " ++ new ++
        " are mutually exclusive, ignoring previous " ++ old ++ " value")
    else pure ()
  let (letter, value) := option
  match letter with
  | 'I' | 'i' =>
      drop g.lines.isSome "--max-lines" "--replace/-I/-i"
      drop g.items.isSome "--max-args" "--replace/-I/-i"
      return { mark := some (if letter = 'i' ∧ value.isEmpty then "\x7b\x7d" else value) }
  | 'L' | 'l' =>
      let name := if letter = 'L' then "-L" else "--max-lines/-l"
      drop g.items.isSome "--max-args" name
      drop g.mark.isSome "--replace" name
      let lines ← if letter = 'l' ∧ value.isEmpty then pure 1
        else numberFor call letter 1 true value
      return { lines := some lines }
  | 'n' =>
      drop g.lines.isSome "--max-lines" "--max-args/-n"
      let items ← numberFor call 'n' 1 true value
      if items = 1 ∧ g.mark.isSome then return { mark := g.mark }
      drop g.mark.isSome "--replace" "--max-args/-n"
      return { items := some items }
  | _ => return g

/-- The character that ends items. -/
def delimiterOf (call : Call) (text : String) : Act Char := do
  let invalid (what : String) : Act Char := giveUp call 1 what
  match text.toList with
  | [c] => return c
  | '\\' :: letter :: rest =>
      let wrong := "Invalid escape sequence " ++ text ++ " in input delimiter specification."
      let value (base : Nat) (digits : List Char) : Act Char :=
        if digits.isEmpty ∨ !digits.all fun c => Text.digitOf c < base then invalid wrong
        else return Char.ofNat (Text.valueIn base digits % 256)
      if letter = 'x' then value 16 rest
      else if letter.isDigit then value 8 (letter :: rest)
      else
        match letter, rest with
        | 'a', [] => return '\x07'
        | 'b', [] => return '\x08'
        | 'f', [] => return '\x0c'
        | 'n', [] => return '\n'
        | 'r', [] => return '\r'
        | 't', [] => return '\t'
        | 'v', [] => return '\x0b'
        | '\\', [] => return '\\'
        | _, _ => invalid wrong
  | _ => invalid ("Invalid input delimiter specification " ++ text ++
      ": the delimiter must be either a single character or an escape sequence starting with \\.")

/-- The longest command by default. -/
def usualSize : Nat := 131072

/-- The longest command that may be asked for. -/
def largestSize (environment : List (String × String)) : Nat :=
  2095104 - environment.foldl (fun n v => n + v.1.length + v.2.length + 2) 0

/-- How long a command may be. -/
def sizeFor (call : Call) (text? : Option String) : Act Nat := do
  match text? with
  | none => return usualSize
  | some text =>
      let size ← numberFor call 's' 1 false text
      let most := largestSize (← Act.environment)
      if most < size then
        complain call ("value " ++ text ++ " for -s option should be <= " ++ toString most)
        return most
      return size

/-- An item ends where a program would see its end. -/
def cutItem : Piece → Piece
  | .item text => .item (String.ofList (text.toList.takeWhile (· != '\x00')))
  | p => p

end

end Batching

open Batching in
def xargs (programs : Programs) : Utility := fun call => do
  let parsed ← table.parse call
  let grouping ← parsed.options.foldlM (grouped call) {}
  let jobs ← match parsed.value? 'P' with
    | none => pure 1
    | some text => numberFor call 'P' 0 true text
  let maxSize ← sizeFor call (parsed.value? 's')
  let separator? ← match parsed.last? "0d" with
    | some 'd' => do pure (some (← delimiterOf call ((parsed.value? 'd').getD "")))
    | some _ => pure (some '\x00')
    | none => pure none
  let endMark := ((parsed.options.reverse.find? fun o => o.1 == 'E' || o.1 == 'e').map
    (·.2)).filter (· != "")
  if endMark.isSome ∧ separator?.isSome then
    complain call "warning: the -E option has no effect if -0 or -d is used.\n"
  let words := if parsed.operands.isEmpty then ["echo"] else parsed.operands
  let file? := (parsed.value? 'a').filter (· != "-")
  let plan : Plan := {
    call, words, maxSize, maxItems := grouping.items, maxLines := grouping.lines
    mark := grouping.mark, isStrict := parsed.has 'x' || grouping.mark.isSome
    isVerbose := parsed.has 't', asks := parsed.has 'p', jobs
    slot := parsed.value? '=', withoutInput := file?.isNone }
  if maxSize < commandSize words then
    giveUp call 1 "cannot fit single argument within argument list size limit"
  let isClosed := file?.isNone && !(← Op.isOpen 0)
  let text ← match ← readInput (file?.getD "-") with
    | .ok text => pure text
    | .error e =>
        if file?.isSome then
          giveUp call 1 ("Cannot open input file " ++ quoteText (file?.getD "") ++ ": " ++ e.notice)
        pure ""
  let pieces := match separator? with
    | some separator => separatedItems separator text
    | none => upToEnd endMark (piecesOf grouping.mark.isSome text)
  if separator?.isNone ∧ text.contains '\x00' then
    complain call ("WARNING: a NUL character occurred in the input.  It cannot be passed through " ++
      "in the argument list.  Did you mean to use the --null option?")
  let pieces := pieces.map cutItem
  let b ← match grouping.mark with
    | some mark => runEach programs plan mark pieces { size := 0 }
    | none => do
        let b ← runPieces programs plan pieces { size := commandSize words }
        if b.items.isEmpty ∧ (b.started ∨ parsed.has 'r') then pure b
        else runItems programs plan b
  let b ← waitAll plan b
  if isClosed then
    complain call ("error closing file: " ++ SystemError.badDescriptor.notice)
    return 1
  return b.status

end CompilerDriver.Utility
