import CompilerDriver.Posix.Utility.Locale
import CompilerDriver.Posix.Utility.Searching.Pattern

/-!
# Selected lines

A file is searched line by line.  Lines are selected, shown with the lines around them, and counted;
the search ends when enough has been found.
-/

namespace CompilerDriver.Utility.Searching

open Text (Regex)

/-- What is done with files that hold no text. -/
inductive BinaryFiles where
  /-- It is only told that there are matches. -/
  | told
  | text
  | passedOver
  deriving DecidableEq, Repr

/-- How selected lines are shown. -/
structure Style where
  inverted : Bool
  counts : Bool
  /-- Only what matches is shown. -/
  onlyMatches : Bool
  named : Bool
  numbered : Bool
  placed : Bool
  aligned : Bool
  colored : Bool
  /-- The mark behind a name, instead of the usual one. -/
  nameMark : Option Char
  before : Option Nat
  after : Option Nat
  /-- What stands between lines that are not side by side. -/
  gapMark : Option String
  most : Option Nat
  /-- Nothing but the first selected line matters. -/
  stopsAtFirst : Bool
  separator : Char
  binary : BinaryFiles
  unicode : Bool
  program : Option Regex.Program

/-- No lines are shown. -/
def Style.isSilent (style : Style) : Bool := style.counts || style.stopsAtFirst

/-! ## Lines -/

structure Line where
  number : Nat
  offset : Nat
  octets : List Char
  characters : Array Char

def sizeOf (cs : List Char) : Nat :=
  cs.foldl (fun n c => n + if c.toNat < 128 then 1 else (Text.octetsOfCharacter c).length) 0

namespace Style

def painted (style : Style) (color text : String) : String :=
  if style.colored then "\x1b[" ++ color ++ "m\x1b[K" ++ text ++ "\x1b[m\x1b[K" else text

/-- The name of a file and the mark behind it. -/
def nameThen (style : Style) (name : String) (mark : String) : String :=
  style.painted "35" name ++
    match style.nameMark with
    | some c => String.singleton c
    | none => mark

def mark (style : Style) (selected : Bool) : String :=
  style.painted "36" (if selected then ":" else "-")

/-- What stands before a line or a part of it.  Numbers are as wide as `width`. -/
def head (style : Style) (name : String) (width : Nat) (line : Line) (offset : Nat) (isEmpty : Bool)
    (selected : Bool) : String :=
  let number (n : Nat) : String :=
    let text := toString n
    style.painted "32" (String.ofList (List.replicate (width - text.length) ' ') ++ text) ++
      style.mark selected
  (if style.named then style.nameThen name (style.mark selected) else "") ++
    (if style.numbered then number line.number else "") ++
    (if style.placed then number offset else "") ++
    if style.aligned && (style.named || style.numbered || style.placed) && !isEmpty then "\t"
    else ""

/-- A text can be shown as it is. -/
def isShowable (style : Style) (cs : List Char) : Bool :=
  style.binary == .text || !cs.any Text.isStray

/-- The octets of a part of a line. -/
def part (style : Style) (line : Line) (first last : Nat) : String :=
  octetsIf style.unicode (line.characters.extract first last).toList

/-- A line as it is shown, unless it is no text. -/
def shown? (style : Style) (name : String) (width : Nat) (selected : Bool) (line : Line) :
    Option String :=
  let isMatching := selected != style.inverted
  let found := match style.program with
    | some p =>
        if isMatching && (style.onlyMatches || style.colored) then
          matchesIn p line.characters (line.characters.size + 1) 0
        else []
    | none => []
  let finish := String.singleton style.separator
  if style.onlyMatches then
    let pieces := found.map fun (first, last) =>
      let text := style.part line first last
      let offset := line.offset + sizeOf (line.characters.extract 0 first).toList
      if style.isShowable (line.characters.extract first last).toList then
        some (style.head name width line offset false selected ++ style.painted "01;31" text ++
          finish)
      else none
    if pieces.all Option.isSome then some (String.join (pieces.filterMap id)) else none
  else if !style.isShowable line.characters.toList then none
  else
    let start := style.head name width line line.offset line.octets.isEmpty selected
    let (text, place) := found.foldl (fun ((text, place) : String × Nat) (first, last) =>
      (text ++ style.part line place first ++ style.painted "01;31" (style.part line first last),
        last)) ("", 0)
    let rest := if found.isEmpty then String.ofList line.octets
      else text ++ style.part line place line.characters.size
    some (start ++ rest ++ finish)

end Style

/-! ## Searching -/

/-- How far the search of a file has come. -/
structure Search where
  name : String
  width : Nat
  number : Nat := 0
  offset : Nat := 0
  count : Nat := 0
  /-- How many more lines are shown behind a selected one. -/
  pending : Nat := 0
  /-- The lines that may have to be shown before the next selected one, last first. -/
  held : List Line := []
  lastShown : Option Nat := none
  /-- Lines have been selected, in this file or before it. -/
  used : Bool
  isQuiet : Bool
  stopsAtFirst : Bool
  /-- Something that had to be shown is no text. -/
  isBroken : Bool := false
  isDone : Bool := false
  /-- The offset behind the last selected line. -/
  afterLast : Nat := 0
  /-- What is to be printed, last first. -/
  output : List String := []

namespace Search

/-- Shows a line that is text. -/
def put (style : Style) (selected : Bool) (s : Search) (line : Line) : Search :=
  if s.isQuiet then s
  else
    match style.shown? s.name s.width selected line with
    | some text => { s with output := text :: s.output, lastShown := some line.number }
    | none => { s with isBroken := true, lastShown := some line.number }

/-- Shows the lines before a selected one, and a mark if there is a gap before them. -/
def showBefore (style : Style) (s : Search) : Search :=
  let first := s.number - s.held.length
  let isGap := (style.before.isSome || style.after.isSome) && s.used &&
    s.lastShown != some (first - 1)
  let s := match style.gapMark with
    | some mark =>
        if isGap then { s with output := (style.painted "36" mark ++ "\n") :: s.output } else s
    | none => s
  s.held.reverse.foldl (put style false) s

def isExhausted (style : Style) (s : Search) : Bool := style.most.any (· ≤ s.count)

/-- Takes the next line. -/
def feed (style : Style) (s : Search) (octets : List Char) : Search :=
  if s.isDone then s
  else
    let line : Line :=
      { number := s.number + 1, offset := s.offset, octets,
        characters := (charactersIf style.unicode octets).toArray }
    let isLate := s.isExhausted style
    let s := { s with number := line.number, offset := s.offset + octets.length + 1 }
    let selected := !isLate &&
      (style.program.any fun p => (p.find? line.characters true 0).isSome) != style.inverted
    if selected then
      let s := if s.isQuiet then s else put style true (showBefore style s) line
      let s :=
        { s with
          count := s.count + 1
          pending := if s.isQuiet then 0 else style.after.getD 0
          held := []
          used := true
          afterLast := s.offset }
      { s with isDone := s.stopsAtFirst || (s.isExhausted style && s.pending == 0) }
    else if 0 < s.pending then
      let s := put style false s line
      { s with pending := s.pending - 1, isDone := isLate && s.pending ≤ 1 }
    else { s with held := (line :: s.held).take (style.before.getD 0), isDone := isLate }

/-- The file is found to hold no text. -/
def turnQuiet (style : Style) (s : Search) : Search :=
  if style.counts then s else { s with isQuiet := true, stopsAtFirst := true }

end Search

end CompilerDriver.Utility.Searching
