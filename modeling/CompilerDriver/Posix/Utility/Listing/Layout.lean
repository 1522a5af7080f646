import CompilerDriver.Posix.Calendar.Format
import CompilerDriver.Posix.Kernel.Mode
import CompilerDriver.Posix.Utility.Listing.Entry

/-!
# The layout of a listing

Names in columns, in rows, with commas or one below the other, and what stands in front of them.
-/

namespace CompilerDriver.Utility.Listing

open Kernel

/-! ## Numbers -/

/-- A size in units for people, rounded up. -/
def humanSize (base size : Nat) : String :=
  let letters := ["", "K", "M", "G", "T", "P", "E"].map fun l =>
    if base = 1000 ∧ l = "K" then "k" else l
  let rec go : Nat → Nat → List String → String
    | _, _, [] => toString size
    | _, unit, [letter] => toString ((size + unit - 1) / unit) ++ letter
    | 0, unit, letter :: _ => toString ((size + unit - 1) / unit) ++ letter
    | n + 1, unit, letter :: more =>
        let tenths := (size * 10 + unit - 1) / unit
        if unit = 1 then (if size < base then toString size else go n base more)
        else if tenths < 100 then
          toString (tenths / 10) ++ "." ++ toString (tenths % 10) ++ letter
        else
          let whole := (size + unit - 1) / unit
          if whole < base then toString whole ++ letter else go n (unit * base) more
  go 8 1 letters

/-- The octets that a file takes up on its volume. -/
def allocated (s : Status) : Nat :=
  match s.kind with
  | .file => (s.size + 4095) / 4096 * 4096
  | .directory => 4096
  | .link => if s.size < 60 then 0 else 4096
  | _ => 0

def blockText (style : Style) (octets : Nat) : String :=
  match style.human with
  | some base => humanSize base octets
  | none =>
      let (unit, letter) := style.unit.getD (1024, "")
      toString ((octets + unit - 1) / unit) ++ letter

def sizeText (style : Style) (size : Nat) : String :=
  match style.human with
  | some base => humanSize base size
  | none =>
      match style.unit with
      | some (unit, letter) => toString ((size + unit - 1) / unit) ++ letter
      | none => toString size

/-- The numbers of a device. -/
def deviceNumbers : Device → Nat × Nat
  | .null => (1, 3)
  | .zero => (1, 5)
  | .full => (1, 7)
  | .terminal => (5, 0)
  | _ => (0, 0)

/-! ## Names -/

def kindMark (marks : Marks) (kind : Kind) (executable : Bool) : String :=
  match marks, kind with
  | .none, _ => ""
  | _, .directory => "/"
  | .slash, _ => ""
  | .all, .file => if executable then "*" else ""
  | _, .file => ""
  | _, .link => "@"
  | _, .queue => "|"
  | _, .socket => "="
  | _, .characters => ""

def markOf (style : Style) (r : Row) : String :=
  match r.status, r.kind with
  | some s, _ => kindMark style.marks s.kind s.isExecutable
  | none, some kind => kindMark style.marks kind false
  | none, none => ""

/-- The characters that are quoted too because they could be taken for marks. -/
def quotedToo (style : Style) : List Char :=
  let marks := match style.marks with
    | .all => "=>@|".toList
    | .kinds => "*=>@|".toList
    | _ => []
  if style.names = .escaped then ' ' :: marks else marks

def shownName (style : Style) (more : List Char) (name : String) : String :=
  let text := style.names.apply (quotedToo style ++ more) name
  if style.masked then
    Text.octetsOfCharacters ((Text.characters text.toList).map fun c =>
      if isUnprintable c then '?' else c)
  else text

/-- Names are moved so that those with quotes and those without are aligned. -/
def alignsQuotes (style : Style) : Bool :=
  (style.arrangement == .long ||
    ((style.arrangement == .columns || style.arrangement == .rows) && style.lineLength != 0)) &&
  match style.names with
  | .shell _ false | .doubled true => true
  | _ => false

/-! ## Colors -/

/-- The color of an entry. -/
def colorOf (r : Row) : String :=
  let kind := (r.status.map Status.kind).orElse fun _ => r.kind
  match kind with
  | some .directory =>
      match r.status.map fun s => (s.mode &&& 0o1000 != 0, s.mode &&& 0o002 != 0) with
      | some (true, true) => "30;42"
      | some (false, true) => "34;42"
      | some (true, false) => "37;44"
      | _ => "01;34"
  | some .link => "01;36"
  | some .queue => "33"
  | some .socket => "01;35"
  | some .characters => "01;33"
  | some .file =>
      match r.status with
      | some s =>
          if s.mode &&& 0o4000 ≠ 0 then "37;41"
          else if s.mode &&& 0o2000 ≠ 0 then "30;43"
          else if s.isExecutable then "01;32"
          else ""
      | none => ""
  | none => ""

/-! ## Lines -/

/-- An entry with what stands in front of its name, and the columns that it takes. -/
structure Cell where
  text : String
  width : Nat
  deriving Inhabited

structure Widths where
  inode : Nat := 0
  block : Nat := 0
  links : Nat := 0
  owner : Nat := 0
  group : Nat := 0
  size : Nat := 0
  major : Nat := 0
  minor : Nat := 0
  quoted : Bool := false

def padRight (width : Nat) (s : String) : String :=
  s ++ String.ofList (List.replicate (width - s.length) ' ')

def padFront (width : Nat) (s : String) : String :=
  String.ofList (List.replicate (width - s.length) ' ') ++ s

def ownerText (style : Style) (id : Nat) : String :=
  if id = 0 ∧ !style.numeric then "root" else toString id

def widthsOf (style : Style) (rows : List Row) : Widths :=
  rows.foldl (fun w r =>
    let quoted := w.quoted || (alignsQuotes style && shownName style [] r.name != r.name)
    match r.status with
    | none => { w with
        quoted := quoted, inode := max w.inode 1, block := max w.block 1, links := max w.links 1
        owner := max w.owner 1, group := max w.group 1, size := max w.size 1 }
    | some s =>
        let (major, minor) := ((s.device.map deviceNumbers).map fun (a, b) =>
          ((toString a).length, (toString b).length)).getD (0, 0)
        let major := max w.major major
        let minor := max w.minor minor
        let size := if s.device.isSome then major + 2 + minor
          else (sizeText style s.size).length
        { inode := max w.inode (toString ((s.node.getD 0) + 1)).length
          block := max w.block (blockText style (allocated s)).length
          links := max w.links (toString s.links).length
          owner := max w.owner (ownerText style s.owner).length
          group := max w.group (ownerText style s.group).length
          size := max w.size size
          major := major, minor := minor, quoted := quoted }) {}

def paint (style : Style) (r : Row) (name : String) : String :=
  let color := if style.colors then colorOf r else ""
  if color.isEmpty then name else "\x1b[" ++ color ++ "m" ++ name ++ "\x1b[0m"

/-- What stands in front of everything else. -/
def frontOf (style : Style) (w : Widths) (r : Row) : String :=
  let pad (width : Nat) (s : String) : String :=
    if style.arrangement = .commas then s else padFront width s
  let inode := if style.inodes then
      pad w.inode ((r.status.map fun s => toString ((s.node.getD 0) + 1)).getD "?") ++ " "
    else ""
  let block := if style.blocks then
      pad w.block ((r.status.map fun s => blockText style (allocated s)).getD "?") ++ " "
    else ""
  inode ++ block

/-- A name as it is shown in a list where some names may have quotes. -/
def nameOf (style : Style) (w : Widths) (r : Row) : String :=
  let name := shownName style [] r.name
  if w.quoted && name == r.name then " " ++ name else name

/-- A name with its marks, and the numbers in front of it. -/
def cellOf (style : Style) (w : Widths) (r : Row) : Cell :=
  let front := frontOf style w r
  let name := nameOf style w r
  let mark := markOf style r
  ⟨front ++ paint style r name ++ mark, columnsOf (front ++ name ++ mark)⟩

def kindLetter : Kind → Char
  | .file => '-'
  | .directory => 'd'
  | .link => 'l'
  | .characters => 'c'
  | .queue => 'p'
  | .socket => 's'

/-- The time of the last change, in one of two formats. -/
def timeText (style : Style) (now time : Instant) : String :=
  let halfYear : Int := 31556952 / 2 * Calendar.nanosecondsPerSecond
  let isRecent := now - halfYear < time && time ≤ now
  let text := if isRecent then style.timeFormats.2 else style.timeFormats.1
  Calendar.format "UTC" text (Calendar.Moment.ofInstant time)

/-- The size of a file or the numbers of a device. -/
def sizeField (style : Style) (w : Widths) (r : Row) : String :=
  match r.status with
  | none => padFront w.size "?"
  | some s =>
      match s.device with
      | some device =>
          let (major, minor) := deviceNumbers device
          padFront w.size
            (padFront w.major (toString major) ++ ", " ++ padFront w.minor (toString minor))
      | none => padFront w.size (sizeText style s.size)

/-- What a link leads to, with an arrow. -/
def linkText (style : Style) (r : Row) : String :=
  match r.link with
  | none => ""
  | some link =>
      let shown := shownName style [] link
      match r.linked with
      | none => " -> " ++ shown
      | some s =>
          " -> " ++ paint style { r with status := some s, kind := some s.kind } shown ++
            kindMark style.marks s.kind s.isExecutable

def longLine (style : Style) (w : Widths) (now : Instant) (r : Row) : String :=
  let mode := match r.status with
    | some s => String.singleton (kindLetter s.kind) ++ Mode.letters s.mode
    | none => String.singleton ((r.kind.map kindLetter).getD '?') ++ "?????????"
  let links := padFront w.links ((r.status.map fun s => toString s.links).getD "?")
  let person (width : Nat) (value : Status → Nat) : String :=
    let text := (r.status.map fun s => ownerText style (value s)).getD "?"
    (if style.numeric then padFront width text else padRight width text) ++ " "
  let people := (if style.owner then person w.owner Status.owner else "") ++
    (if style.group then person w.group Status.group else "") ++
    if style.author then person w.owner Status.owner else ""
  let time := match r.status with
    | some s => timeText style now s.modified
    | none =>
        let width := (Calendar.format "UTC" style.timeFormats.1
          (Calendar.Moment.ofInstant 0)).length
        padFront width "?"
  let mark := if r.link.isSome then "" else markOf style r
  frontOf style w r ++ mode ++ " " ++ links ++ " " ++ people ++ sizeField style w r ++ " " ++ time ++
    " " ++ paint style r (nameOf style w r) ++ mark ++ linkText style r

/-! ## Columns -/

/-- Blanks and tabs from one column to another one. -/
def indent (tab : Nat) : Nat → Nat → Nat → List Char
  | 0, _, _ => []
  | n + 1, from', to' =>
      if to' ≤ from' then []
      else if tab ≠ 0 ∧ (from' + 1) / tab < to' / tab then
        '\t' :: indent tab n (from' + (tab - from' % tab)) to'
      else ' ' :: indent tab n (from' + 1) to'

def leastColumn : Nat := 3

/-- The widths of a number of columns, if they fit into a line. -/
def fit (style : Style) (byColumns : Bool) (widths : Array Nat) (count : Nat) :
    Option (List Nat) :=
  let rows := (widths.size + count - 1) / count
  let columnOf (i : Nat) : Nat := if byColumns then i / rows else i % count
  let columns := widths.toList.zipIdx.foldl (fun (columns : Array Nat) (width, i) =>
    let c := columnOf i
    let width := width + if c + 1 = count then 0 else 2
    columns.modify c (max width)) (Array.replicate count leastColumn)
  let columns := columns.toList
  if columns.foldl (· + ·) 0 < style.lineLength then some columns else none

/-- The widths of as many columns as fit into a line. -/
def bestFit (style : Style) (byColumns : Bool) (widths : Array Nat) : Nat → List Nat
  | 0 => [0]
  | 1 => [0]
  | n + 1 =>
      match fit style byColumns widths (n + 1) with
      | some columns => columns
      | none => bestFit style byColumns widths n

/-- Cells of one line. -/
def lineOf (style : Style) : Nat → List (Cell × Nat) → String
  | _, [] => ""
  | _, [(cell, _)] => cell.text
  | start, (cell, width) :: rest =>
      cell.text ++ String.ofList (indent style.tab 1000000 (start + cell.width) (start + width)) ++
        lineOf style (start + width) rest

def grid (style : Style) (byColumns : Bool) (cells : List Cell) : String :=
  let widths := (cells.map Cell.width).toArray
  let most := (style.lineLength + leastColumn - 1) / leastColumn
  let columns := bestFit style byColumns widths (max 1 (min most cells.length))
  let count := columns.length
  let rows := (cells.length + count - 1) / count
  let cellsAt := cells.toArray
  let lines := (List.range rows).map fun row =>
    let places := (List.range count).filterMap fun c =>
      cellsAt[if byColumns then row + c * rows else row * count + c]?
    lineOf style 0 (places.zip columns) ++ style.lineEnd
  String.join lines

/-- Cells with a separator between them, as many on a line as fit. -/
def separated (style : Style) (mark : String) (cells : List Cell) : String :=
  let (text, _) := cells.foldl (fun ((parts, place) : List String × Option Nat) cell =>
    match place with
    | none => (cell.text :: parts, some cell.width)
    | some place =>
        if style.lineLength = 0 ∨ place + cell.width + 2 < style.lineLength then
          (cell.text :: " " :: mark :: parts, some (place + 2 + cell.width))
        else (cell.text :: style.lineEnd :: mark :: parts, some cell.width)) ([], none)
  String.join text.reverse ++ style.lineEnd

/-- The text of some entries. -/
def render (style : Style) (now : Instant) (rows : List Row) : String :=
  let w := widthsOf style rows
  let cells := rows.map (cellOf style w)
  if rows.isEmpty then ""
  else
    match style.arrangement with
    | .long => String.join (rows.map fun r => longLine style w now r ++ style.lineEnd)
    | .single => String.join (cells.map fun c => c.text ++ style.lineEnd)
    | .columns => if style.lineLength = 0 then separated style " " cells else grid style true cells
    | .rows => if style.lineLength = 0 then separated style " " cells else grid style false cells
    | .commas => separated style "," cells

end CompilerDriver.Utility.Listing
