import CompilerDriver.Posix.Text.Glob
import CompilerDriver.Posix.Text.Version
import CompilerDriver.Posix.Text.Width
import CompilerDriver.Posix.Utility.NameStyle
import CompilerDriver.Posix.Utility.Paths

/-!
# Entries of a listing

What is listed, in which order, and what is known of it.
-/

namespace CompilerDriver.Utility.Listing

open Kernel

inductive Arrangement where
  | long
  | single
  | columns
  | rows
  | commas
  deriving DecidableEq, Repr, Inhabited

inductive Order where
  | name
  | none
  | time
  | size
  | extension
  | version
  | width
  deriving DecidableEq, Repr, Inhabited

/-- Which marks stand behind names to tell what they are. -/
inductive Marks where
  | none
  | slash
  | kinds
  | all
  deriving DecidableEq, Repr, Inhabited

/-- Which entries of a directory are listed. -/
inductive Scope where
  | visible
  | butDots
  | everything
  deriving DecidableEq, Repr, Inhabited

/-- Which links are followed. -/
inductive LinkRule where
  | never
  | operandsToDirectories
  | operands
  | always
  deriving DecidableEq, Repr, Inhabited

structure Style where
  arrangement : Arrangement := .single
  order : Order := .name
  reversed : Bool := false
  directoriesFirst : Bool := false
  scope : Scope := .visible
  hidden : List Text.Glob := []
  ignored : List Text.Glob := []
  recursive : Bool := false
  /-- Directories are listed as files are. -/
  immediate : Bool := false
  links : LinkRule := .never
  marks : Marks := .none
  names : NameStyle := .literal
  /-- What is not printable is shown as question marks. -/
  masked : Bool := false
  inodes : Bool := false
  blocks : Bool := false
  owner : Bool := true
  group : Bool := true
  author : Bool := false
  numeric : Bool := false
  /-- The base of units for people, if sizes are written in units. -/
  human : Option Nat := none
  /-- The size of a unit and its letter, if sizes are counted in units. -/
  unit : Option (Nat × String) := none
  lineLength : Nat := 80
  tab : Nat := 8
  colors : Bool := false
  /-- The formats of times long ago and of recent ones. -/
  timeFormats : String × String := ("%b %e  %Y", "%b %e %H:%M")
  lineEnd : String := "\n"
  deriving Inhabited

structure Row where
  name : String
  path : String
  status : Option Status
  /-- What the directory itself tells of its kind. -/
  kind : Option Kind
  link : Option String := none
  linked : Option Status := none
  deriving Inhabited

namespace Row

def isDirectory (r : Row) : Bool :=
  match r.status with
  | some s => s.isDirectory
  | none => r.kind == some .directory

def leadsToDirectory (r : Row) : Bool :=
  r.isDirectory || r.linked.any Status.isDirectory

def modified (r : Row) : Instant := (r.status.map Status.modified).getD 0

def size (r : Row) : Nat := (r.status.map Status.size).getD 0

/-- The ending of a name, with its point. -/
def extension (r : Row) : String :=
  let cs := r.name.toList.reverse
  let ending := cs.takeWhile (· != '.')
  if ending.length = cs.length then "" else String.ofList ('.' :: ending.reverse)

end Row

/-! ## Order -/

/-- The columns that some octets take. -/
def columnsOf (s : String) : Nat :=
  (Text.characters s.toList).foldl (fun n c =>
    n + if Text.isStray c then 1 else if isUnprintable c then 0 else Text.widthOf c) 0

def compareRows (style : Style) (a b : Row) : Ordering :=
  let byName := compare a.name b.name
  let order := match style.order with
    | .name => byName
    | .none => .eq
    | .time => (compare b.modified a.modified).then byName
    | .size => (compare b.size a.size).then byName
    | .extension => (compare a.extension b.extension).then byName
    | .version => (Text.Version.compare a.name.toList b.name.toList).then byName
    | .width =>
        (compare (columnsOf (style.names.apply [] a.name))
          (columnsOf (style.names.apply [] b.name))).then byName
  if style.reversed then order.swap else order

def isBefore (style : Style) (a b : Row) : Bool :=
  let order := compareRows style a b
  if style.directoriesFirst then
    match a.leadsToDirectory, b.leadsToDirectory with
    | true, false => true
    | false, true => false
    | _, _ => order.isLE
  else order.isLE

def sortRows (style : Style) (rows : List Row) : List Row :=
  if style.order = .none then
    (if style.reversed then rows.reverse else rows)
  else rows.mergeSort (isBefore style)

/-! ## Selection -/

def isIgnored (style : Style) (name : String) : Bool :=
  let isDotted := name.startsWith "."
  (match style.scope with
    | .visible => isDotted || style.hidden.any fun p => p.matchesText name
    | .butDots => isDots name
    | .everything => false) ||
  style.ignored.any fun p => p.matchesText name

/-! ## What is known -/

/-- What is to be known of every entry, and not its name alone. -/
def needsStatus (style : Style) : Bool :=
  style.arrangement == .long || style.order == .time || style.order == .size || style.blocks ||
    style.inodes || style.colors || style.marks == .all

def followsOperand (style : Style) : Bool := style.links != .never

/-- What a link leads to, which matters for marks and for what comes first. -/
def withLink (style : Style) (r : Row) : Op Row := do
  if !r.status.any fun s => s.kind == .link then return r
  let wanted := style.arrangement == .long || style.directoriesFirst || style.colors
  if !wanted then return r
  let link := match ← Op.readLink r.path with
    | .ok target => some target
    | .error _ => none
  let linked ← Op.status? r.path
  return { r with link := link, linked := linked }

/-- An operand of the command line. -/
def operandRow (style : Style) (path : String) : Op (Except SystemError Row) := do
  let own (path : String) : Op (Except SystemError Row) := do
    match ← Op.statusOf path false with
    | .ok s => return .ok (← withLink style { name := path, path := path, status := some s, kind := s.kind })
    | .error e => return .error e
  let behind ← Op.statusOf path
  let row (s : Status) : Row := { name := path, path := path, status := some s, kind := s.kind }
  match style.links, behind with
  | .never, _ => own path
  | .always, .ok s | .operands, .ok s => return .ok (row s)
  | .always, .error e | .operands, .error e => return .error e
  | .operandsToDirectories, .ok s => if s.isDirectory then return .ok (row s) else own path
  | .operandsToDirectories, .error e =>
      if e = .notFound ∨ e = .tooManyLinks then own path else return .error e

/-- An entry of a directory, and why nothing is known of it. -/
def entryRow (style : Style) (directory name : String) : Op (Row × Option SystemError) := do
  let path := if directory = "." then name else joinPath directory name
  match ← Op.statusOf path false with
  | .error e => return ({ name := name, path := path, status := none, kind := none }, some e)
  | .ok own =>
      if style.links = .always ∧ needsStatus style ∧ own.kind = .link then
        match ← Op.statusOf path with
        | .ok s => return ({ name := name, path := path, status := some s, kind := own.kind }, none)
        | .error e => return ({ name := name, path := path, status := none, kind := own.kind }, some e)
      let followed ← if style.links = .always ∧ own.kind = .link then Op.status? path else
        pure (some own)
      return (← withLink style
        { name := name, path := path, status := some (followed.getD own), kind := own.kind }, none)

end CompilerDriver.Utility.Listing
