/-!
# Fields

The result of an expansion is a list of items.  Regions of it, which come from unquoted
expansions, are cut into fields at the separators; blanks among these count together, and any
other separator counts by itself.
-/

namespace CompilerDriver.Shell

inductive Item where
  | char (c : Char) (escaped : Bool)
  /-- Something was quoted here, be it nothing. -/
  | quoteMark
  /-- The start of a region, which is cut at U+0000 only if it holds parameters one by one. -/
  | openRegion (parameters : Bool)
  | closeRegion
  deriving DecidableEq, Repr, Inhabited

namespace Item

def text (items : List Item) : List Char :=
  items.filterMap fun
    | .char c _ => some c
    | _ => none

def toText (items : List Item) : String := String.ofList (text items)

def ofText (s : String) (escaped : Bool) : List Item :=
  s.toList.map fun c => .char c escaped

/-- The characters with their escapes, as a pattern needs them. -/
def marked (items : List Item) : List (Char × Bool) :=
  items.filterMap fun
    | .char c escaped => some (c, escaped)
    | _ => none

end Item

def isBlankSeparator (c : Char) : Bool := c == ' ' || c == '\t' || c == '\n' || c == '\x00'

/-- Fields under way.  Lists are last first. -/
structure Cutter where
  fields : List (List Item) := []
  current : List Item := []
  inRegion : Bool := false
  parameters : Bool := false
  /-- The region before the present one held parameters. -/
  afterParameters : Bool := false
  /-- The last separator was a blank. -/
  afterBlank : Bool := false
  deriving Inhabited

namespace Cutter

def keep (s : Cutter) (item : Item) : Cutter :=
  { s with current := item :: s.current }

def finishField (s : Cutter) : Cutter :=
  { s with fields := s.current.reverse :: s.fields, current := [] }

def isSeparator (separators : String) (s : Cutter) (c : Char) : Bool :=
  c == '\x00' || (!s.parameters && separators.toList.contains c)

def separate (s : Cutter) (c : Char) : Cutter :=
  let blank := isBlankSeparator c && !(s.afterParameters || s.parameters)
  if s.current.isEmpty && blank then s
  else { s.finishField with afterBlank := blank }

def feed (separators : String) (s : Cutter) : Item → Cutter
  | .openRegion parameters => { s with
      inRegion := true
      parameters := parameters
      afterParameters := s.parameters
      afterBlank := false }
  | .closeRegion => { s with inRegion := false }
  | .quoteMark => s.keep .quoteMark
  | .char c escaped =>
      if !s.inRegion then s.keep (.char c escaped)
      else
        let separates := isSeparator separators s c && !escaped
        if s.afterBlank ∧ separates then
          -- Blanks go with the separator before them, and so does one other separator.
          if isBlankSeparator c then s else { s with afterBlank := false }
        else if separates then s.separate c
        else { s.keep (.char c escaped) with afterBlank := false }

/-- The fields that are left at the end. -/
def finish (s : Cutter) : List (List Item) :=
  if s.current.isEmpty && !s.parameters then s.fields.reverse else s.finishField.fields.reverse

end Cutter

/-- Cuts the result of an expansion into fields. -/
def cutFields (separators : String) (items : List Item) : List (List Item) :=
  (items.foldl (Cutter.feed separators) {}).finish

/-! ## Reading variables -/

/-- A line under way that is cut into a given number of fields.  The last one takes what is left,
but for separators at the end. -/
structure LineCutter where
  /-- How many fields may still begin behind a separator. -/
  left : Nat
  /-- The fields so far, last first. -/
  fields : List (List Item) := []
  /-- The field under way, last first, and its size. -/
  current : List Item := []
  size : Nat := 0
  /-- How much of the last field stays if nothing but separators follows. -/
  kept : Option Nat := none
  /-- The last separator was a blank. -/
  afterBlank : Bool := false

namespace LineCutter

def keep (s : LineCutter) (item : Item) : LineCutter :=
  { s with current := item :: s.current, size := s.size + 1 }

def finishField (s : LineCutter) : LineCutter :=
  { s with fields := s.current.reverse :: s.fields, current := [], size := 0 }

/-- Takes one more character of the last field. -/
def feedLast (s : LineCutter) (item : Item) (separates blank : Bool) : LineCutter :=
  let kept :=
    if blank then some (s.kept.getD s.size)
    else if separates && s.afterBlank then s.kept
    else none
  { s.keep item with kept := kept, afterBlank := blank && s.afterBlank }

def feed (separators : String) (s : LineCutter) (item : Item) : LineCutter :=
  match item with
  | .char c false =>
      let separates := separators.toList.contains c
      let blank := separates && isBlankSeparator c
      if s.left = 0 then s.feedLast item separates blank
      else if separates && s.afterBlank then { s with afterBlank := blank }
      else if !separates then { s.keep item with afterBlank := false }
      else if s.current.isEmpty && blank then s
      else if s.left = 1 then
        { s.keep item with left := 0, kept := some s.size, afterBlank := blank }
      else { s.finishField with left := s.left - 1, afterBlank := blank }
  | _ => { s.keep item with afterBlank := false }

def finish (s : LineCutter) : List (List Item) :=
  let last := s.current.reverse.take (s.kept.getD s.size)
  (if last.isEmpty then s.fields else last :: s.fields).reverse

end LineCutter

/-- Cuts a line into at most the given number of fields; the last one takes what is left. -/
def cutUpTo (separators : String) (count : Nat) (items : List Item) : List (List Item) :=
  (items.foldl (LineCutter.feed separators) { left := count }).finish

end CompilerDriver.Shell
