import CompilerDriver.Posix.Text.Regex.Basic

/-!
# Editing commands

What a script of the stream editor is made of.  Each command has a selector, which says on which
lines it acts; blocks and labels are commands of their own.
-/

namespace CompilerDriver.Utility.Edit

open Text (Regex)

/-- A regular expression as it is written, and the program for it. -/
structure Pattern where
  text : List Char
  ignoreCase : Bool
  multiline : Bool
  program : Regex.Program
  deriving Inhabited

inductive Address where
  | line (n : Nat)
  /-- Every so many lines from a first one on. -/
  | every (first step : Nat)
  | last
  /-- The lines that match; without a pattern, the one used last counts. -/
  | pattern (p : Option Pattern)
  deriving Inhabited

inductive RangeEnd where
  | address (a : Address)
  | count (n : Nat)
  /-- The next line whose number is a multiple of another one. -/
  | multiple (n : Nat)
  deriving Inhabited

structure Selector where
  first : Option Address := none
  last : Option RangeEnd := none
  negated : Bool := false
  deriving Inhabited

/-- How letters are written: all of them, and the first one if it is different. -/
structure LetterCase where
  all : Option Bool := none
  first : Option Bool := none
  deriving DecidableEq, Repr, Inhabited

/-- A text and the group behind it, whose letters are written alike. -/
structure ReplacementPart where
  letters : LetterCase
  text : List Char
  group : Option Nat := none
  deriving DecidableEq, Repr, Inhabited

structure Substitution where
  pattern : Option Pattern := none
  parts : List ReplacementPart
  everywhere : Bool := false
  /-- The first match to be replaced, if it is told. -/
  number : Option Nat := none
  prints : Bool := false
  /-- The outcome is run as a command. -/
  runs : Bool := false
  file : Option String := none
  deriving Inhabited

inductive BranchCondition where
  | always
  | changed
  | unchanged
  deriving DecidableEq, Repr

inductive Action where
  | nothing
  | label (name : String)
  | blockStart
  | blockEnd
  | branch (condition : BranchCondition) (name : String)
  | append (text : String)
  | insert (text : String)
  | change (text : String)
  | delete
  | deleteFirst
  | lineNumber
  | fileName
  | fetch
  | fetchMore
  | hold
  | holdMore
  | exchange
  /-- Runs a command or, without one, the pattern space. -/
  | run (command : String)
  | list (width : Option Nat)
  | next
  | nextMore
  | print
  | printFirst
  | quit (silent : Bool) (status : Option Nat)
  | readFile (path : String)
  | readLine (path : String)
  | write (path : String)
  | writeFirst (path : String)
  | substitute (s : Substitution)
  | transliterate (pairs : List (Char × Char))
  | clear
  deriving Inhabited

structure Command where
  selector : Selector
  action : Action
  deriving Inhabited

/-- The place at which the block ends that has been entered, so many blocks deep. -/
def blockEnd (commands : Array Command) : Nat → Nat → Nat → Nat
  | 0, place, _ => place
  | n + 1, place, depth =>
      match commands[place]? with
      | none => place
      | some c =>
          match c.action with
          | .blockStart => blockEnd commands n (place + 1) (depth + 1)
          | .blockEnd =>
              if depth = 0 then place else blockEnd commands n (place + 1) (depth - 1)
          | _ => blockEnd commands n (place + 1) depth

/-- The place of a label; the end of the script goes without a name. -/
def labelPlace? (commands : Array Command) (name : String) : Option Nat :=
  if name.isEmpty then some commands.size
  else commands.toList.findIdx? fun c =>
    match c.action with
    | .label n => n == name
    | _ => false

/-- A label that a script branches to and does not have. -/
def missingLabel? (commands : Array Command) : Option String :=
  commands.toList.findSome? fun c =>
    match c.action with
    | .branch _ name => if (labelPlace? commands name).isNone then some name else none
    | _ => none

/-- The files that a script writes to. -/
def filesWritten (commands : Array Command) : List String :=
  commands.toList.filterMap fun c =>
    match c.action with
    | .write path | .writeFirst path => some path
    | .substitute s => s.file
    | _ => none

end CompilerDriver.Utility.Edit
