import CompilerDriver.Posix.Kernel.Files
import CompilerDriver.Posix.Text.Directive
import CompilerDriver.Posix.Text.Glob
import CompilerDriver.Posix.Text.Regex.Basic

/-!
# Expressions about files

An expression is evaluated for one file after the other.  Its tests ask something about the file,
its actions do something with it, and operators join them.
-/

namespace CompilerDriver.Utility.Finding

open Kernel
open Text (Glob Regex)

/-! ## Tests -/

/-- How a number is compared with a given one. -/
inductive Comparison where
  | exactly
  | less
  | more
  deriving DecidableEq, Repr, Inhabited

/-- What a number that is asked for must be. -/
structure Amount where
  comparison : Comparison
  count : Nat
  deriving DecidableEq, Repr, Inhabited

def Amount.holds (a : Amount) (n : Nat) : Bool :=
  match a.comparison with
  | .exactly => n == a.count
  | .less => decide (n < a.count)
  | .more => decide (a.count < n)

/-- The numbers that are known of a file. -/
inductive Property where
  | links
  | inode
  | owner
  | group
  deriving DecidableEq, Repr, Inhabited

/-- Which permissions there must be. -/
inductive Demand where
  | exactly
  | all
  | any
  deriving DecidableEq, Repr, Inhabited

inductive Test where
  | constant (value : Bool)
  /-- The last component of the path matches. -/
  | name (p : Glob) (folded : Bool)
  | path (p : Glob) (folded : Bool)
  | regex (p : Regex.Program)
  /-- What a link leads to matches. -/
  | target (p : Glob) (folded : Bool)
  /-- The file is of one of some kinds.  `behind` asks about what a link leads to. -/
  | kind (kinds : List Kind) (behind : Bool)
  | permissions (demand : Demand) (file directory : Nat)
  | size (amount : Amount) (unit : Nat)
  | isEmpty
  | property (p : Property) (amount : Amount)
  | newerThan (time : Instant)
  /-- The time of the last change, compared with another one; `exactly` asks for a change within so
  many seconds after it. -/
  | changed (comparison : Comparison) (time : Instant) (window : Nat)
  | sameAs (node : Option Nat)
  | isPresent
  | isExecutable
  deriving Inhabited

/-! ## Actions -/

/-- Where an action writes to. -/
inductive Sink where
  | output
  | errors
  /-- A file, by its descriptor. -/
  | file (descriptor : Nat)
  deriving DecidableEq, Repr, Inhabited

/-- A part of a format: a text, or something that is known of the file. -/
inductive Piece where
  | text (s : String)
  | value (d : Text.Directive) (letter : Char)
  /-- The time of the last change, in a format of its own. -/
  | time (d : Text.Directive) (format : Char)
  /-- Nothing more is written. -/
  | stop
  deriving Inhabited

/-- A program that is run with the paths of files. -/
structure Command where
  words : List String
  /-- The program gets as many paths at once as there are, and is told apart by a number. -/
  gathers : Option Nat
  /-- The program runs in the directory in which the file is. -/
  inPlace : Bool
  asks : Bool
  deriving Inhabited

inductive Action where
  | write (sink : Sink) (format : List Piece)
  | list (sink : Sink)
  | run (c : Command)
  | delete
  | prune
  | quit
  deriving Inhabited

inductive Expression where
  | test (t : Test)
  | action (a : Action)
  | negation (a : Expression)
  | conjunction (a b : Expression)
  | disjunction (a b : Expression)
  /-- Both are evaluated, and the second one counts. -/
  | sequence (a b : Expression)
  deriving Inhabited

/-- An action after which paths are not printed of their own. -/
def Action.isTold : Action → Bool
  | .prune | .quit => false
  | _ => true

/-- The text for which a path stands in the words of a command. -/
def pathMark : String := "\x7b\x7d"

def pathLine : Action := .write .output [.value {} 'p', .text "\n"]

end CompilerDriver.Utility.Finding
