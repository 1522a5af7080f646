import CompilerDriver.Posix.Utility.Input
import CompilerDriver.Posix.Utility.Quantity

/-!
# Folded lines

`fold` breaks lines that are too wide.
-/

namespace CompilerDriver.Utility

open Kernel

namespace Folding

structure Fold where
  width : Nat
  /-- Every octet counts as one column. -/
  countsBytes : Bool
  /-- Lines are broken behind blanks if they can be. -/
  atBlanks : Bool

/-- The column behind a character. -/
def Fold.columnAfter (f : Fold) (column : Nat) (c : Char) : Nat :=
  if f.countsBytes then column + 1
  else
    match c with
    | '\x08' => column - 1
    | '\r' => 0
    | '\t' => column + 8 - column % 8
    | _ => column + 1

/-- The line at hand, last character first, its column, and what has been written, last first. -/
structure State where
  line : List Char := []
  column : Nat := 0
  done : List Char := []

def isBlank (c : Char) : Bool := c == ' ' || c == '\t'

/-- Puts a character behind the line, which is broken first if it does not fit. -/
def Fold.place (f : Fold) : Nat → State → Char → State
  | 0, s, _ => s
  | n + 1, s, c =>
      let column := f.columnAfter s.column c
      if column ≤ f.width then { s with line := c :: s.line, column := column }
      else
        let tail := s.line.takeWhile fun c => !isBlank c
        if f.atBlanks && tail.length < s.line.length then
          let column := tail.foldr (fun c column => f.columnAfter column c) 0
          f.place n ⟨tail, column, '\n' :: s.line.drop tail.length ++ s.done⟩ c
        else if s.line.isEmpty then { s with line := [c], column := column }
        else f.place n ⟨[], 0, '\n' :: s.line ++ s.done⟩ c

def Fold.feed (f : Fold) (s : State) (c : Char) : State :=
  if c = '\n' then ⟨[], 0, '\n' :: s.line ++ s.done⟩
  else f.place (s.line.length + 2) s c

def Fold.text (f : Fold) (text : String) : String :=
  let s := text.toList.foldl f.feed {}
  String.ofList (s.line ++ s.done).reverse

def table : OptionTable := {
  flags := "bs", valued := "w", attached := "0123456789"
  named := [("bytes", 'b'), ("spaces", 's'), ("width", 'w')] }

end Folding

open Folding in
def fold : Utility := fun call => do
  let parsed ← table.parse call
  let widths := parsed.options.filterMap fun (c, value) =>
    if c = 'w' then some value
    else if c.isDigit then some (String.singleton c ++ value)
    else none
  let width ← quantityOf call 1 "" "invalid number of columns" (widths.getLastD "80") 1
    (maxQuantity - 9)
  let f : Fold := { width, countsBytes := parsed.has 'b', atBlanks := parsed.has 's' }
  onEach (inputsOf parsed.operands) fun path => do
    match ← readInput path with
    | .error e =>
        complainOf call (quoteName path) e
        return 1
    | .ok text =>
        Act.print (f.text text)
        return 0

end CompilerDriver.Utility
