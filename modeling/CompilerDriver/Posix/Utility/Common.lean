import CompilerDriver.Posix.Utility.Input
import CompilerDriver.Posix.Utility.Locale

/-!
# Common lines

`comm` puts the lines of two sorted files in three columns: those of the first file alone, those of
the second one alone, and those of both.
-/

namespace CompilerDriver.Utility

open Kernel

namespace Common

/-- What happens while two files are compared. -/
inductive Event where
  | line (column : Nat) (text : String)
  /-- A file, by its number, is found not to be sorted. -/
  | disorder (file : Nat)
  deriving DecidableEq, Repr

/-- When the order of the lines is looked at. -/
inductive OrderCheck where
  | never
  | always
  /-- As soon as some line has no counterpart. -/
  | ifUnpaired
  deriving DecidableEq, Repr

/-- A file on the way: the lines ahead, the two before them, and whether it is known not to be
sorted. -/
structure Side where
  ahead : List (List Char)
  before : Option (List Char) := none
  earlier : Option (List Char) := none
  warned : Bool := false

def Side.isDisordered (s : Side) : Bool :=
  let follows (a b : Option (List Char)) : Bool :=
    match a, b with
    | some a, some b => compare a b != .gt
    | _, _ => true
  match s.ahead.head? with
  | some line => !follows s.before (some line)
  | none => !follows s.earlier s.before

/-- Takes the next line of a file. -/
def Side.step (s : Side) : Side :=
  { s with ahead := s.ahead.drop 1, before := s.ahead.head?, earlier := s.before }

/-- The events of a comparison, last first; files are numbered 1 and 2. -/
def events (check : OrderCheck) : Nat → Side → Side → Bool → List Event → List Event
  | 0, _, _, _, done => done
  | n + 1, a, b, unpaired, done =>
      let column? : Option (Nat × List Char) :=
        match a.ahead, b.ahead with
        | [], [] => none
        | x :: _, [] => some (1, x)
        | [], y :: _ => some (2, y)
        | x :: _, y :: _ =>
            match compare x y with
            | .lt => some (1, x)
            | .gt => some (2, y)
            | .eq => some (3, y)
      match column? with
      | none => done
      | some (column, line) =>
          let unpaired := unpaired || column != 3
          let looks := check == .always || (check == .ifUnpaired && unpaired)
          let advance (s : Side) (number : Nat) (moves : Bool) (done : List Event) :
              Side × List Event :=
            if !moves then (s, done)
            else
              let s := s.step
              if looks && !s.warned && s.isDisordered then
                ({ s with warned := true }, .disorder number :: done)
              else (s, done)
          let done := .line column (String.ofList line) :: done
          let (a, done) := advance a 1 (column != 2) done
          let (b, done) := advance b 2 (column != 1) done
          events check n a b unpaired done

def table : OptionTable := {
  flags := "123z", valuedNames := "="
  named := [("check-order", 'k'), ("nocheck-order", 'n'), ("output-delimiter", '='),
    ("total", 't'), ("zero-terminated", 'z')] }

end Common

open Common in
def comm : Utility := fun call => do
  let parsed ← table.parse call
  let delimiters := (parsed.options.filter fun o => o.1 == '=').map (·.2)
  if delimiters.eraseDups.length > 1 then
    giveUp call 1 "multiple output delimiters specified"
  let between := match delimiters.head? with
    | none => "\t"
    | some "" => "\x00"
    | some s => s
  let (one, two) ←
    match parsed.operands with
    | [] => missingOperand call 1
    | [one] => missingAfter call 1 one
    | [one, two] => pure (one, two)
    | _ :: _ :: extra :: _ => extraOperand call 1 extra
  let separator := if parsed.has 'z' then '\x00' else '\n'
  let read (path : String) : Act (List (List Char)) := do
    match ← readInput path with
    | .ok text => return separatedLines separator text
    | .error e => giveUp call 1 (quoteName path ++ ": " ++ e.notice)
  let first ← read one
  let second ← read two
  let check : OrderCheck := match parsed.last? "kn" with
    | some 'k' => .always
    | some _ => .never
    | none => .ifUnpaired
  let found :=
    (events check (first.length + second.length + 1) { ahead := first } { ahead := second } false
      []).reverse
  let mark := String.singleton separator
  let indent (column : Nat) : String :=
    String.join ((['1', '2', '3'].take (column - 1)).map fun c =>
      if parsed.has c then "" else between)
  let shown : Event → Bool
    | .line column _ => !parsed.has ("0123".toList.getD column '0')
    | .disorder _ => true
  for event in found.filter shown do
    match event with
    | .line column text => Act.print (indent column ++ text ++ mark)
    | .disorder file =>
        complain call ("file " ++ toString file ++ " is not in sorted order")
        if check = .always then stop 1
  if parsed.has 't' then
    let count (column : Nat) : String :=
      toString (found.filter fun event =>
        match event with
        | .line c _ => c == column
        | .disorder _ => false).length
    Act.print (between.intercalate [count 1, count 2, count 3, "total"] ++ mark)
  if found.any fun event => match event with
      | .disorder _ => true
      | .line _ _ => false then
    giveUp call 1 "input is not in sorted order"
  return 0

end CompilerDriver.Utility
