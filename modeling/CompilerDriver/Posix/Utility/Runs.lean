import CompilerDriver.Posix.Utility.Choice
import CompilerDriver.Posix.Utility.Input
import CompilerDriver.Posix.Utility.Sorting.Key

/-!
# Runs of equal lines

`uniq` tells lines apart that stand one behind the other, by the parts of them that count.
-/

namespace CompilerDriver.Utility

open Kernel

namespace Runs

/-- Where lines are put between groups of lines. -/
inductive Delimiting where
  | none
  | before
  | behind
  | between
  | around
  deriving DecidableEq, Repr, Inhabited

/-- What counts of a line. -/
structure Comparison where
  skippedFields : Nat := 0
  skippedChars : Nat := 0
  most : Option Nat := none
  ignoresCase : Bool := false

def Comparison.key (c : Comparison) (line : List Char) : List Char :=
  let rest := (Sorting.behindFields none c.skippedFields line).drop c.skippedChars
  let rest := match c.most with
    | some n => rest.take n
    | none => rest
  if c.ignoresCase then rest.map Char.toLower else rest

/-- The runs of lines that count as equal. -/
def runsOf (key : List Char → List Char) (lines : List (List Char)) : List (List (List Char)) :=
  let (runs, _) := lines.foldl
    (fun ((runs, last) : List (List (List Char)) × Option (List Char)) line =>
      let k := key line
      match runs with
      | run :: others =>
          if last = some k then ((line :: run) :: others, last) else ([line] :: runs, some k)
      | [] => ([[line]], some k)) ([], none)
  (runs.map List.reverse).reverse

/-- Which lines are shown. -/
structure Selection where
  /-- Lines that stand alone. -/
  single : Bool := true
  /-- One line of each run. -/
  first : Bool := true
  /-- The further lines of each run. -/
  others : Bool := false
  counted : Bool := false
  delimiting : Delimiting := .none

/-- The lines that are shown of a run. -/
def Selection.lines (s : Selection) (run : List (List Char)) : List (List Char) :=
  if run.length = 1 then if s.single then run else []
  else if s.others then if s.first then run else run.dropLast
  else if s.first then run.take 1 else []

def countColumn (n : Nat) : String :=
  let digits := toString n
  String.ofList (List.replicate (7 - digits.length) ' ') ++ digits ++ " "

/-- The lines that are shown of all runs. -/
def Selection.text (s : Selection) (separator : Char) (runs : List (List (List Char))) : String :=
  let mark := String.singleton separator
  let shown (run : List (List Char)) : String :=
    let count := if s.counted then countColumn run.length else ""
    String.join ((s.lines run).map fun line => count ++ String.ofList line ++ mark)
  let (texts, _) := runs.foldl (fun ((texts, isFirst) : List String × Bool) run =>
    let isRun := 1 < run.length
    let delimited := isRun && (s.delimiting == .before || (s.delimiting == .between && !isFirst))
    (((if delimited then mark else "") ++ shown run) :: texts, isFirst && !isRun)) ([], true)
  String.join texts.reverse

/-- All lines, with marks around their groups. -/
def groupedText (delimiting : Delimiting) (separator : Char)
    (runs : List (List (List Char))) : String :=
  let mark := String.singleton separator
  let texts := runs.map fun run =>
    String.join (run.map fun line => String.ofList line ++ mark)
  if runs.isEmpty then ""
  else
    (if delimiting = .before ∨ delimiting = .around then mark else "") ++ mark.intercalate texts ++
      (if delimiting = .behind ∨ delimiting = .around then mark else "")

def repeatedWords : List (String × Delimiting) :=
  [("none", .none), ("prepend", .before), ("separate", .between)]

def groupWords : List (String × Delimiting) :=
  [("prepend", .before), ("append", .behind), ("separate", .between), ("both", .around)]

def table : OptionTable := {
  flags := "0123456789cdDuizAG", valued := "fsw"
  named := [("count", 'c'), ("repeated", 'd'), ("unique", 'u'), ("ignore-case", 'i'),
    ("skip-fields", 'f'), ("skip-chars", 's'), ("check-chars", 'w'), ("all-repeated", 'A'),
    ("group", 'G'), ("zero-terminated", 'z')], optional := "AG" }

def countOption (call : Call) (parsed : Parsed) (letter : Char) (what : String) :
    Act (Option Nat) := do
  match parsed.value? letter with
  | none => return none
  | some text =>
      match quantity? "" text with
      | .ok n => return some n
      | .error .tooLarge => return some maxQuantity
      | .error .malformed => giveUp call 1 (text ++ ": invalid number of " ++ what)

/-- How many characters are passed over, if an operand says so. -/
def skippedChars? (operand : String) : Option Nat :=
  match operand.toList with
  | '+' :: digits => if !digits.isEmpty && digits.all Char.isDigit then some (digitsValue digits)
      else none
  | _ => none

end Runs

open Runs in
def uniq : Utility := fun call => do
  let parsed ← table.parse call
  let skipped := parsed.operands.filterMap skippedChars?
  let operands := parsed.operands.filter fun operand => (skippedChars? operand).isNone
  let digits := (parsed.options.map (·.1)).filter Char.isDigit
  let fields := (← countOption call parsed 'f' "fields to skip").getD (digitsValue digits)
  let comparison : Comparison := {
    skippedFields := fields
    skippedChars := (← countOption call parsed 's' "bytes to skip").getD (skipped.getLastD 0)
    most := ← countOption call parsed 'w' "bytes to compare"
    ignoresCase := parsed.has 'i' }
  if let some extra := operands[2]? then extraOperand call 1 extra
  let repeated ←
    match parsed.value? 'A' with
    | none | some "" => pure Delimiting.none
    | some word => choiceOf call 1 "--all-repeated" repeatedWords word
  let group? ←
    match parsed.value? 'G' with
    | none => pure none
    | some "" => pure (some Delimiting.between)
    | some word => do pure (some (← choiceOf call 1 "--group" groupWords word))
  let showsAll := parsed.has 'D' || parsed.has 'A'
  if group?.isSome ∧ (showsAll ∨ parsed.has 'c' ∨ parsed.has 'd' ∨ parsed.has 'u') then
    misuse call 1 "--group is mutually exclusive with -c/-d/-D/-u"
  if showsAll ∧ parsed.has 'c' then
    misuse call 1 "printing all duplicated lines and repeat counts is meaningless"
  let path := operands.headD "-"
  let input ←
    match ← Input.openPath path with
    | .ok input => pure input
    | .error e => giveUp call 1 (quoteName path ++ ": " ++ e.notice)
  if let some path := operands[1]? then
    if path ≠ "-" then
      match ← Act.openPath path { writable := true, creating := true, truncating := true } with
      | .ok descriptor => Op.move descriptor 1
      | .error e => giveUp call 1 (quoteName path ++ ": " ++ e.notice)
  match ← Act.readAll input.descriptor with
  | .error e => giveUp call 1 ("error reading " ++ quoteAlways path ++ ": " ++ e.notice)
  | .ok text =>
      let separator := if parsed.has 'z' then '\x00' else '\n'
      let runs := runsOf comparison.key (separatedLines separator text)
      let selection : Selection := {
        single := !parsed.has 'd' && !showsAll, first := !parsed.has 'u', others := showsAll
        counted := parsed.has 'c', delimiting := repeated }
      Act.print (match group? with
        | some delimiting => groupedText delimiting separator runs
        | none => selection.text separator runs)
      return 0

end CompilerDriver.Utility
