import CompilerDriver.Posix.Utility.Choice
import CompilerDriver.Posix.Utility.Input
import CompilerDriver.Posix.Utility.Sorting.Key

/-!
# Sorted lines

`sort` puts the lines of all its files in order, merges files that are in order already, or tells
whether one is.
-/

namespace CompilerDriver.Utility

open Kernel
open Sorting (Key Order Row)

namespace Sorting

/-! ## Lines -/

/-- Keeps the first of each run of equal lines. -/
def firstOfRuns (same : Row → Row → Bool) (rows : List Row) : List Row :=
  (rows.foldl (fun (kept : List Row) row =>
    match kept with
    | last :: _ => if same last row then kept else row :: kept
    | [] => [row]) []).reverse

/-- The first line that does not follow the one before it, with its number. -/
def firstDisorder (bad : Row → Row → Bool) : Nat → List Row → Option (Nat × String)
  | n, a :: b :: rest =>
      if bad a b then some (n + 1, b.line) else firstDisorder bad (n + 1) (b :: rest)
  | _, _ => none

/-- Takes the least of the lines that come first in some files, the one of the first such file. -/
def takeLeast (o : Order) : List (List Row) → Option (Row × List (List Row))
  | [] => none
  | [] :: rest => (takeLeast o rest).map fun (row, files) => (row, [] :: files)
  | (a :: as) :: rest =>
      match takeLeast o rest with
      | some (row, files) =>
          if o.compare a row == .gt then some (row, (a :: as) :: files) else some (a, as :: rest)
      | none => some (a, as :: rest)

def merge (o : Order) : Nat → List (List Row) → List Row → List Row
  | 0, _, done => done.reverse
  | n + 1, files, done =>
      match takeLeast o files with
      | some (row, files) => merge o n files (row :: done)
      | none => done.reverse

/-! ## Options -/

def table : OptionTable := {
  flags := "bdfgiMhnRrVcCmsuz", valued := "kotSTy", valuedNames := "!j>w", failure := 2
  named := [("reverse", 'r'), ("numeric-sort", 'n'), ("unique", 'u'), ("key", 'k'),
    ("field-separator", 't'), ("ignore-case", 'f'), ("ignore-leading-blanks", 'b'),
    ("output", 'o'), ("stable", 's'), ("merge", 'm'), ("check", '='), ("version-sort", 'V'),
    ("human-numeric-sort", 'h'), ("general-numeric-sort", 'g'), ("month-sort", 'M'),
    ("dictionary-order", 'd'), ("ignore-nonprinting", 'i'), ("zero-terminated", 'z'),
    ("sort", '!'), ("parallel", 'j'), ("buffer-size", 'S'), ("temporary-directory", 'T'),
    ("random-sort", 'R'), ("random-source", 'w'), ("batch-size", 'w'), ("compress-program", 'w'),
    ("files0-from", '>')]
  optional := "=" }

/-- Takes the places out of the arguments, up to the end of options. -/
def takePlaces : List String → List Key × List String
  | [] => ([], [])
  | "--" :: rest => ([], "--" :: rest)
  | start :: rest =>
      let both? := rest.head?.bind fun finish => Key.between? start (some finish)
      match both?, Key.between? start none with
      | some key, _ =>
          let (keys, others) := takePlaces (rest.drop 1)
          (key :: keys, others)
      | none, some key =>
          let (keys, others) := takePlaces rest
          (key :: keys, others)
      | none, none =>
          let (keys, others) := takePlaces rest
          (keys, start :: others)
termination_by arguments => arguments.length

def wordLetters : List (String × Char) := [
  ("general-numeric", 'g'), ("human-numeric", 'h'), ("month", 'M'), ("numeric", 'n'),
  ("random", 'R'), ("version", 'V')]

def checkWords : List (String × Char) := [("quiet", 'C'), ("silent", 'C'), ("diagnose-first", 'c')]

/-- Replaces options by words through the letters that they stand for. -/
def lettersOf (call : Call) (options : List (Char × String)) : Act (List (Char × String)) :=
  options.mapM fun (c, value) => do
    if c = '!' then return (← choiceOf call 2 "--sort" wordLetters value, "")
    else if c = '=' then
      if value.isEmpty then return ('c', "")
      return (← choiceOf call 2 "--check" checkWords value, "")
    else return (c, value)

/-- The separator of fields that the options agree on. -/
def tabOf (call : Call) (options : List (Char × String)) : Act (Option Char) := do
  let tabs ← (options.filter fun o => o.1 == 't').mapM fun (_, t) => do
    match t.toList with
    | [] => giveUp call 2 "empty tab"
    | [c] => return c
    | ['\\', '0'] => return '\x00'
    | _ => giveUp call 2 ("multi-character tab " ++ quoteText t)
  match tabs with
  | [] => return none
  | t :: others =>
      if others.any (· != t) then giveUp call 2 "incompatible tabs"
      return some t

def orderOf (call : Call) (options : List (Char × String)) (places : List Key) : Act Order := do
  let tab ← tabOf call options
  let letters := (options.map (·.1)).filter keyLetters.toList.contains
  let hasBlanks := letters.contains 'b'
  let whole : Key := { letters := letters, startBlanks := hasBlanks, endBlanks := hasBlanks }
  let keys ← (options.filter fun o => o.1 == 'k').mapM fun o => do
    match Key.ofText o.2 with
    | .error message => giveUp call 2 message
    | .ok key => return key
  let keys := (places ++ keys).map fun key =>
    if key.letters.isEmpty then
      { key with letters := letters, startBlanks := hasBlanks, endBlanks := hasBlanks }
    else key
  let keys := if keys.isEmpty ∧ !letters.isEmpty then [whole] else keys
  if let some conflict := keys.findSome? Key.conflict? then
    giveUp call 2 ("options '-" ++ conflict ++ "' are incompatible")
  let has (c : Char) : Bool := options.any fun o => o.1 == c
  return { keys, tab, keysOnly := has 's' || has 'u', reverse := letters.contains 'r' }

/-! ## Files -/

/-- Ends with a message about a file. -/
def refuse {α : Type} (call : Call) (what path : String) (e : SystemError) : Act α :=
  giveUp call 2 (what ++ ": " ++ quoteName path ++ ": " ++ e.notice)

def readRows (call : Call) (o : Order) (separator : Char) (openFailure path : String) :
    Act (List Row) := do
  match ← Input.openPath path with
  | .error e => refuse call openFailure path e
  | .ok i =>
      match ← Act.readAll i.descriptor with
      | .ok text =>
          i.close
          return (separatedLines separator text).map o.row
      | .error e => refuse call "read failed" path e

/-- The names of files that another file holds. -/
def namesFrom (call : Call) (path : String) : Act (List String) := do
  match ← readInput path with
  | .error e => refuse call "open failed" path e
  | .ok text =>
      let names := (separatedLines '\x00' text).map String.ofList
      if names.isEmpty then giveUp call 2 ("no input from " ++ quoteAlways path)
      return names

/-- Whether the lines of a file are in order. -/
def checkOrder (call : Call) (o : Order) (unique isQuiet : Bool) (path : String)
    (rows : List Row) : Act Nat := do
  let bad (a b : Row) : Bool :=
    match o.compare a b with
    | .gt => true
    | .eq => unique
    | .lt => false
  match firstDisorder bad 1 rows with
  | none => return 0
  | some (n, line) =>
      if !isQuiet then
        complain call (path ++ ":" ++ toString n ++ ": disorder: " ++ line)
      return 1

end Sorting

open Sorting in
def sort : Utility := fun call => do
  let (places, arguments) := takePlaces call.arguments
  let parsed ← table.parse { call with arguments := arguments }
  let options ← lettersOf call parsed.options
  let has (c : Char) : Bool := options.any fun o => o.1 == c
  let order ← orderOf call options places
  let outputs := (options.filter fun o => o.1 == 'o').map (·.2)
  if (outputs.eraseDups).length > 1 then giveUp call 2 "multiple output files specified"
  if has 'c' ∧ has 'C' then giveUp call 2 "options '-cC' are incompatible"
  let separator := if has 'z' then '\x00' else '\n'
  let paths ←
    match parsed.value? '>' with
    | none => pure (inputsOf parsed.operands)
    | some source =>
        if let some extra := parsed.operands.head? then
          complain call ("extra operand " ++ quoteAlways extra)
          Act.printError ("file operands cannot be combined with --files0-from\n" ++ hint call ++ "\n")
          stop 2
        namesFrom call source
  if has 'c' ∨ has 'C' then
    let letter := if has 'C' then "C" else "c"
    if let some extra := paths[1]? then
      giveUp call 2 ("extra operand " ++ quoteAlways extra ++ " not allowed with -" ++ letter)
    if !outputs.isEmpty then giveUp call 2 ("options '-" ++ letter ++ "o' are incompatible")
    let path := paths.headD "-"
    return ← checkOrder call order (has 'u') (has 'C') path
      (← readRows call order separator "open failed" path)
  for path in paths do
    if path ≠ "-" then
      if let .error e ← Op.statusOf path then refuse call "cannot read" path e
  for path in outputs.take 1 do
    match ← Act.openPath path { writable := true, creating := true } with
    | .ok descriptor => Op.move descriptor 1
    | .error e => refuse call "open failed" path e
  let files ← paths.mapM (readRows call order separator "cannot read")
  let sorted :=
    if has 'm' then merge order (files.foldl (fun n rows => n + rows.length) 1) files []
    else files.flatten.mergeSort fun a b => order.compare a b != .gt
  let kept :=
    if has 'u' then firstOfRuns (fun a b => order.compare a b == .eq) sorted else sorted
  for path in outputs.take 1 do
    if let .ok descriptor ← Act.openPath path { writable := true, truncating := true } then
      Op.close descriptor
  Act.print (String.join (kept.map fun row => row.line ++ String.singleton separator))
  return 0

end CompilerDriver.Utility
