import CompilerDriver.Posix.Text.Classes
import CompilerDriver.Posix.Utility.Children

/-!
# Environments

`env` runs a program in an environment of its own, and `printenv` shows the present one.
-/

namespace CompilerDriver.Utility

open Kernel

/-- The status of a program that could not be started. -/
def launchStatus (e : SystemError) : Nat := if e = .notFound then 127 else 126

namespace Environment

/-! ## Split texts -/

inductive SplitError where
  | openQuote
  | openEscape
  | escape (c : Char)
  | expansion (rest : String)
  | cutInQuotes
  deriving DecidableEq, Repr

def SplitError.message : SplitError → String
  | openQuote => "no terminating quote in -S string"
  | openEscape => "invalid backslash at end of string in -S"
  | escape c => "invalid sequence '\\" ++ String.singleton c ++ "' in -S"
  | expansion rest => "only $\x7bVARNAME\x7d expansion is supported, error at: " ++ rest
  | cutInQuotes => "'\\c' must not appear in double-quoted -S string"

inductive Quote where
  | none
  | single
  | double
  deriving DecidableEq, Repr

/-- A text on its way to being split: the words, last first; a word has its last character first. -/
structure Splitting where
  words : List (List Char) := []
  /-- The next character starts a word. -/
  separated : Bool := true
  quote : Quote := .none

namespace Splitting

/-- Starts a word, if there is none yet. -/
def start (s : Splitting) : Splitting :=
  if s.separated then { s with words := [] :: s.words, separated := false } else s

def push (s : Splitting) (cs : List Char) : Splitting :=
  match s.start with
  | { words := word :: rest, separated, quote } =>
      { words := (cs.reverse ++ word) :: rest, separated, quote }
  | s => s

def toggle (s : Splitting) (quote : Quote) : Splitting :=
  { s.start with quote := if s.quote = quote then .none else quote }

def finish (s : Splitting) : Except SplitError (List String) :=
  if s.quote = .none then .ok (s.words.reverse.map fun w => String.ofList w.reverse)
  else .error .openQuote

end Splitting

/-- The name of a variable between braces, and what follows. -/
def braced? (cs : List Char) : Option (String × List Char) :=
  match cs with
  | '\x7b' :: rest =>
      let name := rest.takeWhile fun c => c.isAlphanum || c == '_'
      if name.isEmpty || name.head?.any Char.isDigit then none
      else
        match rest.drop name.length with
        | '\x7d' :: rest => some (String.ofList name, rest)
        | _ => none
  | _ => none

/-- Splits a text into words, as a shell would. -/
def splitUpTo (environment : List (String × String)) :
    Nat → List Char → Splitting → Except SplitError (List String)
  | 0, _, s | _ + 1, [], s => s.finish
  | n + 1, c :: rest, s =>
      let add (c : Char) (rest : List Char) : Except SplitError (List String) :=
        splitUpTo environment n rest (s.push [c])
      match c with
      | '\'' =>
          if s.quote = .double then add c rest
          else splitUpTo environment n rest (s.toggle .single)
      | '"' =>
          if s.quote = .single then add c rest
          else splitUpTo environment n rest (s.toggle .double)
      | '#' => if s.separated ∧ s.quote = .none then s.finish else add c rest
      | '$' =>
          if s.quote = .single then add c rest
          else
            match braced? rest with
            | none => .error (.expansion (String.ofList (c :: rest)))
            | some (name, rest) =>
                match environment.lookup name with
                | some value => splitUpTo environment n rest (s.push value.toList)
                | none => splitUpTo environment n rest s
      | '\\' =>
          match rest with
          | [] => if s.quote = .single then add c rest else .error .openEscape
          | d :: more =>
              if s.quote = .single ∧ d ≠ '\\' ∧ d ≠ '\'' then add c rest
              else
                match d with
                | '_' =>
                    if s.quote = .double then add ' ' more
                    else splitUpTo environment n more { s with separated := true }
                | 'c' => if s.quote = .double then .error .cutInQuotes else s.finish
                | 'f' => add '\x0c' more
                | 'n' => add '\n' more
                | 'r' => add '\r' more
                | 't' => add '\t' more
                | 'v' => add '\x0b' more
                | d =>
                    if "\"#$'\\".toList.contains d then add d more else .error (.escape d)
      | c =>
          if Text.isWhiteSpace c ∧ s.quote = .none then
            splitUpTo environment n rest { s with separated := true }
          else add c rest

def split (environment : List (String × String)) (text : String) :
    Except SplitError (List String) :=
  splitUpTo environment (text.length + 1) text.toList {}

/-! ## Options -/

def table : OptionTable := {
  flags := "i0v", valued := "uCS", stopsEarly := true, failure := 125
  valuedNames := "", optional := "bdg"
  named := [("ignore-environment", 'i'), ("null", '0'), ("unset", 'u'), ("chdir", 'C'),
    ("split-string", 'S'), ("debug", 'v'), ("block-signal", 'b'), ("default-signal", 'd'),
    ("ignore-signal", 'g'), ("list-signal-handling", 'l')] }

/-- A text to be split among the arguments: what stands before it, the text, and what follows. -/
def splitOption? : Nat → List String → List String → Option (List String × String × List String)
  | 0, _, _ | _ + 1, [], _ => none
  | n + 1, argument :: rest, before =>
      let next (count : Nat) : Option (List String × String × List String) :=
        splitOption? n (rest.drop count) (((argument :: rest.take count).reverse) ++ before)
      match argument.toList with
      | '-' :: '-' :: name =>
          if name.isEmpty then none
          else if argument = "--split-string" then
            rest.head?.map fun text => (before.reverse, text, rest.drop 1)
          else if argument.startsWith "--split-string=" then
            some (before.reverse, (argument.drop 15).toString, rest)
          else next (if argument = "--unset" ∨ argument = "--chdir" then 1 else 0)
      | '-' :: letters =>
          let plain := letters.takeWhile fun c => !"uCS".toList.contains c
          match letters.drop plain.length with
          | 'S' :: text =>
              let before := (if plain.isEmpty then before
                else String.ofList ('-' :: plain) :: before).reverse
              if text.isEmpty then rest.head?.map fun text => (before, text, rest.drop 1)
              else some (before, String.ofList text, rest)
          | [_] => next 1
          | _ => if letters.isEmpty then none else next 0
      | _ => none

/-- Splits texts among the arguments until there are none left; tells what has been split. -/
def expand (call : Call) : Nat → List String → List (String × List String) →
    Act (List String × List (String × List String))
  | 0, arguments, told => return (arguments, told.reverse)
  | n + 1, arguments, told => do
      match splitOption? arguments.length arguments [] with
      | none => return (arguments, told.reverse)
      | some (before, text, after) =>
          match split (← Act.environment) text with
          | .error e => giveUp call 125 e.message
          | .ok words => expand call n (before ++ words ++ after) ((text, words) :: told)

/-! ## Changes -/

def isAssignment (s : String) : Bool := s.toList.contains '='

/-- An environment with one more variable, which takes the place of one with the same name. -/
def assign (environment : List (String × String)) (assignment : String) : List (String × String) :=
  let name := String.ofList (assignment.toList.takeWhile (· != '='))
  let value := String.ofList (assignment.toList.drop (name.length + 1))
  if (environment.lookup name).isSome then
    environment.map fun v => if v.1 = name then (name, value) else v
  else environment ++ [(name, value)]

/-- A signal that an argument names. -/
def signalOf? (text : String) : Option Signal :=
  let name := text.map Char.toUpper
  (Signal.ofText? 1 name).orElse fun _ =>
    if name.startsWith "SIG" then Signal.ofText? 1 (name.drop 3).toString else none

/-- The signals that an option names; without a name, all that can be handled. -/
def signalsOf (call : Call) (text : String) : Act (List Signal) := do
  if text.isEmpty then
    return ((List.range (Signal.count + 1)).drop 1).filter fun n => !Signal.isAbsolute n
  (Text.splitWhere (· == ',') text.toList).mapM fun name => do
    match signalOf? (String.ofList name) with
    | some n => return n
    | none => misuse call 125 (quoteText (String.ofList name) ++ ": invalid signal")

/-- Tells which signals are ignored. -/
def tellSignals : Act Unit := do
  for n in (List.range (Signal.count + 1)).drop 1 do
    if ← Op.isIgnored n then
      let name := Signal.name n
      let number := toString n
      Act.printError (name ++ String.ofList (List.replicate (10 - name.length) ' ') ++ " (" ++
        String.ofList (List.replicate (2 - number.length) ' ') ++ number ++ "): IGNORE\n")

end Environment

open Environment in
def env (programs : Programs) : Utility := fun call => do
  let (arguments, texts) ← expand call 8 call.arguments []
  let parsed ← table.parse { call with arguments := arguments }
  let tell (what text : String) : Act Unit :=
    if parsed.has 'v' then explain (what ++ text ++ "\n") else pure ()
  for (text, words) in texts do
    tell "split -S:  " (quoteText text)
    for (word, i) in words.zipIdx do
      tell (if i = 0 then " into:    " else "     &    ") (quoteText word)
  let clears := parsed.has 'i' || parsed.operands.head? == some "-"
  let operands := if parsed.operands.head? = some "-" then parsed.operands.drop 1
    else parsed.operands
  let environment ← Act.environment
  let unset := (parsed.options.filter fun o => o.1 == 'u').map (·.2)
  if clears then tell "cleaning environ" ""
  else
    for name in unset do
      tell "unset:    " name
      if name.isEmpty ∨ isAssignment name then
        complain call ("cannot unset " ++ quoteText name ++ ": " ++
          SystemError.invalidArgument.notice)
        stop 125
  let kept := if clears then [] else environment.filter fun v => !unset.contains v.1
  let settings := operands.takeWhile isAssignment
  for setting in settings do
    tell "setenv:   " setting
  let environment := settings.foldl assign kept
  let words := operands.drop settings.length
  if parsed.has '0' ∧ !words.isEmpty then misuse call 125 "cannot specify --null (-0) with command"
  if parsed.has 'C' ∧ words.isEmpty then misuse call 125 "must specify command with --chdir (-C)"
  for (letter, value) in parsed.options do
    if letter = 'g' ∨ letter = 'd' ∨ letter = 'b' then
      for n in ← signalsOf call value do
        if letter = 'g' then Op.setDisposition n .ignore
        if letter = 'd' then Op.setDisposition n .default
  if words.isEmpty then
    for (name, value) in environment do
      Act.print (name ++ "=" ++ value ++ if parsed.has '0' then "\x00" else "\n")
    return 0
  if parsed.has 'l' then tellSignals
  if let some directory := parsed.value? 'C' then
    tell "chdir:    " (quoteAlways directory)
    if let .error e ← Op.changeDirectory directory then
      giveUp call 125 ("cannot change directory to " ++ quoteAlways directory ++ ": " ++ e.notice)
  let file := words.headD ""
  tell "executing: " file
  for (word, i) in words.zipIdx do
    tell ("   arg[" ++ toString i ++ "]= ") (quoteText word)
  match ← findProgram environment words with
  | .ok found => enter programs environment found
  | .error e =>
      complainOf call (quoteText file) e
      if e = .notFound ∧ file.toList.any Text.isWhiteSpace then
        complain call "use -[v]S to pass options in shebang lines"
      return launchStatus e

def printenv : Utility := fun call => do
  let parsed ← ({
    flags := "0", named := [("null", '0')], stopsEarly := true, failure := 2 }
      : OptionTable).parse call
  let environment ← Act.environment
  let last := if parsed.has '0' then "\x00" else "\n"
  if parsed.operands.isEmpty then
    for (name, value) in environment do
      Act.print (name ++ "=" ++ value ++ last)
    return 0
  onEach parsed.operands fun name => do
    match environment.lookup name with
    | some value =>
        if Environment.isAssignment name then return 1
        Act.print (value ++ last)
        return 0
    | none => return 1

end CompilerDriver.Utility
