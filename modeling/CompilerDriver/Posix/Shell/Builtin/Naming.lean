import CompilerDriver.Posix.Kernel.Program
import CompilerDriver.Posix.Shell.Builtin.Marking
import CompilerDriver.Posix.Shell.Parser

/-!
# What names stand for

`alias`, `unalias`, `hash`, `type` and the part of `command` that looks a name up.
-/

namespace CompilerDriver.Shell

open Kernel

/-- The utilities of the shell after which it may go on although they have failed. -/
def regularUtilities : List String :=
  ["[", "alias", "bg", "cd", "chdir", "command", "echo", "false", "fg", "getopts", "hash", "jobs",
    "kill", "printf", "pwd", "read", "test", "true", "type", "ulimit", "umask", "unalias", "wait"]

def isSpecialUtility (name : String) : Bool := Parser.specialUtilities.contains name

def isUtility (name : String) : Bool := isSpecialUtility name || regularUtilities.contains name

def searchPath : Act String := return ((← state).lookup "PATH").getD ""

/-- Where a program is that is run by name. -/
def findProgram (path name : String) : Act (Except SystemError String) := do
  if name.toList.contains '/' then return .ok name
  Program.firstProgram (Program.candidates path name) .notFound

namespace Builtin

def aliasText (row : String × String) : String := row.1 ++ "=" ++ singleQuoted row.2

def setAlias : Builtin := fun arguments => do
  if arguments.isEmpty then
    for row in (← state).aliases do
      Act.printLine (aliasText row)
    return 0
  let mut status := 0
  for argument in arguments do
    let name := (argument.toList.take 1) ++ (argument.toList.drop 1).takeWhile (· != '=')
    let rest := argument.toList.drop name.length
    let name := String.ofList name
    if rest.isEmpty then
      match (← state).aliases.lookup name with
      | some value => Act.printLine (aliasText (name, value))
      | none =>
          Act.printError ("alias: " ++ name ++ " not found\n")
          status := 1
    else
      modifyState fun s => { s with
        aliases := State.updated name (String.ofList (rest.drop 1)) s.aliases }
  return status

def unalias : Builtin := fun arguments => do
  let parsed ← parse "a" "" arguments
  if parsed.has 'a' then
    modifyState fun s => { s with aliases := [] }
    return 0
  let mut status := 0
  for name in parsed.operands do
    if ((← state).aliases.lookup name).isNone then
      Act.printError ("unalias: " ++ name ++ " not found\n")
      status := 1
    modifyState fun s => { s with aliases := s.aliases.filter fun a => a.1 != name }
  return status

def hash : Builtin := fun arguments => do
  let parsed ← parse "r" "" arguments
  if parsed.has 'r' then
    modifyState fun s => { s with found := [] }
    return 0
  if parsed.operands.isEmpty then
    for row in (← state).found do
      Act.printLine row.2
  let mut status := 0
  for name in parsed.operands do
    let s ← state
    if !isUtility name ∧ (s.functions.lookup name).isNone then
      match ← findProgram (← searchPath) name with
      | .ok path =>
          if !name.toList.contains '/' then
            modifyState fun s => { s with found := State.updated name path s.found }
      | .error e =>
          warn (name ++ ": " ++ noticeOf e "not found")
          status := 1
  return status

/-- Tells what a name stands for. -/
def describe (path : Option String) (verbose : Bool) (name : String) : Act Nat := do
  let s ← state
  let tell (long short : String) : Act Nat := do
    Act.printLine (if verbose then name ++ long else short)
    return 0
  if Token.reservedWords.contains name then tell " is a shell keyword" name
  else if let some value := s.aliases.lookup name then
    tell (" is an alias for " ++ value) ("alias " ++ aliasText (name, value))
  else if (s.functions.lookup name).isSome then tell " is a shell function" name
  else if isUtility name then
    tell (" is a " ++ (if isSpecialUtility name then "special " else "") ++ "shell builtin") name
  else
    let known := if path.isNone then s.found.lookup name else none
    let place ←
      match known with
      | some p => pure (.ok p)
      | none => findProgram (path.getD ((s.lookup "PATH").getD "")) name
    match place with
    | .ok p =>
        if ← Op.exists? p then
          if path.isNone ∧ !name.toList.contains '/' then
            modifyState fun s => { s with found := State.updated name p s.found }
          tell ((if known.isSome then " is a tracked alias for " else " is ") ++ p) p
        else missing
    | .error _ => missing
where
  missing : Act Nat := do
    if verbose then Act.print (name ++ ": not found\n")
    return 127

def type : Builtin := fun arguments => do
  let mut status := 0
  for name in arguments do
    status := status ||| (← describe none true name)
  return status

/-- `command` with an option that asks for a description. -/
def command : Builtin := fun arguments => do
  let parsed ← parse "pvV" "" arguments
  match parsed.operands with
  | [] => return 0
  | name :: _ =>
      if parsed.has 'v' ∨ parsed.has 'V' then
        describe (if parsed.has 'p' then some Program.defaultPath else none)
          (parsed.options.getLast?.map (·.1) != some 'v' && parsed.has 'V') name
      else return 0

end Builtin

end CompilerDriver.Shell
