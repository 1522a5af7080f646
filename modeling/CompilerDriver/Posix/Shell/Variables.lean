import CompilerDriver.Posix.Shell.State

/-!
# Variables and complaints

How a shell reads and sets its variables, and how it complains: with its name, the line of the
command and the utility that is running.
-/

namespace CompilerDriver.Shell

open Kernel

def state : Act State := Act.own

def modifyState (f : State → State) : Act Unit := Act.modifyOwn f

def setStatus (status : Nat) : Act Unit := modifyState fun s => { s with status := status }

/-! ## Complaints -/

def warn (message : String) : Act Unit := do
  let s ← state
  let utility :=
    match s.utility with
    | some name => name ++ ": "
    | none => ""
  Act.printError (s.name ++ ": " ++ toString s.line ++ ": " ++ utility ++ message ++ "\n")

/-- The status of a shell that gives up on an error. -/
def errorStatus : Nat := 2

/-- Complains and gives up. -/
def fail {α : Type} (message : String) : Act α := do
  setStatus errorStatus
  warn message
  throw .failed

/-- What a complaint says about a path that cannot be opened, created or run. -/
def noticeOf (e : SystemError) (missing : String) : String :=
  if e = .notFound ∨ e = .notDirectory then missing else e.notice

/-! ## Variables -/

/-- The blanks that separate fields unless a variable says otherwise. -/
def defaultSeparators : String := " \t\n"

def lookup (name : String) : Act (Option String) := return (← state).lookup name

def separators? : Act (Option String) := lookup "IFS"

/-- A whole number without a sign. -/
def number? (s : String) : Option Nat :=
  if s.toList.all Char.isDigit then s.toNat? else none

def number (s : String) : Act Nat :=
  match number? s with
  | some n => return n
  | none => fail ("Illegal number: " ++ s)

/-- The effect of a new value on the shell itself. -/
def noteAssignment (name value : String) : Act Unit :=
  if name = "OPTIND" then
    modifyState fun s => { s with
      optionIndex := max 1 ((number? value).getD 1), optionOffset := none }
  else return

def putVariable (name : String) (v : Variable) : Act Unit :=
  modifyState fun s => { s with bindings := State.updated name v s.bindings }

def assign (name value : String) : Act Unit := do
  if !isName name then fail (name ++ ": bad variable name")
  let s ← state
  let v := (s.bindings.lookup name).getD { value := none }
  if v.readonly then fail (name ++ ": is read only")
  putVariable name { v with value := some value, exported := v.exported || s.hasOption 'a' }
  noteAssignment name value

/-- Marks a variable, which need not have a value. -/
def mark (name : String) (f : Variable → Variable) : Act Unit := do
  if !isName name then fail (name ++ ": bad variable name")
  putVariable name (f (((← state).bindings.lookup name).getD { value := none }))

def unset (name : String) : Act Unit := do
  if !isName name then fail (name ++ ": bad variable name")
  match (← state).bindings.lookup name with
  | none => return
  | some v =>
      if v.readonly then fail (name ++ ": is read only")
      modifyState fun s => { s with bindings := s.bindings.filter fun row => row.1 != name }

/-! ## Scopes -/

def openScope : Act Unit := modifyState fun s => { s with scopes := [] :: s.scopes }

/-- Remembers a variable in the innermost scope. -/
def saveVariable (name : String) : Act Unit :=
  modifyState fun s =>
    match s.scopes with
    | [] => s
    | scope :: outer =>
        if scope.any fun row => row.1 == name then s
        else { s with scopes := ((name, s.bindings.lookup name) :: scope) :: outer }

/-- The row of a scope that holds the options. -/
def optionsRow : String := "-"

def saveOptions : Act Unit :=
  modifyState fun s =>
    match s.scopes with
    | [] => s
    | scope :: outer =>
        let row : Option Variable := some { value := some (String.ofList s.options) }
        { s with scopes := ((optionsRow, row) :: scope) :: outer }

/-- Restores what the innermost scope has remembered. -/
def closeScope : Act Unit := do
  let s ← state
  match s.scopes with
  | [] => return
  | scope :: outer =>
      modifyState fun s => { s with scopes := outer }
      for (name, before) in scope do
        let value := (before.bind Variable.value).getD ""
        if name = optionsRow then modifyState fun s => { s with options := value.toList }
        else
          match before with
          | some v => putVariable name v
          | none =>
              modifyState fun s => { s with
                bindings := s.bindings.filter fun row => row.1 != name }
          noteAssignment name value

/-- Forgets what the innermost scope has remembered, so that its assignments stay. -/
def dropScope : Act Unit := modifyState fun s => { s with scopes := s.scopes.drop 1 }

end CompilerDriver.Shell
