import CompilerDriver.Posix.Kernel.Program
import CompilerDriver.Posix.Shell.Command

/-!
# The state of a shell

Everything that a shell process knows and that a subshell starts with a copy of.
-/

namespace CompilerDriver.Shell

open Kernel (Signal Termination)

structure Variable where
  value : Option String
  exported : Bool := false
  readonly : Bool := false
  deriving DecidableEq, Repr, Inhabited

/-- Processes that the shell has started together. -/
structure Job where
  number : Nat
  /-- The processes in order, and how they have ended. -/
  members : List (Nat × Option Termination) := []
  /-- Somebody has asked how the job has ended. -/
  isKnown : Bool := false
  deriving DecidableEq, Repr, Inhabited

namespace Job

def isDone (j : Job) : Bool := j.members.all fun m => m.2.isSome

/-- How the last process has ended. -/
def ending? (j : Job) : Option Termination := (j.members.getLast?).bind (·.2)

def lastPid (j : Job) : Nat := (j.members.getLast?.map (·.1)).getD 0

def has (j : Job) (pid : Nat) : Bool := j.members.any fun m => m.1 == pid

def noteEnding (j : Job) (pid : Nat) (ending : Termination) : Job :=
  { j with members := j.members.map fun m => if m.1 = pid then (pid, some ending) else m }

end Job

/-- A jump that is under way. -/
inductive Skip where
  | none
  | break
  | continue
  | return
  deriving DecidableEq, Repr, Inhabited

structure State where
  /-- The identity that `$$` gives, also in subshells. -/
  rootPid : Nat := 0
  name : String := "sh"
  /-- The utility of the shell that is running, for its complaints. -/
  utility : Option String := none
  /-- The line of the running command. -/
  line : Nat := 0
  bindings : List (String × Variable) := []
  /-- What the open scopes have to restore, innermost first. -/
  scopes : List (List (String × Option Variable)) := []
  functions : List (String × Command) := []
  aliases : List (String × String) := []
  /-- Where programs have been found that have been run by name. -/
  found : List (String × String) := []
  parameters : List String := []
  /-- The letters of the options that are set. -/
  options : List Char := []
  traps : List (Signal × String) := []
  /-- The signals that have come and whose actions have not been run yet. -/
  pendingTraps : List Signal := []
  /-- The signals that were ignored when the shell started, which it cannot change. -/
  protectedSignals : List Signal := []
  status : Nat := 0
  /-- The status with which the shell has been told to exit. -/
  exitStatus : Option Nat := none
  /-- The status of the last command substitution. -/
  substitutionStatus : Nat := 0
  skip : Skip := .none
  skipCount : Nat := 0
  loopDepth : Nat := 0
  functionDepth : Nat := 0
  /-- How far `getopts` has come: the next argument, and the place in it. -/
  optionIndex : Nat := 1
  optionOffset : Option Nat := none
  lastBackground : Option Nat := none
  /-- The latest one first. -/
  jobs : List Job := []
  /-- The here-documents of the commands that have been read. -/
  documents : List (Nat × Word) := []
  nextDocument : Nat := 0
  /-- The working directory as the shell names it. -/
  directory : String := "/"
  deriving Inhabited

namespace State

def lookup (s : State) (name : String) : Option String :=
  (s.bindings.lookup name).bind Variable.value

/-- Replaces or adds the row of a name. -/
def updated {α : Type} (name : String) (a : α) : List (String × α) → List (String × α)
  | [] => [(name, a)]
  | row :: rows => if row.1 = name then (name, a) :: rows else row :: updated name a rows

def hasOption (s : State) (letter : Char) : Bool := s.options.contains letter

def setOption (s : State) (letter : Char) (on : Bool) : State :=
  let others := s.options.filter (· != letter)
  { s with options := if on then letter :: others else others }

/-- The variables that programs are given. -/
def exports (s : State) : List (String × String) :=
  s.bindings.filterMap fun (name, v) =>
    match v.value with
    | some value => if v.exported then some (name, value) else none
    | none => none

/-- Some signal has an action that is not to ignore it. -/
def hasTraps (s : State) : Bool := s.traps.any fun t => t.2 != ""

end State

/-- Why a shell does not go on. -/
inductive Stop where
  /-- The shell gives up on an error. -/
  | failed
  | finished
  /-- The shell has been told to exit. -/
  | exited
  deriving DecidableEq, Repr, Inhabited

/-- What a shell does. -/
abbrev Act := Kernel.Act Stop State

end CompilerDriver.Shell
