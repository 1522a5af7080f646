import CompilerDriver.Posix.Shell.Builtin.Directory
import CompilerDriver.Posix.Shell.Builtin.Parameters
import CompilerDriver.Posix.Shell.Child
import CompilerDriver.Posix.Shell.Script

/-!
# Starting a shell

A shell takes its variables from its environment and its commands from an argument, a file or its
input.
-/

namespace CompilerDriver.Shell

open Kernel

/-- The variables that every shell has. -/
def initialVariables (parent : Nat) : List (String × String) := [
  ("PATH", Program.defaultPath), ("IFS", defaultSeparators), ("OPTIND", "1"), ("PS1", "# "),
  ("PS2", "> "), ("PS4", "+ "), ("PPID", toString parent)]

/-- The path of the working directory that the environment gives, if it is one. -/
def inheritedDirectory : Act (Option String) := do
  match ← Act.setting? "PWD" with
  | none => return none
  | some path =>
      let here := (← Op.self).here
      match ← Op.status? path with
      | some { node := some n, .. } =>
          return if path.startsWith "/" ∧ n = here then some path else none
      | _ => return none

def importVariables : Act Unit := do
  for (name, value) in initialVariables (← Op.self).parent do
    putVariable name { value := some value }
  for (name, value) in ← Act.environment do
    if isName name ∧ name ≠ "IFS" ∧ name ≠ "OPTIND" ∧ name ≠ "PPID" then
      putVariable name { value := some value, exported := true }
  let directory ←
    match ← inheritedDirectory with
    | some path => pure path
    | none => physicalDirectory
  putVariable "PWD" { value := some directory, exported := true }
  modifyState fun s => { s with directory := directory }

section

variable (perform : Perform)

def runInput : Act Unit := do
  let _ ← runScript perform (← scriptText 0)
  throw .exited

/-- Runs what the arguments of a shell ask for. -/
def runArguments (arguments : List String) : Act Unit := do
  let given ← readOptions true (arguments.length + 1) arguments false
  let readsInput := (← state).hasOption 's'
  match given.isCommand, given.operands with
  | true, [] => fail "-c requires an argument"
  | true, text :: rest =>
      if let name :: parameters := rest then
        modifyState fun s => { s with name := name, parameters := parameters }
      let _ ← perform (.text { exit := !readsInput } text)
      if readsInput then runInput perform
  | false, [] => runInput perform
  | false, words =>
      if readsInput then
        modifyState fun s => { s with parameters := words }
        runInput perform
      else
        let text ← openScript (words.headD "")
        modifyState fun s => { s with name := words.headD "", parameters := words.drop 1 }
        let _ ← runScript perform text
  throw .exited

/-- What a process does that runs a shell. -/
def shellThread (call : Call) (environment : List (String × String)) : Thread :=
  let act : Kernel.Act Empty State Termination := do
    let pid ← Op.pid
    let ignored := (← Op.self).ignored
    Act.modifyOwn fun s => { s with rootPid := pid, protectedSignals := ignored }
    concluding perform do
      importVariables
      runArguments perform call.arguments
  act { environment := environment, own := { name := call.name } }
    (fun how _ => .ended how) fun e _ => nomatch e

end

end CompilerDriver.Shell
