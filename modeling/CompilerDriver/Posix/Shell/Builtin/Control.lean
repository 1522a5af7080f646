import CompilerDriver.Posix.Shell.Builtin.Options
import CompilerDriver.Posix.Shell.Execution
import CompilerDriver.Posix.Shell.Script

/-!
# Control

The utilities that evaluate commands or leave them: `.`, `exec`, `exit`, `return`, `break` and
`continue`.
-/

namespace CompilerDriver.Shell

open Kernel

section

variable (perform : Perform)

namespace Builtin

def source : Builtin := fun arguments => do
  match (← parse "" "" arguments).operands with
  | [] => return 0
  | name :: _ =>
      let path ←
        if name.toList.contains '/' then pure name
        else
          let isFile (path : String) : Act Bool := return (← Op.status? path).any Status.isFile
          match ← (Program.candidates (← searchPath) name).findM? isFile with
          | some path => pure path
          | none => fail (name ++ ": not found")
      let text ← openScript path
      modifyState fun s => { s with utility := some path }
      runScript perform text

def replace : Builtin := fun arguments => do
  match arguments with
  | [] => return 0
  | words => replaceBy perform (← searchPath) words

def exit : Builtin := fun arguments => do
  if let some a := arguments.head? then
    let n ← number a
    modifyState fun s => { s with exitStatus := some n }
  throw .exited

def returnFrom : Builtin := fun arguments => do
  let status ←
    match arguments with
    | a :: _ => number a
    | [] => pure (← state).status
  modifyState fun s => { s with skip := .return }
  return status

def jump (skip : Skip) : Builtin := fun arguments => do
  let n ←
    match arguments with
    | a :: _ => do
        let n ← number a
        if n = 0 then fail ("Illegal number: " ++ a)
        pure n
    | [] => pure 1
  let n := min n (← state).loopDepth
  if n > 0 then modifyState fun s => { s with skip := skip, skipCount := n }
  return 0

end Builtin

end

end CompilerDriver.Shell
