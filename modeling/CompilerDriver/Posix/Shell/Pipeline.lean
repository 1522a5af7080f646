import CompilerDriver.Posix.Shell.Execution

/-!
# Pipelines

The stages of a pipeline run at the same time in children of the shell.  What one prints is the
input of the next.
-/

namespace CompilerDriver.Shell

open Kernel

section

variable (perform : Perform)

/-- Looks a stage that runs a program up before it starts. -/
def lookAhead (stage : Command) : Act Unit := do
  match stage with
  | .simple _ _ (word :: _) _ =>
      match Word.plain? word with
      | none => return
      | some name =>
          let s ← state
          let isKnown := isUtility name || (s.functions.lookup name).isSome
          if !isName name ∨ isKnown then return
          if let .ok place ← findProgram (← searchPath) name then
            modifyState fun s => { s with found := State.updated name place s.found }
  | _ => return

/-- Starts the stages of a pipeline one after another.  `input` is the end of the pipe before. -/
def startStages (start : Act Unit → Act Unit) (flags : Flags) :
    List Command → Option Nat → Act Unit
  | [], _ => return
  | stage :: rest, input => do
      lookAhead stage
      let next? ← if rest.isEmpty then pure none else some <$> Op.newPipe
      start do
        if let some (readEnd, _) := next? then Op.close readEnd
        if let some descriptor := input then
          if 0 < descriptor then Op.move descriptor 0
        if let some (_, writeEnd) := next? then
          if 1 < writeEnd then Op.move writeEnd 1
        let _ ← perform (.evaluate { flags with exit := true } stage)
      if let some descriptor := input then Op.close descriptor
      if let some (_, writeEnd) := next? then Op.close writeEnd
      startStages start flags rest (next?.map (·.1))

def evaluatePipeline (flags : Flags) (stages : List Command) (inBackground : Bool) : Act Nat := do
  let job ← makeJob
  if inBackground then
    startStages perform (fun act => do let _ ← forkBackground perform job act) flags stages none
    return 0
  else
    startStages perform (fun act => do addMember job (← forkShell perform act)) flags stages none
    waitForJob job

/-- Runs a command in the background. -/
def evaluateBackground (flags : Flags) (body : Command) (redirects : List Redirect) :
    Act Unit := do
  let job ← makeJob
  let _ ← forkBackground perform job do
    let (_, ok) ← redirect redirects
    if !ok then throw .failed
    let _ ← perform (.evaluate { flags with exit := true, tested := false } body)

end

end CompilerDriver.Shell
