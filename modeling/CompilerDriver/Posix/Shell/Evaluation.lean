import CompilerDriver.Posix.Shell.Pipeline
import CompilerDriver.Posix.Shell.Simple

/-!
# Evaluation

Commands are evaluated for their status.  Jumps leave loops and functions; with the right option, a
status that nothing tests ends the shell.
-/

namespace CompilerDriver.Shell

open Kernel

section

variable (perform : Perform)

/-- What is left of a jump at the end of a turn of a loop. -/
def skipLoop : Act Skip := do
  let s ← state
  match s.skip with
  | .break | .continue =>
      if s.skipCount ≤ 1 then
        modifyState fun s => { s with skip := .none, skipCount := 0 }
        return s.skip
      else
        modifyState fun s => { s with skipCount := s.skipCount - 1 }
        return .break
  | skip => return skip

def inLoop (act : Act Nat) : Act Nat := do
  modifyState fun s => { s with loopDepth := s.loopDepth + 1 }
  let status ← act
  modifyState fun s => { s with loopDepth := s.loopDepth - 1 }
  return status

/-- One turn of a loop, with the status so far; gives the status at its end. -/
def loopTurn (flags : Flags) (untilTrue : Bool) (test body : Command) (status : Nat) :
    Act (Nat × Bool) := do
  let tested ← perform (.evaluate { tested := true } test)
  match ← skipLoop with
  | .continue => return (status, true)
  | .break => return (status, false)
  | .return => return (tested, false)
  | .none =>
      if (tested == 0) == untilTrue then return (status, false)
      let status ← perform (.evaluate { tested := flags.tested } body)
      let skip ← skipLoop
      return (status, skip == .none || skip == .continue)

def runLoop (flags : Flags) (untilTrue : Bool) (test body : Command) : Nat → Nat → Act Nat
  | 0, status => return status
  | n + 1, status => do
      Act.tick
      let (status, goesOn) ← loopTurn perform flags untilTrue test body status
      if goesOn then runLoop flags untilTrue test body n status else return status

def runEach (flags : Flags) (name : String) (body : Command) : List String → Nat → Act Nat
  | [], status => return status
  | value :: rest, _ => do
      assign name value
      let status ← perform (.evaluate { tested := flags.tested } body)
      match ← skipLoop with
      | .none | .continue => runEach flags name body rest status
      | _ => return status

/-- Whether a text matches one of some patterns, which are expanded one after another. -/
def matchesAny (subject : String) : List Word → Act Bool
  | [] => return false
  | word :: rest => do
      let pattern ← expandPattern (capture perform) word
      if Pattern.accepts pattern subject.toList then return true
      matchesAny subject rest

def chooseBranch (flags : Flags) (subject : String) :
    List (List Word × Option Command) → Act Nat
  | [] => return 0
  | (patterns, body) :: rest => do
      if ← matchesAny perform subject patterns then
        match body with
        | some c => perform (.evaluate flags c)
        | none => return 0
      else chooseBranch flags subject rest

/-- The commands of a sequence. -/
def commandsOf : Command → List Command → List Command
  | .sequence first second, after => commandsOf first (second :: after)
  | c, after => c :: after

def runSequence (flags : Flags) : List Command → Act Nat
  | [] => return (← state).status
  | [last] => perform (.evaluate flags last)
  | c :: rest => do
      let status ← perform (.evaluate { tested := flags.tested } c)
      if (← state).skip ≠ .none then return status
      runSequence flags rest

/-- Evaluates a command up to the point where its status may end the shell.  Tells whether it is
one that may. -/
def evaluateBody (flags : Flags) (c : Command) : Act (Nat × Bool) := do
  let inner : Flags := { tested := flags.tested }
  match c with
  | .simple line assignments words redirections =>
      return (← evaluateSimple perform flags line assignments words redirections, true)
  | .negation body =>
      let status ← perform (.evaluate { tested := true } body)
      return (if status = 0 then 1 else 0, false)
  | .redirected line body redirections =>
      modifyState fun s => { s with line := line }
      let redirects ← redirections.mapM (Redirection.expand (capture perform))
      let (saved, ok) ← redirect redirects
      if !ok then
        restore saved
        return (errorStatus, true)
      let status ← afterwards (perform (.evaluate inner body)) (restore saved)
      return (status, false)
  | .subshell line body redirections =>
      modifyState fun s => { s with line := line }
      let redirects ← redirections.mapM (Redirection.expand (capture perform))
      let run : Act Unit := do
        let (_, ok) ← redirect redirects
        if !ok then throw .failed
        let _ ← perform (.evaluate { flags with exit := true } body)
      if flags.exit ∧ !(← state).hasTraps then
        run
        return (0, false)
      return (← inChild perform run, true)
  | .background line body redirections =>
      modifyState fun s => { s with line := if line = 0 then s.line else line }
      let redirects ← redirections.mapM (Redirection.expand (capture perform))
      evaluateBackground perform flags body redirects
      return (0, true)
  | .pipeline stages inBackground =>
      return (← evaluatePipeline perform flags stages inBackground, true)
  | .conjunction first second =>
      let status ← perform (.evaluate { tested := true } first)
      if status ≠ 0 ∨ (← state).skip ≠ .none then return (status, false)
      return (← perform (.evaluate flags second), false)
  | .disjunction first second =>
      let status ← perform (.evaluate { tested := true } first)
      if status = 0 ∨ (← state).skip ≠ .none then return (status, false)
      return (← perform (.evaluate flags second), false)
  | .sequence _ _ => return (← runSequence perform flags (commandsOf c []), false)
  | .conditional test yes no =>
      let status ← perform (.evaluate { tested := true } test)
      if (← state).skip ≠ .none then return (status, false)
      if status = 0 then return (← perform (.evaluate flags yes), false)
      match no with
      | some c => return (← perform (.evaluate flags c), false)
      | none => return (0, false)
  | .loop untilTrue test body =>
      let run := runLoop perform flags untilTrue test body Act.maxTurns 0
      return (← inLoop run, false)
  | .forEach line name words body =>
      modifyState fun s => { s with line := line }
      let fields ← words.mapM (expandFields (capture perform))
      return (← inLoop (runEach perform flags name body fields.flatten 0), false)
  | .choice line subject branches =>
      modifyState fun s => { s with line := line }
      let text ← expandText (capture perform) subject
      return (← chooseBranch perform flags text branches, false)
  | .function _ name body =>
      modifyState fun s => { s with functions := State.updated name body s.functions }
      return (0, false)

def evaluate (flags : Flags) (c : Command) : Act Nat := do
  Act.tick
  let status ←
    if (← state).hasOption 'n' then pure (← state).status
    else do
      runTraps perform
      let (status, mayEnd) ← evaluateBody perform flags c
      setStatus status
      runTraps perform
      if status ≠ 0 ∧ mayEnd ∧ !flags.tested ∧ (← state).hasOption 'e' then throw .finished
      pure (← state).status
  if flags.exit then throw .finished
  return status

end

end CompilerDriver.Shell
