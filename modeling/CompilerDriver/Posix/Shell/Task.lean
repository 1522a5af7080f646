import CompilerDriver.Posix.Shell.Variables

/-!
# What a shell has to do

Whatever leads back to evaluation — commands in commands, scripts and programs — goes through one
parameter, which is tied to the whole elsewhere.  Here it runs the actions of signals, and the one
at the end of a shell.
-/

namespace CompilerDriver.Shell

open Kernel

structure Flags where
  /-- Nothing comes after the command in its process. -/
  exit : Bool := false
  /-- The status is tested, so that no option makes it end the shell. -/
  tested : Bool := false
  deriving Inhabited

inductive Task where
  | evaluate (flags : Flags) (c : Command)
  /-- The commands in a text, with the flags for the last one. -/
  | text (flags : Flags) (s : String)
  /-- The program in an image, in place of the running one. -/
  | program (name : String) (call : Call) (environment : List (String × String))

abbrev Perform := Task → Act Nat

/-- Does something even if an action stops. -/
def afterwards {α : Type} (act : Act α) (last : Act Unit) : Act α := do
  let a ← tryCatch act fun stop => do
    last
    throw stop
  last
  return a

/-- Takes note of the signals that have come. -/
def noteSignals : Act Unit := do
  let arrived ← Op.takeArrived
  if !arrived.isEmpty then
    modifyState fun s => { s with pendingTraps := s.pendingTraps ++ arrived }

section

variable (perform : Perform)

/-- Runs the actions of signals, lower ones first, unless a jump is under way. -/
def runActions : List Signal → Nat → Act Unit
  | [], _ => return
  | n :: rest, status => do
      if (← state).skip ≠ .none then
        modifyState fun s => { s with pendingTraps := n :: rest ++ s.pendingTraps }
      else
        match (← state).traps.lookup n with
        | some action =>
            let _ ← perform (.text {} action)
            if (← state).skip ≠ .return then setStatus status
        | none => pure ()
        runActions rest status

/-- Runs the actions of the signals that have come. -/
def runTraps : Act Unit := do
  noteSignals
  let s ← state
  if s.pendingTraps.isEmpty then return
  let status := s.exitStatus.getD s.status
  modifyState fun s => { s with pendingTraps := [], exitStatus := some status }
  runActions perform (s.pendingTraps.eraseDups.mergeSort fun a b => decide (a ≤ b)) status
  modifyState fun t => { t with exitStatus := s.exitStatus }

/-- Takes over the status with which the shell has been told to exit. -/
def settleStatus {ε : Type} (isExit : Bool) : Kernel.Act ε State Unit :=
  Act.modifyOwn fun s => { s with
    status := if isExit then s.exitStatus.getD s.status else s.status
    exitStatus := none
    skip := .none
    loopDepth := 0 }

/-- The end of a shell, with the action that has been asked for. -/
def exitShell {ε : Type} (stop : Stop) : Kernel.Act ε State Termination := do
  settleStatus (stop == .exited)
  Act.modifyOwn fun s => { s with exitStatus := some s.status }
  match (← Act.own).traps.lookup 0 with
  | none => settleStatus true
  | some action =>
      Act.modifyOwn fun s => { s with traps := s.traps.filter fun t => t.1 != 0 }
      match ← Act.attempt (perform (.text {} action)) with
      | .ok _ => settleStatus true
      | .error stop => settleStatus (stop == .exited)
  let _ ← Act.flush
  return .exit ((← Act.own).status % 256)

/-- Runs something as all that a process does. -/
def concluding {ε : Type} (act : Act Unit) : Kernel.Act ε State Termination := do
  match ← Act.attempt act with
  | .ok () => exitShell perform .finished
  | .error stop => exitShell perform stop

end

end CompilerDriver.Shell
