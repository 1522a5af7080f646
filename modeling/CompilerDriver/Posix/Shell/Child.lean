import CompilerDriver.Posix.Shell.Expansion
import CompilerDriver.Posix.Shell.Redirect
import CompilerDriver.Posix.Shell.Task

/-!
# Children of a shell

A child starts with a copy of the shell.  The children that are started together are a job, for
which the shell waits or which it leaves in the background; what a command prints can be gathered.
-/

namespace CompilerDriver.Shell

open Kernel

section

variable (perform : Perform)

/-- Starts a child with a copy of the shell, in which no actions are left and no jobs. -/
def forkShell (act : Act Unit) : Act Nat :=
  Act.fork (do
    Act.modifyLocal fun l => { l with
      buffer := []
      buffered := 0
      own := { l.own with
        traps := l.own.traps.filter fun t => t.2 == ""
        pendingTraps := []
        jobs := [] } }
    Op.modifySelf fun p => { p with caught := [], arrived := [] }
    concluding perform act)

end

/-! ## Jobs -/

/-- The least number that no job has which is still of use. -/
def freeNumber (jobs : List Job) : Nat → Nat → Nat
  | 0, candidate => candidate
  | n + 1, candidate =>
      let inUse := jobs.any fun j => j.number == candidate && !(j.isDone && j.isKnown)
      if inUse then freeNumber jobs n (candidate + 1) else candidate

/-- Adds a job without members; gives its number. -/
def makeJob : Act Nat := do
  let jobs := (← state).jobs
  let number := freeNumber jobs jobs.length 1
  modifyState fun s => { s with
    jobs := { number := number } :: s.jobs.filter fun j => j.number != number }
  return number

def job? (number : Nat) : Act (Option Job) :=
  return (← state).jobs.find? fun j => j.number == number

def modifyJob (number : Nat) (f : Job → Job) : Act Unit :=
  modifyState fun s => { s with
    jobs := s.jobs.map fun j => if j.number = number then f j else j }

def forgetJob (number : Nat) : Act Unit :=
  modifyState fun s => { s with jobs := s.jobs.filter fun j => j.number != number }

def addMember (number pid : Nat) : Act Unit :=
  modifyJob number fun j => { j with members := j.members ++ [(pid, none)] }

def printNotice (ending : Termination) : Act Unit := do
  if let some notice := ending.notice? then Act.printError (notice ++ "\n")

/-- Takes note of how a child has ended.  The one who waits for its job is told. -/
def noteEnding (awaited : Option Nat) (pid : Nat) (ending : Termination) : Act Unit := do
  match (← state).jobs.find? fun j => !j.isDone && j.has pid with
  | none => return
  | some job =>
      modifyJob job.number fun j => j.noteEnding pid ending
      if awaited = some job.number then printNotice ending

/-- Takes note of all children that have ended. -/
def noteEndings (awaited : Option Nat) : Act Unit :=
  Act.forever do
    match ← Op.tryReap fun _ => true with
    | .ok (some (pid, ending)) =>
        noteEnding awaited pid ending
        return none
    | _ => return some ()

/-- Waits until a job is done; gives its status. -/
def waitForJob (number : Nat) : Act Nat := do
  Act.forever do
    match ← job? number with
    | none => return some ()
    | some job =>
        if job.isDone then return some ()
        match ← Act.waitFor fun _ => true with
        | .ok (pid, ending) =>
            noteEnding (some number) pid ending
            return none
        | .error .interrupted =>
            noteSignals
            return none
        | .error _ => return some ()
  noteEndings (some number)
  let ending := (← job? number).bind Job.ending?
  forgetJob number
  return (ending.map Termination.status).getD 0

section

variable (perform : Perform)

/-- Runs something in a child and waits for it. -/
def inChild (act : Act Unit) : Act Nat := do
  let job ← makeJob
  addMember job (← forkShell perform act)
  waitForJob job

/-- Starts a child in the background, as one more of a job.  The first one has no input. -/
def forkBackground (job : Nat) (act : Act Unit) : Act Nat := do
  let isFirst := ((← job? job).map Job.members).getD [] |>.isEmpty
  let pid ← forkShell perform do
    Op.setDisposition Signal.interrupt .ignore
    Op.setDisposition Signal.quit .ignore
    if isFirst then
      Op.close 0
      if let .ok null ← Act.openPath "/dev/null" { readable := true } then Op.move null 0
    act
  addMember job pid
  modifyState fun s => { s with lastBackground := some pid }
  return pid

/-! ## Output of commands -/

/-- What a command prints in a child. -/
def capture : Capture := fun body => do
  let (readEnd, writeEnd) ← Op.newPipe
  let job ← makeJob
  let pid ← forkShell perform do
    Op.close readEnd
    Op.move writeEnd 1
    let _ ← perform (.evaluate { exit := true } body)
  addMember job pid
  Op.close writeEnd
  let text ← Act.forever do
    match ← Act.readAll readEnd with
    | .ok text => return some text
    | .error .interrupted => return none
    | .error _ => return some ""
  Op.close readEnd
  let status ← waitForJob job
  modifyState fun s => { s with substitutionStatus := status }
  return text

end

end CompilerDriver.Shell
