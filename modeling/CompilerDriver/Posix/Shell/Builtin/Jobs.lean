import CompilerDriver.Posix.Shell.Builtin.Options
import CompilerDriver.Posix.Shell.Child

/-!
# Jobs

`jobs`, `fg`, `bg` and `wait`.  The latest job is the current one.
-/

namespace CompilerDriver.Shell.Builtin

open Kernel

/-- The job that a text names, which starts with a percent sign. -/
def findJob (name : String) : Act Job := do
  let jobs := (← state).jobs
  let found (job : Option Job) (otherwise : String) : Act Job :=
    match job with
    | some job => return job
    | none => fail otherwise
  match name.toList with
  | ['%'] | ['%', '%'] | ['%', '+'] => found jobs.head? "No current job"
  | ['%', '-'] => found jobs[1]? "No previous job"
  | '%' :: rest =>
      let number := if rest.all Char.isDigit then (String.ofList rest).toNat? else none
      found (number.bind fun n => jobs.find? fun j => j.number == n) ("No such job: " ++ name)
  | _ => fail ("No such job: " ++ name)

/-- Which column of a listing holds the command. -/
def commandColumn : Nat := 33

def blanks (count : Nat) : String := String.ofList (List.replicate count ' ')

def endingText : Option Termination → String
  | none => "Running"
  | some (.exit 0) => "Done"
  | some (.exit status) => "Done(" ++ toString status ++ ")"
  | some (.signal n) => Signal.notice n

/-- Shows a job, which is forgotten if it is done. -/
def showJob (withPids onlyPid : Bool) (job : Job) : Act Unit := do
  if onlyPid then
    Act.printLine (toString ((job.members.head?.map (·.1)).getD 0))
    return
  let jobs := (← state).jobs
  let isAt (place : Nat) : Bool := (jobs[place]?).any fun j => j.number == job.number
  let sign := if isAt 0 then "+" else if isAt 1 then "-" else " "
  let label := "[" ++ toString job.number ++ "] " ++ sign ++ " "
  let pidText (pid : Nat) : String := if withPids then toString pid ++ " " else ""
  let line := label ++ pidText ((job.members.head?.map (·.1)).getD 0) ++
    endingText (if job.isDone then job.ending? else none)
  Act.print (line ++ blanks (max 1 (commandColumn - line.length)))
  let others := job.members.drop 1
  if withPids then
    for (pid, _) in others do
      let line := " |\n" ++ blanks (max 1 label.length) ++ toString pid ++ " "
      Act.print (line ++ blanks (max 1 (commandColumn - (line.length - 3))))
  else Act.print (String.join (others.map fun _ => " | "))
  Act.print "\n"
  if job.isDone then forgetJob job.number

def jobs : Builtin := fun arguments => do
  let parsed ← parse "lp" "" arguments
  let last := (parsed.options.getLast?).map (·.1)
  let showOne := showJob (last == some 'l') (last == some 'p')
  match parsed.operands with
  | [] =>
      noteEndings none
      (← state).jobs.forM showOne
  | operands =>
      for operand in operands do
        showOne (← findJob operand)
  return 0

/-- Control over jobs is never given. -/
def continueJob : Builtin := fun arguments => do
  match (← parse "" "" arguments).operands with
  | [] =>
      let _ ← findJob "%%"
      fail "job (null) not created under job control"
  | operand :: _ =>
      let _ ← findJob operand
      fail ("job " ++ operand ++ " not created under job control")

/-! ## Waiting -/

/-- Waits until something has happened to a child; gives a signal that came first. -/
def waitForChange (awaited : Option Nat) : Act (Option Signal) := do
  let result ← Act.forever do
    match ← Op.tryReap fun _ => true with
    | .error _ => return some none
    | .ok (some (pid, ending)) =>
        noteEnding awaited pid ending
        return some none
    | .ok none =>
        noteSignals
        if let some n := (← state).pendingTraps.getLast? then return some (some n)
        match ← Act.waitFor fun _ => true with
        | .ok (pid, ending) =>
            noteEnding awaited pid ending
            return some none
        | .error .interrupted => return none
        | .error _ => return some none
  if result.isNone then noteEndings awaited
  return result

/-- Waits as long as there is a job that has not been done; gives a signal that came first. -/
def waitWhile (awaited : Option Nat) (isOpen : List Job → Bool) : Act (Option Signal) :=
  Act.forever do
    if !isOpen (← state).jobs then return some none
    match ← waitForChange awaited with
    | some n => return some (some n)
    | none => return none

def markKnown (p : Job → Bool) : Act Unit :=
  modifyState fun s => { s with
    jobs := s.jobs.map fun j => if p j then { j with isKnown := true } else j }

/-- Waits for one job; gives its status. -/
def waitForOne (job : Job) : Act (Nat × Bool) := do
  let isOpen (jobs : List Job) : Bool := jobs.any fun j => j.number == job.number && !j.isDone
  match ← waitWhile (some job.number) isOpen with
  | some n => return (128 + n, false)
  | none =>
      markKnown fun j => j.number == job.number
      let ending := (← job? job.number).bind Job.ending?
      return ((ending.map Termination.status).getD 127, true)

/-- Waits for the jobs that some operands name, until a signal comes. -/
def waitForAll : List String → Nat → Act Nat
  | [], status => return status
  | operand :: rest, status => do
      let job ←
        if operand.startsWith "%" then some <$> findJob operand
        else do
          let pid ← number operand
          pure ((← state).jobs.find? fun j => j.lastPid == pid)
      match job with
      | none => waitForAll rest status
      | some job =>
          let (status, goesOn) ← waitForOne job
          if goesOn then waitForAll rest status else return status

def wait : Builtin := fun arguments => do
  match (← parse "" "" arguments).operands with
  | [] =>
      let found ← waitWhile none fun jobs => jobs.any fun j => !j.isDone
      match found with
      | some n => return 128 + n
      | none =>
          markKnown Job.isDone
          return 0
  | operands => waitForAll operands 127

end CompilerDriver.Shell.Builtin
