import CompilerDriver.Posix.Kernel.Streams

/-!
# Calls on processes

Children, signals and time.
-/

namespace CompilerDriver.Kernel

namespace World

/-- How long it takes until a new process runs, and how long its parent is busy with it, in
microseconds. -/
def birthTime : Nat := 150
def forkTime : Nat := 60

/-- How long it takes to start a program. -/
def execTime : Nat := 700

/-- How long it takes until a process that has waited goes on. -/
def wakeTime : Nat := 40

/-- The running process gets a child, which has what it has. -/
def fork (w : World) : Nat × World :=
  let p := w.process w.current
  let pid := firstPid + w.processes.size
  let child : Process := { p with
    parent := w.current, children := [], arrived := [], wake := none
    clock := p.clock + birthTime }
  let w := p.descriptors.foldl (fun w d => w.retain d.2.file) w
  let w := { w with processes := w.processes.push child }
  let w := w.modifyProcess w.current fun p =>
    { p with children := pid :: p.children, clock := p.clock + forkTime }
  (pid, w)

end World

namespace Op

/-! ## Children -/

/-- Takes the ending of a child, if there is one among those that are asked for. -/
def tryReap (asked : Nat → Bool) : Op (Except SystemError (Option (Nat × Termination))) := do
  let children := (← self).children.filter asked
  if children.isEmpty then return .error .noChildren
  let w ← get
  match children.reverse.findSome? fun c => (w.process c).ending.map fun e => (c, e) with
  | none => return .ok none
  | some (child, ending) =>
      modifySelf fun p => { p with children := p.children.filter (· != child) }
      return .ok (some (child, ending))

/-- As `tryReap`, but gives nothing while no child has ended. -/
def tryWait (asked : Nat → Bool) : Op (Option (Except SystemError (Nat × Termination))) := do
  match ← tryReap asked with
  | .error e => return some (.error e)
  | .ok (some found) => return some (.ok found)
  | .ok none => return if ← isInterrupted then some (.error .interrupted) else none

/-! ## Signals -/

/-- Sends a signal to one process. -/
def signalOne (pid : Nat) (n : Signal) : Op Unit := modify fun w => w.signal pid n

/-- Sends a signal to a process or, by a number that is not positive, to a group. -/
def kill (target : Int) (n : Signal) : Op (Except SystemError Unit) := do
  let w ← get
  if 0 < target then
    let pid := target.toNat
    if !w.isKnown pid then return .error .noProcess
    let p := w.process pid
    if p.ending.isSome ∧ !(w.process p.parent).children.contains pid then
      return .error .noProcess
    signalOne pid n
    return .ok ()
  else
    let own := (← self).group
    let group := if target = 0 then own else target.natAbs
    let members := (List.range w.processes.size).filterMap fun i =>
      let p := w.process (firstPid + i)
      if p.ending.isNone && (target == -1 || p.group == group) then some (firstPid + i) else none
    if members.isEmpty then return .error .noProcess
    for pid in members do
      signalOne pid n
    return .ok ()

/-- How a process treats a signal. -/
inductive Disposition where
  | default
  | ignore
  | catch
  deriving DecidableEq, Repr

def setDisposition (n : Signal) (d : Disposition) : Op Unit :=
  modifySelf fun p => { p with
    ignored := if d = .ignore then n :: p.ignored.filter (· != n) else p.ignored.filter (· != n)
    caught := if d = .catch then n :: p.caught.filter (· != n) else p.caught.filter (· != n) }

def isIgnored (n : Signal) : Op Bool := return (← self).ignored.contains n

/-- The caught signals that have come since the last time. -/
def takeArrived : Op (List Signal) := do
  let arrived := (← self).arrived
  if !arrived.isEmpty then modifySelf fun p => { p with arrived := [] }
  return arrived

def setGroup (pid group : Nat) : Op Unit :=
  modify fun w => w.modifyProcess pid fun p => { p with group := group }

/-! ## Programs and time -/

/-- What becomes of a process when it starts a program. -/
def enterProgram : Op Unit := do
  let p ← self
  for (descriptor, d) in p.descriptors do
    if d.closesOnExec then close descriptor
  modifySelf fun p => { p with caught := [], arrived := [] }
  modify fun w => w.spend World.execTime

/-- The time in nanoseconds since the epoch. -/
def now : Op Instant := return (← get).instant

/-- The time has come, unless a signal comes first. -/
def trySleepUntil (time : Nat) : Op (Option (Except SystemError Unit)) := do
  if time ≤ (← get).now then
    modifySelf fun p => { p with wake := none }
    return some (.ok ())
  else if ← isInterrupted then
    modifySelf fun p => { p with wake := none }
    return some (.error .interrupted)
  else
    modifySelf fun p => { p with wake := some time }
    return none

end Op

end CompilerDriver.Kernel
