import CompilerDriver.Posix.Kernel.Thread

/-!
# Schedules

Of the processes that can go on, the one whose time is earliest takes the next step.  One that
waits is looked at again when something has happened, or at the time for which it has asked.
-/

namespace CompilerDriver.Kernel

/-- A process and what it has to do. -/
structure Task where
  pid : Nat
  thread : Thread
  waits : Bool := false
  /-- When a process that waits is looked at again. -/
  due : Option Nat := none
  deriving Inhabited

namespace Task

/-- When a process can go on, if it can. -/
def readyTime? (w : World) (t : Task) : Option Nat :=
  let p := w.process t.pid
  if p.stopped then none
  else if !t.waits then some p.clock
  else
    let later (a b : Option Nat) : Option Nat :=
      match a, b with
      | some a, some b => some (min a b)
      | some a, none => some a
      | none, b => b
    (later t.due p.wake).map (max p.clock)

/-- Something has happened, so that a process that waits is to be looked at again. -/
def noticed (now : Nat) (t : Task) : Task :=
  if t.waits ∧ t.due.isNone then { t with due := some (now + World.wakeTime) } else t

end Task

/-- The place of the process that goes on first, and the time at which it does. -/
def earliest (w : World) : List Task → Nat → Option (Nat × Nat) → Option (Nat × Nat)
  | [], _, best => best
  | t :: rest, place, best =>
      let best :=
        match t.readyTime? w, best with
        | some time, some (k, least) => if time < least then some (place, time) else some (k, least)
        | some time, none => some (place, time)
        | none, best => best
      earliest w rest (place + 1) best

/-- Nobody will write any more of what is gathered. -/
def World.isFinished (w : World) : Bool :=
  (w.process firstPid).ending.isSome && (w.files.getD 1 default).holders == 0 &&
    (w.files.getD 2 default).holders == 0

/-- Runs processes until the first one has ended and nobody holds its outputs any more, or until
all wait for each other, or for so many steps. -/
def run : Nat → World → List Task → World
  | 0, w, _ => w
  | n + 1, w, tasks =>
      if w.isFinished then w
      else
        match earliest w tasks 0 none with
        | none => w
        | some (place, time) =>
            let task := tasks.getD place default
            let pid := task.pid
            let others := tasks.eraseIdx place
            let w := { w with now := max w.now time, current := pid }
            let w := w.modifyProcess pid fun p => { p with clock := max p.clock time }
            let before := w.version
            let (w, tasks) : World × List Task :=
              match task.thread with
              | .ended how => (w.conclude pid how, others)
              | .fork child next =>
                  let (new, w) := w.fork
                  (w, others ++ [⟨pid, next new, false, none⟩, ⟨new, child, false, none⟩])
              | .step attempt =>
                  match attempt w with
                  | (w, some thread) => (w, others ++ [⟨pid, thread, false, none⟩])
                  | (w, none) => (w, others ++ [⟨pid, .step attempt, true, none⟩])
            if w.version = before then run n w tasks
            else
              let now := w.now
              let alive := tasks.filter fun t => (w.process t.pid).ending.isNone
              run n w (alive.map (Task.noticed now))

end CompilerDriver.Kernel
