import CompilerDriver.Posix.Kernel.Processes

/-!
# Threads

A thread is what a process has still to do: a step at a time, of which each one may have to be
tried again later, and a child now and then.  An action is a part of a thread with a state of its
own; it goes on with a result or with a reason for not going on.
-/

namespace CompilerDriver.Kernel

inductive Thread where
  | ended (how : Termination)
  /-- Gives what comes next, or nothing if the process has to wait. -/
  | step (attempt : World → World × Option Thread)
  /-- Goes on with the identity of a new process. -/
  | fork (child : Thread) (next : Nat → Thread)

instance : Inhabited Thread := ⟨.ended (.exit 0)⟩

/-- What belongs to one process alone. -/
structure Local (σ : Type) where
  environment : List (String × String) := []
  /-- What has been printed and not been written yet, last first, and its size. -/
  buffer : List String := []
  buffered : Nat := 0
  /-- Why something that had been printed could not be written. -/
  outputError : Option SystemError := none
  own : σ

def Act (ε σ α : Type) : Type :=
  Local σ → (α → Local σ → Thread) → (ε → Local σ → Thread) → Thread

namespace Act

variable {ε σ α β : Type}

@[inline] protected def pure (a : α) : Act ε σ α := fun s go _ => go a s

@[inline] protected def bind (x : Act ε σ α) (f : α → Act ε σ β) : Act ε σ β :=
  fun s go stop => x s (fun a s => f a s go stop) stop

instance : Monad (Act ε σ) where
  pure := Act.pure
  bind := Act.bind

@[inline] protected def throw (e : ε) : Act ε σ α := fun s _ stop => stop e s

@[inline] protected def tryCatch (x : Act ε σ α) (f : ε → Act ε σ α) : Act ε σ α :=
  fun s go stop => x s go fun e s => f e s go stop

instance : MonadExceptOf ε (Act ε σ) where
  throw := Act.throw
  tryCatch := Act.tryCatch

/-- Does something; gives its result, or the reason for which it did not go on. -/
@[inline] def attempt (x : Act ε σ α) : Act β σ (Except ε α) :=
  fun s go _ => x s (fun a s => go (.ok a) s) fun e s => go (.error e) s

instance : Inhabited (Act ε σ α) := ⟨fun _ _ _ => .ended (.exit 0)⟩

/-! ## Steps -/

/-- How long a call takes, in microseconds. -/
def callTime : Nat := 1

/-- Does something in one step. -/
@[inline] def call (op : Op α) : Act ε σ α := fun s go _ =>
  .step fun w =>
    let (a, w) := op w
    (w.spend callTime, some (go a s))

instance : MonadLift Op (Act ε σ) := ⟨call⟩

/-- Does something as soon as it gives a result. -/
@[inline] def await (op : Op (Option α)) : Act ε σ α := fun s go _ =>
  .step fun w =>
    match op w with
    | (some a, w) => (w.spend callTime, some (go a s))
    | (none, w) => (w, none)

/-- Ends the process. -/
def conclude (how : Termination) : Act ε σ α := fun _ _ _ => .ended how

/-- Goes on with a thread in place of this one. -/
def become (thread : Thread) : Act ε σ α := fun _ _ _ => thread

/-- The time that a command takes. -/
def commandTime : Nat := 2

def tick : Act ε σ Unit := call (modify fun w => w.spend commandTime)

/-- Starts a child that does something of its own; gives its identity. -/
def fork (body : Act Empty σ Termination) : Act ε σ Nat := fun s go _ =>
  .fork (body s (fun how _ => .ended how) (fun e _ => nomatch e)) fun pid => go pid s

/-! ## The state of the process -/

@[inline] def localState : Act ε σ (Local σ) := fun s go _ => go s s

@[inline] def modifyLocal (f : Local σ → Local σ) : Act ε σ Unit := fun s go _ => go () (f s)

@[inline] def own : Act ε σ σ := fun s go _ => go s.own s

@[inline] def modifyOwn (f : σ → σ) : Act ε σ Unit :=
  fun s go _ => go () { s with own := f s.own }

def environment : Act ε σ (List (String × String)) := return (← localState).environment

def setting? (name : String) : Act ε σ (Option String) := return (← environment).lookup name

/-! ## Repetition -/

/-- Repeats an action until it gives a result. -/
def repeatUpTo [Inhabited α] : Nat → Act ε σ (Option α) → Act ε σ α
  | 0, _ => conclude (.exit 0)
  | n + 1, act => do
      match ← act with
      | some a => return a
      | none =>
          tick
          repeatUpTo n act

/-- More turns than any process takes. -/
def maxTurns : Nat := 1 <<< 40

def forever [Inhabited α] (act : Act ε σ (Option α)) : Act ε σ α := repeatUpTo maxTurns act

end Act

end CompilerDriver.Kernel
