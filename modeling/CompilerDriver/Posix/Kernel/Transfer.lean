import CompilerDriver.Posix.Kernel.Thread
import CompilerDriver.Posix.Text.Octets

/-!
# Input and output

Whole reads and writes, which wait as long as they have to.  What is printed is kept back until
there is a block of it, or until it is asked for.
-/

namespace CompilerDriver.Kernel.Act

variable {ε σ α : Type}

/-! ## Opening -/

/-- Somebody has opened the other end of a pipe. -/
def tryMeet (pipe : Nat) (reads : Bool) (seen : Nat) : Op (Option Bool) := do
  let p := (← get).pipes.getD pipe default
  let count := if reads then p.writerMeetings else p.readerMeetings
  if count ≠ seen then return some true
  else return if ← Op.isInterrupted then some false else none

/-- Opens a file; gives the descriptor. -/
def openPath (path : String) (access : Access) : Act ε σ (Except SystemError Nat) := do
  match ← Op.startOpen path access with
  | .error e => return .error e
  | .ok (.done descriptor) => return .ok descriptor
  | .ok (.meeting descriptor pipe reads seen) =>
      if ← await (tryMeet pipe reads seen) then return .ok descriptor
      else
        Op.close descriptor
        return .error .interrupted

def openInput (path : String) : Act ε σ (Except SystemError Nat) :=
  openPath path { readable := true }

/-! ## Reading -/

/-- Reads up to so many bytes; there are none at the end. -/
def readBytes (descriptor count : Nat) : Act ε σ (Except SystemError ByteArray) :=
  await (Op.tryRead descriptor count)

/-- Reads to the end. -/
def readAllBytes (descriptor : Nat) : Act ε σ (Except SystemError ByteArray) :=
  go maxTurns ByteArray.empty
where
  go : Nat → ByteArray → Act ε σ (Except SystemError ByteArray)
    | 0, done => return .ok done
    | n + 1, done => do
        match ← readBytes descriptor blockSize with
        | .error e => return .error e
        | .ok bytes => if bytes.isEmpty then return .ok done else go n (done ++ bytes)

def readAll (descriptor : Nat) : Act ε σ (Except SystemError String) :=
  return (← readAllBytes descriptor).map Text.octetsOfArray

/-! ## Writing -/

def writeBytes (descriptor : Nat) (bytes : ByteArray) : Act ε σ (Except SystemError Unit) :=
  go maxTurns bytes
where
  go : Nat → ByteArray → Act ε σ (Except SystemError Unit)
    | 0, _ => return .ok ()
    | n + 1, bytes => do
        match ← await (Op.tryWrite descriptor bytes) with
        | .error e => return .error e
        | .ok count =>
            if bytes.size ≤ count then return .ok ()
            else go n (bytes.extract count bytes.size)

def write (descriptor : Nat) (s : String) : Act ε σ (Except SystemError Unit) :=
  if s.isEmpty then return .ok () else writeBytes descriptor (Text.arrayOfOctets s)

/-! ## Printing -/

/-- Writes what has been printed. -/
def flush : Act ε σ (Except SystemError Unit) := do
  let buffer := (← localState).buffer
  if buffer.isEmpty then return .ok ()
  modifyLocal fun s => { s with buffer := [], buffered := 0 }
  let result ← write 1 (String.join buffer.reverse)
  if let .error e := result then
    modifyLocal fun s => { s with outputError := s.outputError.orElse fun _ => some e }
  return result

/-- How much is printed before it is written. -/
def printBlock : Nat := 4096

/-- Prints on the standard output, which is written later. -/
def print (s : String) : Act ε σ Unit := do
  modifyLocal fun l => { l with buffer := s :: l.buffer, buffered := l.buffered + s.utf8ByteSize }
  if (← localState).buffered ≥ printBlock then let _ ← flush

def printLine (s : String) : Act ε σ Unit := print (s ++ "\n")

/-- Writes on the standard error. -/
def printError (s : String) : Act ε σ Unit := do
  let _ ← write 2 s

/-! ## Time -/

/-- Waits for so many microseconds, or for a signal. -/
def sleep (microseconds : Nat) : Act ε σ (Except SystemError Unit) := do
  let time ← call fun w => (w.now + microseconds, w)
  await (Op.trySleepUntil time)

/-- Waits for one of the children that are asked for. -/
def waitFor (asked : Nat → Bool) : Act ε σ (Except SystemError (Nat × Termination)) :=
  await (Op.tryWait asked)

end CompilerDriver.Kernel.Act
