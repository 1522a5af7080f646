import CompilerDriver.Posix.Kernel.Files

/-!
# Reading and writing

What a process can do with what it has open.  Where it would have to wait, an operation gives
nothing and changes nothing, so that it can be tried again.
-/

namespace CompilerDriver.Kernel

/-- The most that the first process and its children may write to one output. -/
def maxOutput : Nat := 64 * 1024 * 1024

/-- The most bytes that are read or written at once. -/
def blockSize : Nat := 65536

namespace Op

/-- A caught signal has come that the running process has not handled yet. -/
def isInterrupted : Op Bool := return !(← self).arrived.isEmpty

def advance (file count : Nat) : Op Unit :=
  modify fun w => w.modifyFile file fun f => { f with offset := f.offset + count }

def readNode (file n : Nat) (f : OpenFile) (count : Nat) : Op (Except SystemError ByteArray) := do
  match ((← get).volume.node n).content with
  | .file bytes =>
      let found := bytes.extract f.offset (f.offset + count)
      advance file found.size
      return .ok found
  | .program name =>
      let found := (imageBytes name).extract f.offset (f.offset + count)
      advance file found.size
      return .ok found
  | .device .zero | .device .full => return .ok ⟨Array.replicate (min count blockSize) 0⟩
  | .device _ => return .ok ByteArray.empty
  | .directory _ _ | .descriptors _ => return .error .isDirectory
  | _ => return .error .invalidArgument

/-- Takes bytes out of a pipe. -/
def takeFromPipe (number count : Nat) : Op ByteArray := do
  let pipe := (← get).pipes.getD number default
  let found := pipe.bytes.extract pipe.taken (pipe.taken + count)
  modify fun w => w.modifyPipe number fun p =>
    let taken := p.taken + found.size
    if taken = p.bytes.size then { p with bytes := ByteArray.empty, taken := 0 }
    else { p with taken := taken }
  return found

/-- Reads up to so many bytes; none are left at the end. -/
def tryRead (descriptor count : Nat) : Op (Option (Except SystemError ByteArray)) := do
  match ← file? descriptor with
  | none => return some (.error .badDescriptor)
  | some file =>
      let f := (← get).files.getD file default
      if !f.readable then return some (.error .badDescriptor)
      match f.channel with
      | .node n => return some (← readNode file n f count)
      | .socket 0 => return some (.ok ByteArray.empty)
      | .socket _ => return none
      | .pipe number _ =>
          let pipe := (← get).pipes.getD number default
          if 0 < pipe.held then return some (.ok (← takeFromPipe number count))
          else if pipe.writers = 0 ∨ count = 0 then return some (.ok ByteArray.empty)
          else if ← isInterrupted then return some (.error .interrupted)
          else return none

def writeNode (file n : Nat) (f : OpenFile) (bytes : ByteArray) : Op (Except SystemError Nat) := do
  match (← get).volume.kind n with
  | .characters =>
      match ((← get).volume.node n).content with
      | .device .full => return if bytes.isEmpty then .ok 0 else .error .noSpace
      | _ => return .ok bytes.size
  | .file =>
      if bytes.isEmpty then return .ok 0
      let size := ((← get).volume.node n).content.size
      let place := if f.appending then size else f.offset
      modify fun w =>
        let now := w.stamp
        w.modifyVolume fun v => v.writeAt n place bytes now
      modify fun w => w.modifyFile file fun f => { f with offset := place + bytes.size }
      return .ok bytes.size
  | _ => return .error .badDescriptor

def writeSocket (stream : Nat) (bytes : ByteArray) : Op Unit :=
  modify fun w =>
    if stream = 0 then w
    else
      let w := { w with outputs := w.outputs.modify (stream - 1) (· ++ bytes) }
      if maxOutput < (w.outputs.getD (stream - 1) ByteArray.empty).size then
        ({ w with overflowed := true }).signal firstPid Signal.terminate
      else w

/-- Writes some bytes; gives how many.  Writing to a pipe that nobody reads brings a signal. -/
def tryWrite (descriptor : Nat) (bytes : ByteArray) : Op (Option (Except SystemError Nat)) := do
  match ← file? descriptor with
  | none => return some (.error .badDescriptor)
  | some file =>
      let f := (← get).files.getD file default
      if !f.writable then return some (.error .badDescriptor)
      match f.channel with
      | .node n => return some (← writeNode file n f bytes)
      | .socket stream =>
          writeSocket stream bytes
          return some (.ok bytes.size)
      | .pipe number _ =>
          let pipe := (← get).pipes.getD number default
          if pipe.readers = 0 then
            modify fun w => w.signal w.current Signal.pipe
            return some (.error .brokenPipe)
          let fits :=
            if bytes.size ≤ Pipe.atomicSize then
              if bytes.size ≤ pipe.space then bytes.size else 0
            else min bytes.size pipe.space
          if fits = 0 ∧ 0 < bytes.size then
            return if ← isInterrupted then some (.error .interrupted) else none
          modify fun w => w.modifyPipe number fun p =>
            { p with bytes := p.bytes ++ bytes.extract 0 fits }
          return some (.ok fits)

/-- Where to go in a file. -/
inductive Origin where
  | start
  | here
  | finish
  deriving DecidableEq, Repr

/-- Moves the place at which an open file is read and written; gives the new one. -/
def seek (descriptor : Nat) (origin : Origin) (offset : Int) : Op (Except SystemError Nat) := do
  match ← file? descriptor with
  | none => return .error .badDescriptor
  | some file =>
      let f := (← get).files.getD file default
      match f.channel with
      | .node n =>
          if (← get).volume.kind n == .characters then return .ok 0
          let size := ((← get).volume.node n).content.size
          let base : Nat := match origin with
            | .start => 0
            | .here => f.offset
            | .finish => size
          let place := (base : Int) + offset
          if place < 0 then return .error .invalidArgument
          modify fun w => w.modifyFile file fun f => { f with offset := place.toNat }
          return .ok place.toNat
      | _ => return .error .notSeekable

/-- How many bytes are left in a file that is open. -/
def remaining? (descriptor : Nat) : Op (Option Nat) := do
  match ← openFile? descriptor with
  | some { channel := .node n, offset := offset, .. } =>
      match (← get).volume.kind n with
      | .file => return some (((← get).volume.node n).content.size - offset)
      | _ => return none
  | _ => return none

/-- Two descriptors lead to one file, in which the first one is before the end that the second one
writes at. -/
def feedsItself (source target : Nat) : Op Bool := do
  match ← openFile? source, ← openFile? target with
  | some { channel := .node n, offset := offset, .. },
      some { channel := .node m, offset := place, appending := appending, .. } =>
      let v := (← get).volume
      return n == m && v.kind n == .file &&
        decide (offset < (if appending then (v.node m).content.size else place))
  | _, _ => return false

end Op

end CompilerDriver.Kernel
