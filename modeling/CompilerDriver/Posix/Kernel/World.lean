import CompilerDriver.Posix.Kernel.Signal
import CompilerDriver.Posix.Kernel.Walk

/-!
# What processes share

The world holds a volume, what is open, and all processes.  An operation is what the system does
for the running process in one step; it takes time, and other processes see what it has done.
-/

namespace CompilerDriver.Kernel

/-! ## Open files -/

/-- What an open file leads to. -/
inductive Channel where
  | node (n : Nat)
  /-- An end of a pipe, which may have a name. -/
  | pipe (number : Nat) (node : Option Nat)
  /-- A connection to whoever started the first process. -/
  | socket (stream : Nat)
  deriving DecidableEq, Repr, Inhabited

structure OpenFile where
  channel : Channel
  offset : Nat := 0
  readable : Bool := false
  writable : Bool := false
  appending : Bool := false
  /-- How many descriptors lead here. -/
  holders : Nat := 1
  deriving Inhabited

structure Pipe where
  bytes : ByteArray := ByteArray.empty
  /-- How many of the bytes have been read. -/
  taken : Nat := 0
  readers : Nat := 0
  writers : Nat := 0
  /-- How often each end has been opened by name. -/
  readerMeetings : Nat := 0
  writerMeetings : Nat := 0
  deriving Inhabited

namespace Pipe

def capacity : Nat := 65536

/-- A write of no more than this many bytes is not divided. -/
def atomicSize : Nat := 4096

def held (p : Pipe) : Nat := p.bytes.size - p.taken

def space (p : Pipe) : Nat := capacity - p.held

end Pipe

/-! ## Processes -/

structure Descriptor where
  file : Nat
  closesOnExec : Bool := false
  deriving DecidableEq, Repr, Inhabited

structure Process where
  parent : Nat := 0
  group : Nat := 0
  children : List Nat := []
  descriptors : List (Nat × Descriptor) := []
  /-- The working directory. -/
  here : Nat := Volume.root
  /-- The permissions that new files do not get. -/
  mask : Nat := 0o22
  niceness : Int := 0
  ignored : List Signal := []
  /-- The signals that the process handles itself. -/
  caught : List Signal := []
  /-- The caught signals that have come and are not handled yet. -/
  arrived : List Signal := []
  stopped : Bool := false
  /-- The time of the process in microseconds. -/
  clock : Nat := 0
  /-- When the process is to go on if nothing else happens. -/
  wake : Option Nat := none
  ending : Option Termination := none
  deriving Inhabited

/-- The identity of the first process that is started. -/
def firstPid : Nat := 4242

structure World where
  volume : Volume
  files : Array OpenFile := #[]
  pipes : Array Pipe := #[]
  /-- All processes there have been, the first one first. -/
  processes : Array Process := #[]
  /-- The identity of the running process. -/
  current : Nat := firstPid
  /-- The time in microseconds since the start. -/
  now : Nat := 0
  /-- Counts what may let a waiting process go on. -/
  version : Nat := 0
  /-- What has been written to the two outputs. -/
  outputs : Array ByteArray := #[ByteArray.empty, ByteArray.empty]
  /-- More has been written than may be. -/
  overflowed : Bool := false
  deriving Inhabited

/-- What the system does for the running process in one step. -/
abbrev Op := StateM World

namespace World

def process (w : World) (pid : Nat) : Process :=
  if pid < firstPid then default else w.processes.getD (pid - firstPid) default

def isKnown (w : World) (pid : Nat) : Bool :=
  firstPid ≤ pid && pid - firstPid < w.processes.size

def modifyProcess (w : World) (pid : Nat) (f : Process → Process) : World :=
  if pid < firstPid then w
  else { w with processes := w.processes.modify (pid - firstPid) f }

def modifyFile (w : World) (file : Nat) (f : OpenFile → OpenFile) : World :=
  { w with files := w.files.modify file f }

def modifyPipe (w : World) (pipe : Nat) (f : Pipe → Pipe) : World :=
  { w with pipes := w.pipes.modify pipe f, version := w.version + 1 }

def modifyVolume (w : World) (f : Volume → Volume) : World :=
  { w with volume := f w.volume }

/-- Something has happened for which others may wait. -/
def notify (w : World) : World := { w with version := w.version + 1 }

/-- The running process takes its time. -/
def spend (w : World) (microseconds : Nat) : World :=
  w.modifyProcess w.current fun p => { p with clock := p.clock + microseconds }

/-! ## Time -/

/-- The time at which everything starts, in nanoseconds. -/
def epoch : Instant := 1750000000000000000

/-- Files are stamped with the time of the last tick, in microseconds. -/
def tick : Nat := 4000

def stamp (w : World) : Instant := epoch + (w.now / tick * tick * 1000 : Nat)

def instant (w : World) : Instant := epoch + (w.now * 1000 : Nat)

/-! ## Closing -/

/-- A descriptor no longer leads to an open file. -/
def release (w : World) (file : Nat) : World :=
  let f := w.files.getD file default
  let w := w.modifyFile file fun f => { f with holders := f.holders - 1 }
  if f.holders ≠ 1 then w
  else
    match f.channel with
    | .pipe number _ => w.modifyPipe number fun p =>
        { p with
          readers := if f.readable then p.readers - 1 else p.readers
          writers := if f.writable then p.writers - 1 else p.writers }
    | _ => w.notify

def retain (w : World) (file : Nat) : World :=
  w.modifyFile file fun f => { f with holders := f.holders + 1 }

/-! ## Endings and signals -/

/-- Ends a process: what it has open is closed, and its parent is told. -/
def conclude (w : World) (pid : Nat) (ending : Termination) : World :=
  let p := w.process pid
  if p.ending.isSome then w
  else
    let w := p.descriptors.foldl (fun w d => w.release d.2.file) w
    let w := p.children.foldl
      (fun w child => w.modifyProcess child fun c => { c with parent := 1 }) w
    let w := w.modifyProcess pid fun p =>
      { p with ending := some ending, descriptors := [], children := [] }
    let w := w.modifyProcess p.parent fun p =>
      if p.caught.contains Signal.childEnded then
        { p with arrived := p.arrived ++ [Signal.childEnded] }
      else p
    w.notify

/-- A process gets a signal. -/
def signal (w : World) (pid : Nat) (n : Signal) : World :=
  let p := w.process pid
  let update (f : Process → Process) : World := (w.modifyProcess pid f).notify
  if n = 0 ∨ p.ending.isSome then w
  else if n = Signal.kill then w.conclude pid (.signal n)
  else if n = Signal.stop then update fun p => { p with stopped := true }
  else
    let w := if n = Signal.continued then update fun p => { p with stopped := false } else w
    if p.ignored.contains n then w
    else if p.caught.contains n then
      (w.modifyProcess pid fun p => { p with
        arrived := if p.arrived.contains n then p.arrived else p.arrived ++ [n] }).notify
    else if Signal.isHarmless n then w
    else if Signal.isStopping n then update fun p => { p with stopped := true }
    else w.conclude pid (.signal n)

end World

namespace Op

/-- The running process. -/
def self : Op Process := fun w => (w.process w.current, w)

def pid : Op Nat := fun w => (w.current, w)

def modifySelf (f : Process → Process) : Op Unit :=
  modify fun w => w.modifyProcess w.current f

/-! ## Descriptors -/

/-- The open file that a descriptor leads to. -/
def file? (descriptor : Nat) : Op (Option Nat) :=
  return ((← self).descriptors.lookup descriptor).map Descriptor.file

def openFile? (descriptor : Nat) : Op (Option OpenFile) := do
  match ← file? descriptor with
  | none => return none
  | some file => return (← get).files[file]?

def isOpen (descriptor : Nat) : Op Bool := return (← file? descriptor).isSome

/-- The least number that is no descriptor, from a given one on. -/
def leastFree (descriptors : List (Nat × Descriptor)) : Nat → Nat → Nat
  | 0, candidate => candidate
  | n + 1, candidate =>
      if (descriptors.lookup candidate).isSome then leastFree descriptors n (candidate + 1)
      else candidate

/-- Makes a new descriptor lead to an open file. -/
def install (file atLeast : Nat) (closesOnExec : Bool) : Op Nat := do
  let descriptors := (← self).descriptors
  let d := leastFree descriptors descriptors.length atLeast
  modifySelf fun p => { p with descriptors := (d, ⟨file, closesOnExec⟩) :: p.descriptors }
  return d

/-- Adds an open file with a descriptor of its own. -/
def addFile (f : OpenFile) : Op Nat := do
  let number ← modifyGet fun w => (w.files.size, { w with files := w.files.push f })
  install number 0 true

def close (descriptor : Nat) : Op Unit := do
  if let some file ← file? descriptor then
    modifySelf fun p => { p with
      descriptors := p.descriptors.filter fun d => d.1 != descriptor }
    modify fun w => w.release file

/-- Makes a descriptor lead to where another one leads. -/
def duplicate (source descriptor : Nat) : Op (Except SystemError Unit) := do
  match ← file? source with
  | none => return .error .badDescriptor
  | some file =>
      if source ≠ descriptor then
        modify fun w => w.retain file
        close descriptor
        modifySelf fun p => { p with descriptors := (descriptor, ⟨file, false⟩) :: p.descriptors }
      return .ok ()

/-- Makes a descriptor lead to where another one leads, which is closed then. -/
def move (source descriptor : Nat) : Op Unit := do
  if source ≠ descriptor then
    let _ ← duplicate source descriptor
    close source
  else modifySelf fun p => { p with
    descriptors := p.descriptors.map fun d =>
      if d.1 = descriptor then (d.1, ⟨d.2.file, false⟩) else d }

/-- A copy of a descriptor out of the way of those that programs use. -/
def setAside (descriptor : Nat) : Op (Option Nat) := do
  match ← file? descriptor with
  | none => return none
  | some file =>
      modify fun w => w.retain file
      return some (← install file 10 true)

/-- A new pipe: the descriptors of its ends. -/
def newPipe : Op (Nat × Nat) := do
  let number ← modifyGet fun w =>
    (w.pipes.size, { w with pipes := w.pipes.push { readers := 1, writers := 1 } })
  let readEnd ← addFile { channel := .pipe number none, readable := true }
  let writeEnd ← addFile { channel := .pipe number none, writable := true }
  return (readEnd, writeEnd)

end Op

end CompilerDriver.Kernel
