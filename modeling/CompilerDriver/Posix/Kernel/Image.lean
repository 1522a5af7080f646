import CompilerDriver.Posix.Kernel.Schedule
import CompilerDriver.Posix.Kernel.Transfer

/-!
# Volumes from file systems

A volume starts as a copy of a file system.  When all processes are done, what is different in it
is told as changes of the file system.
-/

namespace CompilerDriver.Kernel

open FileSystem (Change)

namespace Volume

/-! ## Building -/

/-- What is older than everything that processes do. -/
def setupTime : Instant := World.epoch - 1000000000

def nodeOf (parent : Nat) : Entry → Node
  | .file content executable =>
      { content := .file ⟨content.toArray⟩, mode := if executable then 0o755 else 0o644
        modified := setupTime }
  | .program name => { content := .program name, mode := 0o755, modified := setupTime }
  | .directory => { content := .directory parent [], mode := 0o755, modified := setupTime }
  | .link target =>
      { content := .link (Text.toOctets target), mode := 0o777, modified := setupTime }
  | .device kind => { content := .device kind, mode := 0o666, modified := setupTime }

/-- The directory of a location. -/
def directoryAt? (v : Volume) (l : Location) : Option Nat :=
  l.foldlM (fun n name => v.child? n (Text.toOctets name)) root

/-- Adds an entry to the directory above it, if that is there. -/
def install (v : Volume) (row : Location × Entry) : Volume :=
  match v.directoryAt? row.1.dropLast with
  | none => v
  | some parent =>
      match row.2 with
      | .device (.stream _) =>
          v.modify parent fun node => { node with content := .descriptors (v.parent parent) }
      | e => (v.create parent (Text.toOctets (row.1.getLastD "")) (nodeOf parent e)).2

def ofFileSystem (fs : FileSystem) : Volume :=
  let rows := fs.entries.mergeSort fun a b => decide (a.1.length ≤ b.1.length)
  rows.foldl install (empty setupTime)

/-! ## Reading back -/

def entryOf (node : Node) : Entry :=
  match node.content with
  | .file bytes => .file bytes.data.toList (node.mode &&& 0o111 != 0)
  | .program name => .program name
  | .directory _ _ | .descriptors _ => .directory
  | .link target => .link (Text.ofOctets target)
  | .device kind => .device kind
  | .queue _ => .device .queue

/-- Everything below a directory. -/
def entriesBelow (v : Volume) : Nat → Nat → Location → List (Location × Entry)
  | 0, _, _ => []
  | n + 1, directory, l =>
      (v.rows directory).reverse.flatMap fun (name, child) =>
        let here := l ++ [Text.ofOctets name]
        (here, entryOf (v.node child)) :: entriesBelow v n child here

end Volume

/-- What has to be changed in a file system for it to hold what a volume does. -/
def changesTo (fs : FileSystem) (v : Volume) : List Change :=
  let after := v.entriesBelow (v.nodes.size + 1) Volume.root []
  let isStream : Entry → Bool := fun
    | .device (.stream _) => true
    | _ => false
  let gone := fs.entries.filter fun row =>
    !isStream row.2 && (after.lookup row.1).isNone
  let put := after.filter fun row => fs.entryAt? row.1 != some row.2
  gone.map (fun row => .remove row.1) ++ put.map fun row => .put row.1 row.2

/-- The pipes for the queues that there are. -/
def World.connectQueues (w : World) : World :=
  (List.range w.volume.nodes.size).foldl (fun w n =>
    match (w.volume.node n).content with
    | .device .queue =>
        let number := w.pipes.size
        { w with
          pipes := w.pipes.push {}
          volume := w.volume.modify n fun node => { node with content := .queue number } }
    | _ => w) w

/-- The world before its first process starts: an empty input and two outputs. -/
def World.initial (fs : FileSystem) : World :=
  let volume := Volume.ofFileSystem fs
  let here := (volume.directoryAt? fs.workDir).getD Volume.root
  let socket (stream : Nat) : OpenFile :=
    { channel := .socket stream, readable := true, writable := true }
  let first : Process := {
    parent := firstPid - 1
    group := firstPid - 1
    descriptors := [(0, ⟨0, false⟩), (1, ⟨1, false⟩), (2, ⟨2, false⟩)]
    here := here }
  ({ volume := volume, files := #[socket 0, socket 1, socket 2], processes := #[first] }
    : World).connectQueues

end CompilerDriver.Kernel
