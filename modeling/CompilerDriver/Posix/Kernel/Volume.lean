import CompilerDriver.FileSystem.Access
import CompilerDriver.Posix.Notice

/-!
# Volumes

A volume is a table of nodes.  A directory gives names to nodes, so that one node can have several
names or, as long as somebody has it open, none.  Names are octet texts.
-/

namespace CompilerDriver.Kernel

inductive Content where
  | file (bytes : ByteArray)
  /-- The image of an installed program. -/
  | program (name : String)
  | directory (parent : Nat) (rows : List (String × Nat))
  | link (target : String)
  | device (kind : Device)
  /-- A pipe with a name, by its number. -/
  | queue (pipe : Nat)
  /-- The directory of what the process that looks has open. -/
  | descriptors (parent : Nat)
  deriving Inhabited

/-- The kinds of nodes. -/
inductive Kind where
  | file
  | directory
  | link
  | characters
  | queue
  | socket
  deriving DecidableEq, Repr, Inhabited

/-- A point in time in nanoseconds since the epoch. -/
abbrev Instant := Int

structure Node where
  content : Content
  /-- The permissions. -/
  mode : Nat
  /-- How many names lead here. -/
  links : Nat := 1
  owner : Nat := 0
  group : Nat := 0
  modified : Instant := 0
  deriving Inhabited

def Content.kind : Content → Kind
  | file _ | program _ => .file
  | directory _ _ | descriptors _ => .directory
  | link _ => .link
  | device _ => .characters
  | queue _ => .queue

/-- What is read of the image of a program. -/
def imageBytes (name : String) : ByteArray :=
  ⟨(FileSystem.imageBytes name).toArray⟩

def Content.size : Content → Nat
  | file bytes => bytes.size
  | program name => (imageBytes name).size
  | directory _ _ => 4096
  | link target => target.length
  | _ => 0

structure Volume where
  nodes : Array Node
  deriving Inhabited

namespace Volume

/-- The node of the root directory. -/
def root : Nat := 0

def node (v : Volume) (n : Nat) : Node := v.nodes.getD n default

def kind (v : Volume) (n : Nat) : Kind := (v.node n).content.kind

def isDirectory (v : Volume) (n : Nat) : Bool := v.kind n == .directory

def modify (v : Volume) (n : Nat) (f : Node → Node) : Volume :=
  ⟨v.nodes.modify n f⟩

/-- Adds a node; gives its number. -/
def add (v : Volume) (node : Node) : Nat × Volume :=
  (v.nodes.size, ⟨v.nodes.push node⟩)

/-- A volume with nothing in it. -/
def empty (now : Instant) : Volume :=
  ⟨#[{ content := .directory root [], mode := 0o755, links := 2, modified := now }]⟩

/-! ## Directories -/

def rows (v : Volume) (directory : Nat) : List (String × Nat) :=
  match (v.node directory).content with
  | .directory _ rows => rows
  | _ => []

def parent (v : Volume) (directory : Nat) : Nat :=
  match (v.node directory).content with
  | .directory parent _ | .descriptors parent => parent
  | _ => root

def child? (v : Volume) (directory : Nat) (name : String) : Option Nat :=
  (v.rows directory).lookup name

/-- The names in a directory in order. -/
def names (v : Volume) (directory : Nat) : List String :=
  ((v.rows directory).map (·.1)).mergeSort fun a b => (compare a b).isLE

/-- A directory that has lost its name cannot be used any more. -/
def isRemoved (v : Volume) (directory : Nat) : Bool := (v.node directory).links == 0

private def setRows (v : Volume) (directory : Nat) (now : Instant)
    (f : List (String × Nat) → List (String × Nat)) : Volume :=
  v.modify directory fun node =>
    match node.content with
    | .directory parent rows =>
        { node with content := .directory parent (f rows), modified := now }
    | _ => node

private def changeLinks (v : Volume) (n : Nat) (f : Nat → Nat) : Volume :=
  v.modify n fun node => { node with links := f node.links }

/-- Gives a node a name in a directory. -/
def enter (v : Volume) (directory : Nat) (name : String) (n : Nat) (now : Instant) : Volume :=
  let v := v.setRows directory now fun rows => (name, n) :: rows
  if v.isDirectory n then
    let v := v.changeLinks directory (· + 1)
    v.modify n fun node =>
      match node.content with
      | .directory _ rows => { node with content := .directory directory rows }
      | _ => node
  else v

/-- Takes a name out of a directory.  A node without names is gone for those who have not opened
it. -/
def leave (v : Volume) (directory : Nat) (name : String) (now : Instant) : Volume :=
  match v.child? directory name with
  | none => v
  | some n =>
      let v := v.setRows directory now fun rows => rows.filter fun row => row.1 != name
      if v.isDirectory n then v.changeLinks directory (· - 1) else v

/-- A name is no longer one of a node. -/
def release (v : Volume) (n : Nat) : Volume :=
  v.changeLinks n fun links => if v.isDirectory n then 0 else links - 1

/-- A further name leads to a node. -/
def retain (v : Volume) (n : Nat) : Volume := v.changeLinks n (· + 1)

/-- Adds a node under a name in a directory; gives its number. -/
def create (v : Volume) (directory : Nat) (name : String) (node : Node) : Nat × Volume :=
  let links := if node.content.kind == .directory then 2 else 1
  let (n, v) := v.add { node with links := links }
  (n, v.enter directory name n node.modified)

/-! ## Content -/

def bytes (v : Volume) (n : Nat) : ByteArray :=
  match (v.node n).content with
  | .file bytes => bytes
  | .program name => imageBytes name
  | _ => ByteArray.empty

/-- Some bytes over those at a place.  A gap before them is filled with zeros. -/
def overwritten (old : ByteArray) (offset : Nat) (new : ByteArray) : ByteArray :=
  let old :=
    if old.size < offset then old ++ ⟨Array.replicate (offset - old.size) 0⟩ else old
  new.copySlice 0 old offset new.size

def writeAt (v : Volume) (n offset : Nat) (new : ByteArray) (now : Instant) : Volume :=
  v.modify n fun node =>
    match node.content with
    | .file old => { node with content := .file (overwritten old offset new), modified := now }
    | .program name =>
        { node with content := .file (overwritten (imageBytes name) offset new), modified := now }
    | _ => node

/-- Makes a file as long as the given size. -/
def resize (v : Volume) (n size : Nat) (now : Instant) : Volume :=
  v.modify n fun node =>
    let resized (old : ByteArray) : Node :=
      let grown := if old.size < size then old ++ ⟨Array.replicate (size - old.size) 0⟩ else old
      { node with content := .file (grown.extract 0 size), modified := now }
    match node.content with
    | .file old => resized old
    | .program name => resized (imageBytes name)
    | _ => node

/-! ## Paths of directories -/

/-- The names from the root down to a directory, unless it has been removed. -/
def namesTo (v : Volume) : Nat → Nat → List String → Option (List String)
  | 0, _, _ => none
  | fuel + 1, n, below =>
      if n = root then some below
      else
        let parent := v.parent n
        match (v.rows parent).find? fun row => row.2 == n with
        | some row => namesTo v fuel parent (row.1 :: below)
        | none => none

/-- The path of a directory. -/
def pathOf? (v : Volume) (n : Nat) : Option String :=
  (v.namesTo (v.nodes.size + 1) n []).map fun names => "/" ++ "/".intercalate names

/-- A directory is another one or lies below it. -/
def isWithin (v : Volume) : Nat → Nat → Nat → Bool
  | 0, _, _ => false
  | fuel + 1, n, above => n == above || (n != root && isWithin v fuel (v.parent n) above)

end Volume

end CompilerDriver.Kernel
