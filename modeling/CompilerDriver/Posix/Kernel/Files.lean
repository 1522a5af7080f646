import CompilerDriver.Posix.Kernel.World

/-!
# Calls on files

What a process can ask of the volume: to open, make, name and remove what is in it.
-/

namespace CompilerDriver.Kernel

/-- What is known of what a path or a descriptor leads to. -/
structure Status where
  kind : Kind
  mode : Nat
  size : Nat := 0
  links : Nat := 1
  owner : Nat := 0
  group : Nat := 0
  modified : Instant := 0
  /-- The node, unless there is none in the volume. -/
  node : Option Nat := none
  device : Option Device := none
  deriving Inhabited

namespace Status

def isDirectory (s : Status) : Bool := s.kind == .directory

def isFile (s : Status) : Bool := s.kind == .file

/-- Somebody may run it. -/
def isExecutable (s : Status) : Bool := s.mode &&& 0o111 != 0

end Status

/-- How a file is to be opened. -/
structure Access where
  readable : Bool := false
  writable : Bool := false
  appending : Bool := false
  truncating : Bool := false
  creating : Bool := false
  exclusive : Bool := false
  mode : Nat := 0o666
  deriving DecidableEq, Repr, Inhabited

/-- What opening a file comes to. -/
inductive Opening where
  | done (descriptor : Nat)
  /-- The pipe is open, and somebody has to open its other end, which has been opened so often. -/
  | meeting (descriptor pipe : Nat) (reads : Bool) (seen : Nat)
  deriving DecidableEq, Repr, Inhabited

namespace Op

/-! ## Places -/

/-- The place that a path leads to.  `follows` tells whether a link at the end is followed. -/
def locate (path : String) (follows : Bool := true) : Op (Except SystemError Place) := do
  let p ← self
  let opened (descriptor : Nat) : Option Nat :=
    (p.descriptors.lookup descriptor).map Descriptor.file
  return (← get).volume.find ⟨opened, follows⟩ p.here path

def nodeStatus (w : World) (n : Nat) : Status :=
  let node := w.volume.node n
  { kind := node.content.kind, mode := node.mode, size := node.content.size
    links := node.links, owner := node.owner, group := node.group, modified := node.modified
    node := some n
    device := match node.content with
      | .device kind => some kind
      | _ => none }

def fileStatus (w : World) (file : Nat) : Status :=
  match (w.files.getD file default).channel with
  | .node n | .pipe _ (some n) => nodeStatus w n
  | .pipe _ none => { kind := .queue, mode := 0o600 }
  | .socket _ => { kind := .socket, mode := 0o777 }

def targetStatus (w : World) : Target → Status
  | .node n => nodeStatus w n
  | .opened file => fileStatus w file

/-- What a path leads to. -/
def statusOf (path : String) (follows : Bool := true) : Op (Except SystemError Status) := do
  match ← locate path follows with
  | .error e => return .error e
  | .ok place =>
      match place.target with
      | none => return .error .notFound
      | some target => return .ok (targetStatus (← get) target)

def status? (path : String) : Op (Option Status) := return (← statusOf path).toOption

/-- What a path names itself. -/
def ownStatus? (path : String) : Op (Option Status) := return (← statusOf path false).toOption

def exists? (path : String) : Op Bool := return (← status? path).isSome

def isDirectory (path : String) : Op Bool := return (← status? path).any Status.isDirectory

def descriptorStatus? (descriptor : Nat) : Op (Option Status) := do
  match ← file? descriptor with
  | none => return none
  | some file => return some (fileStatus (← get) file)

/-- The target of a link. -/
def readLink (path : String) : Op (Except SystemError String) := do
  match ← locate path false with
  | .error e => return .error e
  | .ok place =>
      match place.target with
      | none => return .error .notFound
      | some (.opened file) =>
          let w ← get
          match (w.files.getD file default).channel with
          | .node n => return .ok ((w.volume.pathOf? n).getD "/")
          | .pipe number _ => return .ok ("pipe:[" ++ toString number ++ "]")
          | .socket number => return .ok ("socket:[" ++ toString number ++ "]")
      | some (.node n) =>
          match ((← get).volume.node n).content with
          | .link target => return .ok target
          | _ => return .error .invalidArgument

/-- The names in a directory in order. -/
def namesIn (path : String) : Op (Except SystemError (List String)) := do
  match ← locate path with
  | .error e => return .error e
  | .ok place =>
      match place.target with
      | none => return .error .notFound
      | some (.opened _) => return .error .notDirectory
      | some (.node n) =>
          match ((← get).volume.node n).content with
          | .directory _ _ => return .ok ((← get).volume.names n)
          | .descriptors _ =>
              let ds := ((← self).descriptors.map (·.1)).mergeSort fun a b => decide (a ≤ b)
              return .ok (ds.map fun (n : Nat) => toString n)
          | _ => return .error .notDirectory

/-! ## Opening -/

def Access.openFile (a : Access) (channel : Channel) : OpenFile where
  channel := channel
  readable := a.readable
  writable := a.writable
  appending := a.appending

/-- Opens an end of a pipe. -/
def openPipe (number : Nat) (node : Option Nat) (access : Access) : Op Opening := do
  modify fun w => w.modifyPipe number fun p =>
    { p with
      readers := if access.readable then p.readers + 1 else p.readers
      writers := if access.writable then p.writers + 1 else p.writers
      readerMeetings := if access.readable then p.readerMeetings + 1 else p.readerMeetings
      writerMeetings := if access.writable then p.writerMeetings + 1 else p.writerMeetings }
  let descriptor ← addFile (Access.openFile access (.pipe number node))
  let pipe := (← get).pipes.getD number default
  if node.isNone ∨ (access.readable ∧ access.writable) then return .done descriptor
  else if access.readable then
    return if pipe.writers > 0 then .done descriptor
      else .meeting descriptor number true pipe.writerMeetings
  else
    return if pipe.readers > 0 then .done descriptor
      else .meeting descriptor number false pipe.readerMeetings

def openNode (n : Nat) (access : Access) : Op (Except SystemError Opening) := do
  let open' : Op (Except SystemError Opening) := do
    return .ok (.done (← addFile (Access.openFile access (.node n))))
  match ((← get).volume.node n).content with
  | .directory _ _ | .descriptors _ =>
      if access.writable ∨ access.creating then return .error .isDirectory else open'
  | .link _ => return .error .tooManyLinks
  | .device .terminal => return .error .noDevice
  | .device _ => open'
  | .queue number => return .ok (← openPipe number (some n) access)
  | .file _ | .program _ =>
      if access.truncating then
        modify fun w =>
          let now := w.stamp
          w.modifyVolume fun v => v.resize n 0 now
      open'

/-- Opens what somebody has open already once more. -/
def openAgain (file : Nat) (access : Access) : Op (Except SystemError Opening) := do
  match ((← get).files.getD file default).channel with
  | .node n => openNode n access
  | .pipe number _ => return .ok (← openPipe number none access)
  | .socket _ => return .error .noDevice

/-- Makes a node under a free name. -/
def createAt (place : Place) (content : Content) (mode : Nat) : Op (Except SystemError Nat) := do
  if (← get).volume.isRemoved place.parent then return .error .notFound
  let mask := (← self).mask
  let n ← modifyGet fun w =>
    let node : Node :=
      { content := content, mode := mode &&& (0o7777 ^^^ mask), modified := w.stamp }
    let (n, volume) := w.volume.create place.parent place.name node
    (n, { w with volume := volume })
  modify World.notify
  return .ok n

/-- Why a file cannot be made under a path that ends in a slash. -/
def slashError (path : String) : Op SystemError := do
  let bare := (path.toList.reverse.dropWhile (· == '/')).reverse
  match ← locate (String.ofList bare) with
  | .error e => return e
  | .ok _ => return .isDirectory

def startOpen (path : String) (access : Access) : Op (Except SystemError Opening) := do
  if access.creating ∧ path.endsWith "/" ∧ path.toList.any (· != '/') then
    return .error (← slashError path)
  match ← locate path (!access.exclusive) with
  | .error e => return .error e
  | .ok place =>
      match place.target with
      | none =>
          if !access.creating then return .error .notFound
          match ← createAt place (.file ByteArray.empty) access.mode with
          | .error e => return .error e
          | .ok n => return .ok (.done (← addFile (Access.openFile access (.node n))))
      | some target =>
          if access.exclusive ∧ access.creating then return .error .alreadyExists
          match target with
          | .node n => openNode n access
          | .opened file => openAgain file access

/-! ## Making and removing names -/

def withoutEndSlashes (path : String) : String :=
  let bare := (path.toList.reverse.dropWhile (· == '/')).reverse
  if bare.isEmpty ∧ !path.isEmpty then "/" else String.ofList bare

/-- The free place that a path names.  One with a slash at its end asks for what is there. -/
def freePlace (path : String) : Op (Except SystemError Place) := do
  match ← locate (withoutEndSlashes path) false with
  | .error e => return .error e
  | .ok place =>
      if place.target.isSome then return .error .alreadyExists
      return if path.endsWith "/" then .error .notFound else .ok place

def makeDirectory (path : String) (mode : Nat := 0o777) : Op (Except SystemError Unit) := do
  match ← freePlace (withoutEndSlashes path) with
  | .error e => return .error e
  | .ok place =>
      return (← createAt place (.directory place.parent []) mode).map fun _ => ()

def makeLink (target path : String) : Op (Except SystemError Unit) := do
  if target.isEmpty then return .error .notFound
  if Volume.maxPathLength < target.length then return .error .nameTooLong
  match ← freePlace path with
  | .error e => return .error e
  | .ok place =>
      match ← createAt place (.link target) 0o777 with
      | .error e => return .error e
      | .ok n =>
          modify fun w => w.modifyVolume fun v => v.modify n fun node => { node with mode := 0o777 }
          return .ok ()

def makeQueue (path : String) (mode : Nat := 0o666) : Op (Except SystemError Unit) := do
  match ← freePlace path with
  | .error e => return .error e
  | .ok place =>
      let number ← modifyGet fun w => (w.pipes.size, { w with pipes := w.pipes.push {} })
      return (← createAt place (.queue number) mode).map fun _ => ()

/-- Makes a device of a kind. -/
def makeDevice (kind : Device) (path : String) (mode : Nat) : Op (Except SystemError Unit) := do
  match ← freePlace path with
  | .error e => return .error e
  | .ok place => return (← createAt place (.device kind) mode).map fun _ => ()

/-- Gives a node one more name. -/
def link (source path : String) (follows : Bool := false) : Op (Except SystemError Unit) := do
  match ← locate source follows with
  | .error e => return .error e
  | .ok found =>
      match found.target with
      | some (.node n) =>
          match ← freePlace path with
          | .error e => return .error e
          | .ok place =>
              if (← get).volume.isDirectory n then return .error .notPermitted
              if (← get).volume.isRemoved place.parent then return .error .notFound
              modify fun w =>
                let now := w.stamp
                w.modifyVolume fun v => (v.enter place.parent place.name n now).retain n
              return .ok ()
      | some (.opened _) => return .error .crossDevice
      | none => return .error .notFound

/-- Takes away a name of something that is no directory. -/
def unlink (path : String) : Op (Except SystemError Unit) := do
  match ← locate path false with
  | .error e => return .error e
  | .ok place =>
      match place.target with
      | none => return .error .notFound
      | some (.opened _) => return .error .notPermitted
      | some (.node n) =>
          if (← get).volume.isDirectory n then
            return .error .isDirectory
          modify fun w =>
            let now := w.stamp
            (w.modifyVolume fun v => (v.leave place.parent place.name now).release n).notify
          return .ok ()

/-- Takes away an empty directory. -/
def removeDirectory (path : String) : Op (Except SystemError Unit) := do
  if withoutEndSlashes path = "/" then return .error .busy
  match ← locate (withoutEndSlashes path) false with
  | .error e => return .error e
  | .ok place =>
      match place.target with
      | none => return .error .notFound
      | some (.opened _) => return .error .notDirectory
      | some (.node n) =>
          let v := (← get).volume
          if !v.isDirectory n then return .error .notDirectory
          else if place.name = "." then return .error .invalidArgument
          else if place.name = ".." then return .error .notEmpty
          else if n = Volume.root then return .error .busy
          else if !(v.rows n).isEmpty then return .error .notEmpty
          else
            modify fun w =>
              let now := w.stamp
              (w.modifyVolume fun v => (v.leave place.parent place.name now).release n).notify
            return .ok ()

/-- Moves a name to a place, from which it takes away what is there. -/
def renameTo (source : Place) (n : Nat) (target : Place) : Op Unit :=
  modify fun w =>
    let now := w.stamp
    let replaced :=
      match target.target with
      | some (.node m) => fun (v : Volume) => (v.leave target.parent target.name now).release m
      | _ => id
    (w.modifyVolume fun v =>
      ((replaced v).leave source.parent source.name now).enter
        target.parent target.name n now).notify

def rename (source target : String) : Op (Except SystemError Unit) := do
  match ← locate (withoutEndSlashes source) false with
  | .error e => return .error e
  | .ok from' =>
      match from'.target with
      | none => return .error .notFound
      | some (.opened _) => return .error .busy
      | some (.node n) =>
          let v := (← get).volume
          let moves := v.isDirectory n
          if source.endsWith "/" ∧ !moves then return .error .notDirectory
          if from'.name = "." ∨ from'.name = ".." then return .error .busy
          match ← locate (withoutEndSlashes target) false with
          | .error e => return .error e
          | .ok to' =>
              if to'.name = "." ∨ to'.name = ".." then return .error .busy
              if moves ∧ v.isWithin v.nodes.size to'.parent n then return .error .invalidArgument
              if v.isRemoved to'.parent then return .error .notFound
              match to'.target with
              | none =>
                  if target.endsWith "/" ∧ !moves then return .error .notDirectory
                  renameTo from' n to'
                  return .ok ()
              | some (.opened _) => return .error .busy
              | some (.node m) =>
                  if n = m then return .ok ()
                  else if v.isDirectory m then
                    if !moves then return .error .isDirectory
                    else if !(v.rows m).isEmpty then return .error .notEmpty
                    else
                      renameTo from' n to'
                      return .ok ()
                  else if moves ∨ target.endsWith "/" then return .error .notDirectory
                  else
                    renameTo from' n to'
                    return .ok ()

/-! ## Properties -/

def modifyNode (path : String) (f : Node → Node) (follows : Bool := true) :
    Op (Except SystemError Unit) := do
  match ← locate path follows with
  | .error e => return .error e
  | .ok place =>
      match place.target with
      | some (.node n) =>
          modify fun w => w.modifyVolume fun v => v.modify n f
          return .ok ()
      | some (.opened _) => return .ok ()
      | none => return .error .notFound

def setMode (path : String) (mode : Nat) : Op (Except SystemError Unit) :=
  modifyNode path fun node => { node with mode := mode }

def setModified (path : String) (time : Instant) (follows : Bool := true) :
    Op (Except SystemError Unit) :=
  modifyNode path (fun node => { node with modified := time }) follows

/-- Makes what a path leads to a copy of the image of a program. -/
def setProgram (path name : String) : Op (Except SystemError Unit) :=
  modifyNode path fun node => { node with content := .program name }

/-- The program whose image a path leads to. -/
def program? (path : String) : Op (Option String) := do
  match ← locate path with
  | .ok { target := some (.node n), .. } =>
      match ((← get).volume.node n).content with
      | .program name => return some name
      | _ => return none
  | _ => return none

/-- Cuts off or fills up a file. -/
def resize (path : String) (size : Nat) : Op (Except SystemError Unit) := do
  match ← locate path with
  | .error e => return .error e
  | .ok place =>
      match place.target with
      | some (.node n) =>
          if (← get).volume.isDirectory n then return .error .isDirectory
          modify fun w =>
            let now := w.stamp
            w.modifyVolume fun v => v.resize n size now
          return .ok ()
      | some (.opened _) => return .error .invalidArgument
      | none => return .error .notFound

/-! ## The working directory -/

def changeDirectory (path : String) : Op (Except SystemError Unit) := do
  match ← locate path with
  | .error e => return .error e
  | .ok place =>
      match place.target with
      | none => return .error .notFound
      | some (.opened _) => return .error .notDirectory
      | some (.node n) =>
          if !(← get).volume.isDirectory n then return .error .notDirectory
          modifySelf fun p => { p with here := n }
          return .ok ()

/-- The path of the working directory, if it still has one. -/
def workingDirectory? : Op (Option String) := do
  let p ← self
  return (← get).volume.pathOf? p.here

end Op

end CompilerDriver.Kernel
