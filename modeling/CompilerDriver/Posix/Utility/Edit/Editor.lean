import CompilerDriver.Posix.Utility.Edit.Description
import CompilerDriver.Posix.Utility.Input
import CompilerDriver.Posix.Utility.Paths

/-!
# The spaces and files of the stream editor

The line that the editor works on is held in the pattern space; the hold space keeps a text from
line to line.  Lines come from one file after the other.  What is written goes to the standard
output or, if files are edited in place, into a file that takes the place of the one that was read.
-/

namespace CompilerDriver.Utility.Edit

open Kernel

structure Settings where
  call : Call
  commands : Array Command
  unicode : Bool
  quiet : Bool
  /-- Each file has an end of its own. -/
  separate : Bool
  /-- What to add to the name of a file that is kept as it was, if files are edited in place. -/
  inPlace : Option String
  /-- Files are edited where links lead to. -/
  followsLinks : Bool
  zeroEnds : Bool
  unbuffered : Bool
  width : Nat
  /-- What is done is told step by step. -/
  explains : Bool
  /-- Runs a command; gives what it prints. -/
  run : String → Act (Except SystemError String)

/-- The file that is being read. -/
structure Current where
  name : String
  input : Input
  mode : Nat

inductive Queued where
  | text (s : String)
  | file (path : String)
  deriving DecidableEq, Repr

structure Editor where
  space : List Char := []
  /-- A newline ends the line that was read last. -/
  ended : Bool := true
  held : List Char := []
  /-- A newline ends what is held. -/
  heldEnded : Bool := true
  lineNumber : Nat := 0
  /-- The commands whose range has begun, each with the line at which it ends, if that is known. -/
  ranges : List (Nat × Option Nat) := []
  changed : Bool := false
  queue : List Queued := []
  lastPattern : Option Pattern := none
  paths : List String
  current : Option Current := none
  status : Nat := 0
  /-- The files that are open, by their paths. -/
  outlets : List (String × Nat) := []
  inlets : List (String × Input) := []
  /-- The outlets on which the last line still lacks its newline. -/
  unended : List String := []
  /-- What has been written for the file that is edited in place, last first. -/
  edited : List String := []
  /-- How many blocks the command that was told last stands in. -/
  depth : Nat := 0

abbrev Editing := StateT Editor Act

def does {α : Type} (act : Act α) : Editing α := StateT.lift act

def ask {α : Type} (op : Op α) : Editing α := StateT.lift (liftM op)

/-! ## Output -/

def standardOutlet : String := ""

def printNow (o : Settings) (text : String) : Editing Unit := does do
  Act.print text
  if o.unbuffered then let _ ← Act.flush

def writeTo (o : Settings) (outlet text : String) : Editing Unit := do
  if outlet = standardOutlet then
    if o.inPlace.isSome then modify fun s => { s with edited := text :: s.edited }
    else printNow o text
  else if outlet = "/dev/stdout" then printNow o text
  else if outlet = "/dev/stderr" then
    does do
      let _ ← Act.flush
      Act.printError text
  else
    let s ← get
    match s.outlets.lookup outlet with
    | some descriptor => does do let _ ← Act.write descriptor text
    | none => pure ()

/-- What ends a line. -/
def delimiter (o : Settings) : Char := if o.zeroEnds then '\x00' else '\n'

def newline (o : Settings) : String := String.singleton (delimiter o)

/-- Ends the last line on an outlet. -/
def endLine (o : Settings) (outlet : String) : Editing Unit := do
  let s ← get
  if s.unended.contains outlet then
    writeTo o outlet (newline o)
    modify fun s => { s with unended := s.unended.filter (· != outlet) }

def emitRaw (o : Settings) (text : String) : Editing Unit := do
  endLine o standardOutlet
  if !text.isEmpty then writeTo o standardOutlet text

/-- Writes a line, without a newline if the one that was read has none. -/
def emit (o : Settings) (outlet : String) (line : List Char) : Editing Unit := do
  endLine o outlet
  let text := octetsIf o.unicode line
  let s ← get
  if s.ended then writeTo o outlet (text ++ newline o)
  else
    writeTo o outlet text
    modify fun s => { s with unended := outlet :: s.unended }

def emitSpace (o : Settings) : Editing Unit := do
  let s ← get
  emit o standardOutlet s.space

/-- Writes what has been queued for the end of the cycle. -/
def flushQueue (o : Settings) : Editing Unit := do
  let queue := (← get).queue
  modify fun s => { s with queue := [] }
  for q in queue do
    match q with
    | .text s => emitRaw o s
    | .file path =>
        let result ← does (readInput (if path = "/dev/stdin" then "-" else path))
        if let .ok text := result then emitRaw o text

/-! ## Telling -/

def tell (o : Settings) (text : String) : Editing Unit :=
  if o.explains then does (Act.print text) else pure ()

def tellSpace (o : Settings) : Editing Unit := do
  let s ← get
  tell o ("PATTERN: " ++ visible o.unicode s.space ++ "\n")

def tellHeld (o : Settings) : Editing Unit := do
  let s ← get
  tell o ("HOLD:    " ++ visible o.unicode s.held ++ "\n")

/-! ## Input -/

/-- The name of a file in a message. -/
def shownName (c : Current) : String := if c.name = "-" then "stdin" else c.name

/-- There is more to read in the present file. -/
def currentHasMore (o : Settings) : Editing Bool := do
  let s ← get
  match s.current with
  | none => return false
  | some c =>
      match ← does c.input.hasMore with
      | .ok (more, input) =>
          modify fun s => { s with current := some { c with input } }
          return more
      | .error e => does (giveUp o.call 4 ("read error on " ++ shownName c ++ ": " ++ e.notice))

/-- The name under which a file is kept as it was: stars in the suffix stand for its name. -/
def backupName (path suffix : String) : String :=
  let name := lastComponent path
  let kept := if suffix.contains '*' then suffix.replace "*" name else name ++ suffix
  if kept.contains '/' ∨ !path.contains '/' then kept else joinPath (directoryOf path) kept

/-- Puts a text in the place of a file. -/
def replaceFile (o : Settings) (c : Current) (suffix text : String) : Act Unit := do
  let temporary := (if c.name.contains '/' then directoryOf c.name ++ "/" else "") ++
    "sed" ++ toString (← Op.pid)
  let access : Access := { writable := true, creating := true, truncating := true, mode := 0o600 }
  match ← Act.openPath temporary access with
  | .error e => giveUp o.call 4 ("couldn't open temporary file " ++ temporary ++ ": " ++ e.notice)
  | .ok descriptor =>
      let _ ← Act.write descriptor text
      Op.close descriptor
      let _ ← Op.setMode temporary c.mode
      if suffix ≠ "" then
        if let .error e ← Op.rename c.name (backupName c.name suffix) then
          giveUp o.call 4 ("cannot rename " ++ c.name ++ ": " ++ e.notice)
      if let .error e ← Op.rename temporary c.name then
        giveUp o.call 4 ("cannot rename " ++ temporary ++ ": " ++ e.notice)

/-- Takes leave of the present file. -/
def finishFile (o : Settings) : Editing Unit := do
  let s ← get
  if let some c := s.current then
    does c.input.close
    if let some suffix := o.inPlace then
      does (replaceFile o c suffix (String.join s.edited.reverse))
  set { s with
    current := none, edited := [], unended := if o.inPlace.isSome then [] else s.unended }

/-- The ranges that have begun before the first line. -/
def rangesFromZero (commands : Array Command) : List (Nat × Option Nat) :=
  commands.toList.zipIdx.filterMap fun (c, i) =>
    match c.selector.first with
    | some (.line 0) => some (i, none)
    | _ => none

/-- Where links lead to, if files are edited there. -/
def editedPath (o : Settings) (path : String) : Nat → Act String
  | 0 => return path
  | n + 1 => do
      if !o.followsLinks then return path
      match ← Op.readLink path with
      | .error _ => return path
      | .ok target =>
          if target.startsWith "/" then editedPath o target n
          else if path.contains '/' then editedPath o (joinPath (directoryOf path) target) n
          else editedPath o target n

def openNext (o : Settings) (path : String) : Editing Unit := do
  let fail (status : Nat) (message : String) : Editing Unit := do
    does (complain o.call message)
    modify fun s => { s with status := status }
  let name ← if o.inPlace.isSome then does (editedPath o path 40) else pure path
  let opening : Act (Except SystemError Input) :=
    if o.inPlace.isSome then do
      return (← Act.openInput name).map fun d => { descriptor := d }
    else Input.openPath name
  match ← does opening with
  | .error e => fail 2 ("can't read " ++ path ++ ": " ++ e.notice)
  | .ok input =>
      let status? ← ask (Op.descriptorStatus? input.descriptor)
      if o.inPlace.isSome ∧ !status?.any Status.isFile then
        does input.close
        fail 4 ("couldn't edit " ++ path ++ ": not a regular file")
      else
        let input := if o.unbuffered then { input with block := 1 } else input
        modify fun s =>
          let s := { s with
            current := some { name, input, mode := (status?.map (·.mode)).getD 0o644 } }
          if o.separate then
            { s with lineNumber := 0, ranges := rangesFromZero o.commands, inlets := [] }
          else s

/-- Goes on to the next file that has a line, if there is none in the present one. -/
def moveAhead (o : Settings) : Nat → Editing Bool
  | 0 => return false
  | n + 1 => do
      if ← currentHasMore o then return true
      let s ← get
      if s.current.isSome then finishFile o
      match s.paths with
      | [] => return false
      | path :: rest =>
          modify fun s => { s with paths := rest }
          openNext o path
          moveAhead o n

def hasNext (o : Settings) : Editing Bool := do
  let s ← get
  moveAhead o (s.paths.length + 2)

def isLastLine (o : Settings) : Editing Bool := do
  if o.separate then return !(← currentHasMore o)
  return !(← hasNext o)

/-- Reads the next line into the pattern space, or behind what it holds. -/
def readNext (o : Settings) (more : Bool) : Editing Bool := do
  if !(← hasNext o) then return false
  flushQueue o
  let s ← get
  match s.current with
  | none => return false
  | some c =>
      match ← does (c.input.line? (delimiter o)) with
      | .error e => does (giveUp o.call 4 ("read error on " ++ shownName c ++ ": " ++ e.notice))
      | .ok (none, _) => return false
      | .ok (some (line, isEnded), input) =>
          let line := charactersIf o.unicode line.toList
          modify fun s => { s with
            space := if more then s.space ++ delimiter o :: line else line
            ended := isEnded, changed := false, lineNumber := s.lineNumber + 1
            current := some { c with input } }
          return true

/-- A line of a file that is read line by line. -/
def lineOfFile (o : Settings) (path : String) : Editing (Option String) := do
  let s ← get
  let input? ← match s.inlets.lookup path with
    | some input => pure (some input)
    | none => do
        let opened ← does (Input.openPath (if path = "/dev/stdin" then "-" else path))
        pure opened.toOption
  match input? with
  | none => return none
  | some input =>
      match ← does (input.piece? (delimiter o)) with
      | .ok (line?, input) =>
          modify fun s => { s with
            inlets := (path, input) :: s.inlets.filter fun i => i.1 != path }
          return line?
      | .error _ => return none

end CompilerDriver.Utility.Edit
