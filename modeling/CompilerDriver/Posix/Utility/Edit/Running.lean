import CompilerDriver.Posix.Utility.Edit.Editor
import CompilerDriver.Posix.Utility.Edit.Replacing

/-!
# Running editing scripts

The script runs on each line of the input, a cycle for each: a command acts if its selector selects
the line, and at the end of the cycle the pattern space is written.
-/

namespace CompilerDriver.Utility.Edit

open Kernel
open Text (Regex)

/-! ## Selection -/

/-- Ends the editor with a message about its script. -/
def reject {α : Type} (o : Settings) (message : String) : Editing α :=
  does (giveUp o.call 1 ("-e expression #1, char 0: " ++ message))

/-- The pattern that counts: the one that is given, or else the one used last. -/
def patternFor (o : Settings) (p? : Option Pattern) : Editing Pattern := do
  let s ← get
  match p?.orElse fun _ => s.lastPattern with
  | some p =>
      modify fun s => { s with lastPattern := some p }
      return p
  | none => reject o "no previous regular expression"

def holdsAt (o : Settings) (a : Address) : Editing Bool := do
  let s ← get
  match a with
  | .line n => return s.lineNumber == n
  | .every first step =>
      return first ≤ s.lineNumber && (s.lineNumber - first) % step == 0
  | .last => isLastLine o
  | .pattern p? =>
      let p ← patternFor o p?
      return (p.program.find? s.space.toArray true 0).isSome

def inRange (o : Settings) (place : Nat) (first : Address) (last : RangeEnd) : Editing Bool := do
  let s ← get
  let line := s.lineNumber
  let close : Editing Unit :=
    modify fun s => { s with ranges := s.ranges.filter fun r => r.1 != place }
  let openUpTo (n : Option Nat) : Editing Unit :=
    modify fun s => { s with ranges := (place, n) :: s.ranges }
  match s.ranges.lookup place with
  | some (some n) =>
      if n ≤ line then close
      if line ≤ n then return true
      holdsAt o first
  | some none =>
      if let .address a := last then
        if ← holdsAt o a then close
      return true
  | none =>
      if !(← holdsAt o first) then return false
      let upTo (n : Nat) : Editing Unit := if line < n then openUpTo (some n) else pure ()
      match last with
      | .address (.line n) => upTo n
      | .count n => upTo (line + n)
      | .multiple n => upTo (if n = 0 then line else (line / n + 1) * n)
      | .address _ => openUpTo none
      return true

def isSelected (o : Settings) (place : Nat) (selector : Selector) : Editing Bool := do
  let found ←
    match selector.first, selector.last with
    | none, _ => pure true
    | some a, none => holdsAt o a
    | some a, some last => inRange o place a last
  return found != selector.negated

/-! ## Commands -/

/-- Runs a command; gives what it prints. -/
def runCommand (o : Settings) (command : String) : Editing String := do
  match ← does (o.run command) with
  | .ok text => return text
  | .error e => does (giveUp o.call 4 ("error in subprocess: " ++ e.notice))

/-- A text without the delimiter at its end. -/
def withoutEnd (o : Settings) (text : String) : String :=
  if text.endsWith (newline o) then (text.dropEnd 1).toString else text

/-- Runs what is in the pattern space and puts in its place what is printed. -/
def runSpace (o : Settings) : Editing Unit := do
  let s ← get
  let text ← runCommand o (octetsIf o.unicode s.space)
  modify fun s => { s with space := charactersIf o.unicode (withoutEnd o text).toList }

def tellMatch (o : Settings) (text : Array Char) (slots : Regex.Slots) : Editing Unit := do
  let size (place : Nat) : Nat := (octetsIf o.unicode (text.extract 0 place).toList).length
  let lines := (List.range (slots.size / 2)).filterMap fun n =>
    match (slots[2 * n]?).join, (slots[2 * n + 1]?).join with
    | some first, some last => some <| "  regex[" ++ toString n ++ "] = " ++
        toString (size first) ++ "-" ++ toString (size last) ++ " '" ++
        octetsIf o.unicode (text.extract first last).toList ++ "'\n"
    | _, _ => none
  tell o ("MATCHED REGEX REGISTERS\n" ++ String.join lines)

def substitute (o : Settings) (s : Substitution) : Editing Unit := do
  let p ← patternFor o s.pattern
  let groups := s.parts.filterMap (·.group)
  if let some n := groups.find? (p.program.groups < ·) then
    reject o ("invalid reference \\" ++ toString n ++ " on \x60s' command's RHS")
  let e ← get
  let text := e.space.toArray
  if o.explains then
    if let some slots := p.program.find? text true 0 then tellMatch o text slots
  if let some result := replaced? p.program s text then
    modify fun e => { e with space := result, changed := true }
    if s.runs then runSpace o
    if s.prints then emitSpace o
    if let some path := s.file then
      let e ← get
      emit o path e.space
  tellSpace o

/-- An octet as it is listed. -/
def listedOctet (c : Char) : String :=
  let n := c.toNat
  if c = '\\' then "\\\\"
  else if c = '\x08' then "\\b"
  else if 32 ≤ n ∧ n < 127 then String.singleton c
  else
    match visibleOctet c with
    | text => if text.startsWith "\\o" then "\\" ++ String.ofList (octal n) else text

/-- A line in which everything can be seen, broken where it gets too long. -/
def listed (width : Nat) (line : String) : String :=
  let (pieces, _) := line.toList.foldl (fun ((pieces, column) : List String × Nat) c =>
    let piece := listedOctet c
    if 0 < width ∧ width - 1 < column + piece.length then
      (piece :: "\\\n" :: pieces, piece.length)
    else (piece :: pieces, column + piece.length)) ([], 0)
  String.join pieces.reverse ++ "$"

/-- The pattern space up to its first delimiter. -/
def firstPart (o : Settings) (cs : List Char) : List Char := cs.takeWhile (· != delimiter o)

/-- Writes the pattern space up to its first delimiter. -/
def emitFirst (o : Settings) (outlet : String) : Editing Unit := do
  let s ← get
  let first := firstPart o s.space
  set { s with ended := s.ended || first.length < s.space.length }
  emit o outlet first
  modify fun after => { after with ended := s.ended }

/-- Runs a command that only works on the spaces and the output. -/
def runPlain (o : Settings) (action : Action) : Editing Unit := do
  let s ← get
  match action with
  | .append text => modify fun s => { s with queue := s.queue ++ [.text text] }
  | .insert text => emitRaw o text
  | .lineNumber => emitRaw o (toString s.lineNumber ++ newline o)
  | .fileName => emitRaw o (((s.current.map (·.name)).getD "-") ++ newline o)
  | .fetch => do
      modify fun s => { s with space := s.held, ended := s.heldEnded }
      tellHeld o
  | .fetchMore => do
      modify fun s => { s with space := s.space ++ delimiter o :: s.held, ended := s.heldEnded }
      tellSpace o
  | .hold => do
      modify fun s => { s with held := s.space, heldEnded := s.ended }
      tellHeld o
  | .holdMore => do
      modify fun s => { s with held := s.held ++ delimiter o :: s.space, heldEnded := s.ended }
      tellHeld o
  | .exchange => do
      modify fun s => { s with
        space := s.held, ended := s.heldEnded, held := s.space, heldEnded := s.ended }
      tellSpace o
      tellHeld o
  | .run command =>
      if command.isEmpty then runSpace o
      else
        let text ← runCommand o command
        emitRaw o text
  | .list width => emitRaw o (listed (width.getD o.width) (octetsIf o.unicode s.space) ++ newline o)
  | .print => emitSpace o
  | .printFirst => emitFirst o standardOutlet
  | .readFile path => modify fun s => { s with queue := s.queue ++ [.file path] }
  | .readLine path => do
      if let some line ← lineOfFile o path then
        modify fun s => { s with queue := s.queue ++ [.text line] }
  | .write path => emit o path s.space
  | .writeFirst path => emitFirst o path
  | .substitute s => substitute o s
  | .transliterate pairs => do
      modify fun s => { s with space := s.space.map fun c => (pairs.lookup c).getD c }
      tellSpace o
  | .clear => do
      modify fun s => { s with space := [] }
      tellSpace o
  | _ => pure ()

/-! ## Cycles -/

/-- How a cycle ends. -/
inductive Flow where
  | finished
  | deleted
  /-- The next cycle works on what is left of the pattern space. -/
  | again
  | quit (silent : Bool) (status : Nat)
  deriving DecidableEq, Repr, Inhabited

def tellCommand (o : Settings) (c : Command) : Editing Unit := do
  if o.explains then
    let s ← get
    let (text, depth) := c.shown o.unicode s.depth
    modify fun s => { s with depth := depth }
    tell o ("COMMAND: " ++ text)

/-- Runs the commands from a place on. -/
def runFrom (o : Settings) : Nat → Nat → Editing Flow
  | 0, _ => return .finished
  | n + 1, place => do
      does Act.tick
      let some c := o.commands[place]? | return .finished
      let next : Editing Flow := runFrom o n (place + 1)
      tellCommand o c
      if !(← isSelected o place c.selector) then
        match c.action with
        | .blockStart => runFrom o n (blockEnd o.commands (o.commands.size + 1) (place + 1) 0)
        | _ => next
      else
        let s ← get
        match c.action with
        | .branch condition name =>
            let goes := match condition with
              | .always => true
              | .changed => s.changed
              | .unchanged => !s.changed
            if condition ≠ .always then modify fun s => { s with changed := false }
            if goes then runFrom o n ((labelPlace? o.commands name).getD o.commands.size)
            else next
        | .change text =>
            let inside := s.ranges.any fun r => r.1 == place
            if !inside ∨ c.selector.negated then emitRaw o text
            tell o "END-OF-CYCLE:\n"
            return .deleted
        | .delete =>
            tell o "END-OF-CYCLE:\n"
            return .deleted
        | .deleteFirst =>
            let first := firstPart o s.space
            if first.length = s.space.length then return .deleted
            modify fun s => { s with space := s.space.drop (first.length + 1) }
            tellSpace o
            return .again
        | .next =>
            if !(← hasNext o) then return .finished
            if !o.quiet then emitSpace o
            let _ ← readNext o false
            tellSpace o
            next
        | .nextMore =>
            if !(← readNext o true) then return .finished
            tellSpace o
            next
        | .quit silent status => return .quit silent (status.getD 0)
        | action =>
            runPlain o action
            next

/-- Runs cycles until the input ends or a command ends them.  `fresh` asks for a new line. -/
def runCycles (o : Settings) : Nat → Bool → Editing Unit
  | 0, _ => return
  | n + 1, fresh => do
      if fresh then
        if !(← readNext o false) then return
        if o.explains then
          let s ← get
          let name := ((s.current.map (·.name)).getD "-")
          tell o ("INPUT:   '" ++ (if name = "-" then "STDIN" else name) ++ "' line " ++
            toString s.lineNumber ++ "\n")
          tellSpace o
      match ← runFrom o Act.maxTurns 0 with
      | .finished =>
          tell o "END-OF-CYCLE:\n"
          if !o.quiet then emitSpace o
          flushQueue o
          runCycles o n true
      | .deleted =>
          flushQueue o
          runCycles o n true
      | .again =>
          flushQueue o
          runCycles o n false
      | .quit silent status =>
          if !silent then
            if !o.quiet then emitSpace o
            flushQueue o
          let s ← get
          set { s with status := status }
          if let some c := s.current then
            if c.input.descriptor = 0 then does c.input.giveBack

end CompilerDriver.Utility.Edit
