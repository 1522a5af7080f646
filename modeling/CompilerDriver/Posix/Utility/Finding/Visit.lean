import CompilerDriver.Posix.Calendar.Format
import CompilerDriver.Posix.Utility.Asking
import CompilerDriver.Posix.Utility.Children
import CompilerDriver.Posix.Utility.Finding.Primary
import CompilerDriver.Posix.Utility.Listing.Layout
import CompilerDriver.Posix.Utility.Paths

/-!
# Visiting files

A path is visited with all that is below it, a directory before what is in it or after that.  At
each visit the expression is evaluated.
-/

namespace CompilerDriver.Utility.Finding

open Kernel
open Text (Glob Regex)

/-- What is visited. -/
structure Entry where
  path : String
  /-- The path below which it has been found. -/
  start : String
  depth : Nat
  status : Status

/-- Paths for a program that gets many at once, last first, and where it runs. -/
structure Gathered where
  command : Command
  directory : String
  paths : List String
  size : Nat

structure Progress where
  status : Nat := 0
  /-- What is in the directory at hand is not visited. -/
  skips : Bool := false
  /-- The depth of the last visit. -/
  depth : Nat := 0
  gathered : List (Nat × Gathered) := []
  /-- What has been written into files, last first. -/
  written : List (Nat × String) := []

structure Plan where
  settings : Settings
  expression : Expression
  environment : List (String × String)
  unicode : Bool

abbrev Searching := StateT Progress Act

def does {α : Type} (act : Act α) : Searching α := StateT.lift act

def ask {α : Type} (op : Op α) : Searching α := StateT.lift (liftM op)

def fail : Searching Unit := modify fun s => { s with status := 1 }

def report (plan : Plan) (message : String) : Searching Unit :=
  does (complain plan.settings.call message)

/-- The last component of a path, with a slash that ends it. -/
def lastPart (path : String) : String :=
  if (trimSlashes path) = "/" then "/"
  else lastComponent path ++ if path.endsWith "/" then "/" else ""

/-- What stands before the last slash of a path. -/
def beforeSlash (path : String) : String :=
  let above := path.toList.reverse.dropWhile (· != '/')
  if above.isEmpty then "." else String.ofList (above.drop 1).reverse

/-- A path as it is seen from where it was found. -/
def belowStart (e : Entry) : String :=
  let cs := e.path.toList.drop e.start.length
  String.ofList (if cs.head? = some '/' then cs.drop 1 else cs)

/-! ## Values -/

def behind (e : Entry) : Op (Except SystemError Status) :=
  if e.status.kind = .link then Op.statusOf e.path else return .ok e.status

def personText (id : Nat) : String := if id = 0 then "root" else toString id

def kindText (k : Kind) : String :=
  match k with
  | .file => "f"
  | k => String.singleton (Listing.kindLetter k)

def linkText (e : Entry) : Op String := do
  if e.status.kind ≠ .link then return ""
  match ← Op.readLink e.path with
  | .ok target => return target
  | .error _ => return ""

def valueText (e : Entry) (d : Text.Directive) (letter : Char) : Op String := do
  let text (s : String) : Op String := return d.text s
  let number (n : Nat) : Op String := text (toString n)
  let s := e.status
  let blocks := Listing.allocated s
  match letter with
  | 'b' => number (blocks / 512)
  | 'k' => number (blocks / 1024)
  | 'd' => return d.decimal e.depth
  | 'D' => number 1
  | 'f' => text (lastPart e.path)
  | 'F' => text "overlay"
  | 'g' => text (personText s.group)
  | 'G' => number s.group
  | 'h' => text (beforeSlash e.path)
  | 'H' => text e.start
  | 'i' => number (s.node.getD 0 + 1)
  | 'l' => text (← linkText e)
  | 'm' => return { d with conversion := 'o' }.unsigned s.mode
  | 'M' => text (String.singleton (Listing.kindLetter s.kind) ++ Mode.letters s.mode)
  | 'n' => number s.links
  | 'p' => text e.path
  | 'P' => text (belowStart e)
  | 's' => number s.size
  | 'S' =>
      text (if s.size = 0 then "1" else Text.Directive.general blocks s.size 6 false)
  | 'u' => text (personText s.owner)
  | 'U' => number s.owner
  | 'y' => text (kindText s.kind)
  | 'Y' =>
      match ← behind e with
      | .ok status => text (kindText status.kind)
      | .error .notFound | .error .notDirectory => text "N"
      | .error .tooManyLinks => text "L"
      | .error _ => text "?"
  | _ => return ""

/-- The seconds and nanoseconds of a time, the latter in ten digits. -/
def withFraction (text : String) (m : Calendar.Moment) : String :=
  let digits := toString m.nanosecond
  text ++ "." ++ String.ofList (List.replicate (9 - digits.length) '0') ++ digits ++ "0"

def timeText (time : Instant) (format : Char) : String :=
  let m := Calendar.Moment.ofInstant time
  let text (s : String) : String := Calendar.format "UTC" s m
  match format with
  | ' ' => withFraction (text "%a %b %e %H:%M:%S") m ++ text " %Y"
  | '@' => withFraction (text "%s") m
  | '+' => withFraction (text "%F+%T") m
  | 'S' | 'T' | 'X' => withFraction (text ("%" ++ String.singleton format)) m
  | c => text ("%" ++ String.singleton c)

/-- The text that a format gives for an entry. -/
def formatted (e : Entry) : List Piece → Op String
  | [] => return ""
  | .text s :: rest => return s ++ (← formatted e rest)
  | .value d letter :: rest => return (← valueText e d letter) ++ (← formatted e rest)
  | .time d format :: rest =>
      return d.text (timeText e.status.modified format) ++ (← formatted e rest)
  | .stop :: _ => return ""

/-- A line about an entry with all that is known of it. -/
def listLine (now : Instant) (e : Entry) : Op String := do
  let s := e.status
  let front (width : Nat) (text : String) : String := Listing.padFront width text ++ " "
  let back (width : Nat) (text : String) : String := Listing.padRight width text ++ " "
  let shown (name : String) : String := NameStyle.escaped.apply [' ', '"'] name
  let target ← linkText e
  let link := if s.kind = .link then " -> " ++ shown target else ""
  return front 9 (toString (s.node.getD 0 + 1)) ++
    front 6 (toString (Listing.allocated s / 1024)) ++
    String.singleton (Listing.kindLetter s.kind) ++ Mode.letters s.mode ++ " " ++
    front 3 (toString s.links) ++ back 8 (personText s.owner) ++ back 8 (personText s.group) ++
    front 8 (toString s.size) ++ Listing.timeText {} now s.modified ++ " " ++ shown e.path ++
    link ++ "\n"

/-! ## Tests -/

def hasPermissions (demand : Demand) (wanted mode : Nat) : Bool :=
  match demand with
  | .exactly => mode &&& Mode.all == wanted
  | .all => mode &&& wanted == wanted
  | .any => mode &&& wanted != 0

def propertyOf (p : Property) (s : Status) : Nat :=
  match p with
  | .links => s.links
  | .inode => s.node.getD 0 + 1
  | .owner => s.owner
  | .group => s.group

def holds (plan : Plan) (e : Entry) (t : Test) : Op Bool := do
  let s := e.status
  match t with
  | .constant value => return value
  | .name p folded => return p.matchesText (lastComponent e.path) folded
  | .path p folded => return p.matchesText e.path folded
  | .regex p =>
      let text := (Text.characters e.path.toList).toArray
      return (p.matchAt text true 0).any fun slots => Regex.endOf slots == text.size
  | .target p folded =>
      match ← Op.ownStatus? e.path with
      | some own =>
          if own.kind ≠ .link then return false
          match ← Op.readLink e.path with
          | .ok target => return p.matchesText target folded
          | .error _ => return false
      | none => return false
  | .kind kinds false => return kinds.contains s.kind
  | .kind kinds true =>
      let other ← if plan.settings.follows then Op.ownStatus? e.path else
        return ((← behind e).toOption.map fun o => kinds.contains o.kind).getD
          (kinds.contains s.kind)
      return other.any fun o => kinds.contains o.kind
  | .permissions demand file directory =>
      return hasPermissions demand (if s.isDirectory then directory else file) s.mode
  | .size amount unit => return amount.holds ((s.size + unit - 1) / unit)
  | .isEmpty =>
      if s.isDirectory then
        match ← Op.namesIn e.path with
        | .ok names => return names.isEmpty
        | .error _ => return false
      else return s.isFile && s.size == 0
  | .property p amount => return amount.holds (propertyOf p s)
  | .newerThan time => return decide (time < s.modified)
  | .changed comparison time window =>
      return match comparison with
        | .less => decide (time < s.modified)
        | .more => decide (s.modified < time)
        | .exactly =>
            let since := s.modified - time
            decide (0 < since) && decide (since ≤ (window * 1000000000 : Nat))
  | .sameAs node => return node.isSome && s.node == node
  | .isPresent => return (← behind e).toOption.isSome
  | .isExecutable => return (← behind e).toOption.any fun o => o.isDirectory || o.isExecutable

/-! ## Actions -/

def writeTo (sink : Sink) (text : String) : Searching Unit := do
  match sink with
  | .output => does (Act.print text)
  | .errors => does do
      let _ ← Act.flush
      Act.printError text
  | .file descriptor => modify fun s => { s with written := (descriptor, text) :: s.written }

section

variable (programs : Programs)

/-- Runs a command in a directory and waits for it.  The end of a command that gets many paths
shows in the status. -/
def runIn (plan : Plan) (c : Command) (directory : String) (words : List String) :
    Searching Bool := do
  let shown := quoteText (words.headD "")
  let shown := if plan.unicode then shown else inPlainText shown
  let name := plan.settings.call.name
  let body : Kernel.Act Empty Unit Termination := do
    if c.asks then call do
      Op.close 0
      let _ ← Op.startOpen "/dev/null" { readable := true }
      Op.move 0 0
    if directory ≠ "." then call do let _ ← Op.changeDirectory directory
    match ← findProgram plan.environment words with
    | .ok found => enter programs plan.environment found
    | .error e =>
        Act.printError (name ++ ": " ++ shown ++ ": " ++ e.notice ++ "\n")
        return .exit 1
  let _ ← does Act.flush
  let pid ← does (Act.fork body)
  match ← does (Act.waitFor (· == pid)) with
  | .ok (_, .exit 0) => return true
  | .ok (_, .exit _) | .error _ =>
      if c.gathers.isSome then fail
      return false
  | .ok (_, .signal n) =>
      report plan (quoteText (words.headD "") ++ " terminated by signal " ++ toString n)
      if c.gathers.isSome then fail
      return false
where
  call (op : Op Unit) : Kernel.Act Empty Unit Unit := liftM op

/-- Runs the commands for which paths have been gathered. -/
def runGathered (plan : Plan) (which : Gathered → Bool) : Searching Unit := do
  let s ← get
  let (now, later) := s.gathered.partition fun g => which g.2
  set { s with gathered := later }
  (now.mergeSort fun a b => Nat.ble a.1 b.1).forM fun (_, g) => do
    let _ ← runIn programs plan g.command g.directory (g.command.words ++ g.paths.reverse)

/-- The most octets of the words of a command for which paths are gathered. -/
def maxCommandSize : Nat := 131072 - 2048

/-- Gathers a path for a command. -/
def gather (plan : Plan) (number : Nat) (c : Command) (directory path : String) :
    Searching Unit := do
  let empty : Gathered :=
    ⟨c, directory, [], (c.words.map fun w => w.length + 1).foldl (· + ·) 0⟩
  let size := path.length + 1
  let s ← get
  if let some g := s.gathered.lookup number then
    if maxCommandSize < g.size + size ∨ g.directory ≠ directory then
      runGathered programs plan fun other => other.command.gathers == some number
  let s ← get
  let g := (s.gathered.lookup number).getD empty
  let g := { g with paths := path :: g.paths, size := g.size + size }
  set { s with gathered := (number, g) :: s.gathered.filter fun o => o.1 != number }

/-- A word with a path in place of each mark. -/
def replaceMarks (path word : String) : String := path.intercalate (word.splitOn pathMark)

def runFor (plan : Plan) (c : Command) (e : Entry) : Searching Bool := do
  if c.asks then
    let question := "< " ++ c.words.headD "" ++ " ... " ++ e.path ++ " > ? "
    let _ ← does Act.flush
    if !(← does (agrees question)) then return false
  let base := lastPart e.path
  let (directory, path) :=
    if !c.inPlace then (".", e.path)
    else (directoryOf e.path, if base.startsWith "/" then base else "./" ++ base)
  match c.gathers with
  | some number =>
      gather programs plan number c directory path
      return true
  | none => runIn programs plan c directory (c.words.map (replaceMarks path))

def delete (plan : Plan) (e : Entry) : Searching Bool := do
  if e.path = "." then return true
  let removal := if e.status.isDirectory then Op.removeDirectory e.path else Op.unlink e.path
  match ← ask removal with
  | .ok _ => return true
  | .error cause =>
      report plan ("cannot delete " ++ quoteText e.path ++ ": " ++ cause.notice)
      fail
      return false

/-- What is left to do before the utility ends. -/
def finishAll (plan : Plan) : Searching Unit := do
  runGathered programs plan fun _ => true
  let s ← get
  let _ ← does Act.flush
  s.written.reverse.forM fun (descriptor, text) => does do let _ ← Act.write descriptor text
  set { s with written := [] }

def perform (plan : Plan) (e : Entry) (a : Action) : Searching Bool := do
  match a with
  | .write sink format =>
      writeTo sink (← ask (formatted e format))
      return true
  | .list sink =>
      writeTo sink (← ask (listLine plan.settings.started e))
      return true
  | .run c => runFor programs plan c e
  | .delete => delete plan e
  | .prune =>
      if !plan.settings.depthFirst then modify fun s => { s with skips := true }
      return true
  | .quit =>
      finishAll programs plan
      does (stop (← get).status)

def evaluate (plan : Plan) (e : Entry) : Expression → Searching Bool
  | .test t => ask (holds plan e t)
  | .action a => perform programs plan e a
  | .negation a => return !(← evaluate plan e a)
  | .conjunction a b => do
      if ← evaluate plan e a then evaluate plan e b else return false
  | .disjunction a b => do
      if ← evaluate plan e a then return true else evaluate plan e b
  | .sequence a b => do
      let _ ← evaluate plan e a
      evaluate plan e b

/-! ## Visits -/

/-- Programs that run in a directory get their paths before another depth is reached. -/
def arrive (plan : Plan) (depth : Nat) : Searching Unit := do
  let s ← get
  if s.depth ≠ depth then
    runGathered programs plan fun g => g.command.inPlace
    modify fun s => { s with depth := depth }

def consider (plan : Plan) (e : Entry) : Searching Unit := do
  if plan.settings.least ≤ e.depth then
    let _ ← evaluate programs plan e plan.expression

/-- What is at a path.  A link that leads nowhere is taken for itself. -/
def look (follows : Bool) (path : String) : Op (Except SystemError Status) := do
  if follows then
    match ← Op.statusOf path with
    | .ok s => return .ok s
    | .error _ => Op.statusOf path false
  else Op.statusOf path false

/-- Visits an entry and what is below it.  `above` holds the directories on the way. -/
def visit (plan : Plan) : Nat → List (Nat × String) → Entry → Searching Unit
  | 0, _, _ => pure ()
  | n + 1, above, e => do
      let o := plan.settings
      arrive programs plan e.depth
      if !e.status.isDirectory then consider programs plan e
      else
        match e.status.node.bind fun n => above.lookup n with
        | some path =>
            report plan ("File system loop detected; " ++ quoteText e.path ++
              " is part of the same file system loop as " ++ quoteText path ++ ".")
            fail
        | none =>
            modify fun s => { s with skips := false }
            if !o.depthFirst then consider programs plan e
            let s ← get
            if !(s.skips ∨ o.most.any (· ≤ e.depth)) then
              let above := (e.status.node.toList.map fun n => (n, e.path)) ++ above
              match ← ask (Op.namesIn e.path) with
              | .error cause =>
                  report plan (quoteText e.path ++ ": " ++ cause.notice)
                  fail
              | .ok names =>
                  let entries ← names.filterMapM fun name => do
                    let path := joinPath e.path name
                    match ← ask (look o.follows path) with
                    | .ok status => return some ⟨path, e.start, e.depth + 1, status⟩
                    | .error _ => return none
                  entries.forM fun child => do
                    match ← ask (look o.follows child.path) with
                    | .ok status => visit plan n above { child with status := status }
                    | .error _ => visit plan n above child
            arrive programs plan e.depth
            if o.depthFirst then consider programs plan e

/-- Visits a path that is given and all below it. -/
def visitStart (plan : Plan) (path : String) : Searching Unit := do
  let o := plan.settings
  match ← ask (look (o.follows || o.followsStart) path) with
  | .ok status => visit programs plan (Volume.maxPathLength + 1) [] ⟨path, path, 0, status⟩
  | .error e =>
      report plan (quoteText path ++ ": " ++ e.notice)
      fail

end

end CompilerDriver.Utility.Finding
