import CompilerDriver.Posix.Calendar.Reading
import CompilerDriver.Posix.Kernel.Mode
import CompilerDriver.Posix.Kernel.Transfer
import CompilerDriver.Posix.Text.Regex.Reading
import CompilerDriver.Posix.Utility.Basic
import CompilerDriver.Posix.Utility.Finding.Format
import CompilerDriver.Posix.Utility.Finding.Grammar
import CompilerDriver.Text.Split

/-!
# Reading tests and actions

The arguments behind the paths are read one after the other, before anything is looked for.
-/

namespace CompilerDriver.Utility.Finding

open Kernel
open Text (Glob Regex)

structure Settings where
  call : Call
  /-- How far below the paths something is looked for, and from where on. -/
  most : Option Nat := none
  least : Nat := 0
  /-- What is in a directory comes before the directory. -/
  depthFirst : Bool := false
  /-- That has been asked for, and is not only needed. -/
  wantsDepthFirst : Bool := false
  follows : Bool := false
  /-- Links among the paths are followed. -/
  followsStart : Bool := false
  started : Instant
  /-- The time from which ages in days are counted. -/
  dayStart : Instant
  /-- How regular expressions are written. -/
  manner : Text.Regex.Manner := { bareRepeats := true }

structure Reader where
  ahead : List String
  settings : Settings
  /-- What has been read, last first. -/
  items : List Item := []
  /-- The argument that was read last. -/
  last : String := ""
  prints : Bool := true
  deletes : Bool := false
  prunes : Bool := false
  gatherers : Nat := 0
  /-- The files that are written, by their paths. -/
  sinks : List (String × Nat) := []

abbrev Reads := StateT Reader Act

namespace Reads

def does {α : Type} (act : Act α) : Reads α := StateT.lift act

def ask {α : Type} (op : Op α) : Reads α := StateT.lift (liftM op)

/-- Ends the utility with a message. -/
def reject {α : Type} (message : String) : Reads α := do
  let s ← get
  does (giveUp s.settings.call 1 message)

def missing {α : Type} (name : String) : Reads α :=
  reject ("missing argument to " ++ "`" ++ name ++ "'")

def invalid {α : Type} (value name : String) : Reads α :=
  reject ("invalid argument " ++ "`" ++ value ++ "' to " ++ "`" ++ name ++ "'")

def next? : Reads (Option String) :=
  modifyGet fun s => (s.ahead.head?, { s with ahead := s.ahead.drop 1 })

def argument (name : String) : Reads String := do
  match ← next? with
  | some a => return a
  | none => missing name

def push (item : Item) : Reads Unit := modify fun s => { s with items := item :: s.items }

def test (t : Test) : Reads Unit := push (.primary (.test t))

def act (a : Action) : Reads Unit := do
  push (.primary (.action a))
  if a.isTold then modify fun s => { s with prints := false }

def set (f : Settings → Settings) : Reads Unit :=
  modify fun s => { s with settings := f s.settings }

/-! ## Numbers -/

/-- A number that a sign may stand before: a plus asks for more, a minus for less. -/
def comparisonOf (text : String) : Comparison × List Char :=
  match text.toList with
  | '+' :: rest => (.more, rest)
  | '-' :: rest => (.less, rest)
  | cs => (.exactly, cs)

def digitsValue? (cs : List Char) : Option Nat :=
  if cs.isEmpty || !cs.all Char.isDigit then none
  else some (cs.foldl (fun n c => n * 10 + (c.toNat - 48)) 0)

def amount? (text : String) : Option Amount :=
  let (comparison, cs) := comparisonOf text
  (digitsValue? cs).map fun n => ⟨comparison, n⟩

/-- The amount for a property. -/
def amount (name : String) : Reads Amount := do
  match ← next? with
  | none => invalid name name
  | some text =>
      match amount? text with
      | some a => return a
      | none => invalid text name

def depth (name : String) : Reads Nat := do
  let text ← argument name
  match digitsValue? text.toList with
  | some n => return n
  | none =>
      reject ("Expected a positive decimal integer argument to " ++ name ++ ", but got " ++
        quoteText text)

/-- A decimal number of units, in nanoseconds. -/
def duration? (unit : Nat) (cs : List Char) : Option Int := do
  let whole := cs.takeWhile Char.isDigit
  let rest := cs.drop whole.length
  let part ← match rest with
    | [] => some []
    | '.' :: part => if part.all Char.isDigit then some part else none
    | _ => none
  if whole.isEmpty ∧ part.isEmpty then none
  let n ← digitsValue? (whole ++ part)
  return ((n * unit * 1000000000 / Nat.pow 10 part.length : Nat) : Int)

/-- A test on an age in minutes or days. -/
def age (name : String) : Reads Unit := do
  let text ← argument name
  let s ← get
  let (comparison, cs) := comparisonOf text
  let inMinutes := name.endsWith "min"
  let unit := if inMinutes then 60 else 86400
  match duration? unit cs with
  | none => invalid text name
  | some back =>
      let origin :=
        if inMinutes then s.settings.started
        else if comparison = .less then s.settings.dayStart + 86399000000000
        else s.settings.dayStart
      test (.changed comparison (origin - back) unit)

/-! ## Kinds, sizes and permissions -/

def kindsOf? : Char → Option (List Kind)
  | 'b' => some []
  | 'c' => some [.characters]
  | 'd' => some [.directory]
  | 'p' => some [.queue]
  | 'f' => some [.file]
  | 'l' => some [.link]
  | 's' => some [.socket]
  | _ => none

def readKinds (name : String) : Nat → List Char → List Char → List Kind → Reads (List Kind)
  | 0, _, _, kinds => return kinds
  | _ + 1, _, [], kinds => return kinds
  | n + 1, seen, c :: rest, kinds => do
      if c = 'D' then
        reject (name ++ " D is not supported because Solaris doors are not supported on the " ++
          "platform find was compiled on.")
      match kindsOf? c with
      | none => reject ("Unknown argument to " ++ name ++ ": " ++ String.singleton c)
      | some more =>
          if seen.contains c then
            reject ("Duplicate file type '" ++ String.singleton c ++
              "' in the argument list to " ++ name ++ ".")
          match rest with
          | [] => return kinds ++ more
          | [','] =>
              reject ("Last file type in list argument to " ++ name ++
                " is missing, i.e., list is ending on: ','")
          | ',' :: rest => readKinds name n (c :: seen) rest (kinds ++ more)
          | _ => reject ("Must separate multiple arguments to " ++ name ++ " using: ','")

def kinds (name : String) : Reads (List Kind) := do
  let text ← argument name
  if text.isEmpty then
    reject ("Arguments to " ++ name ++ " should contain at least one letter")
  readKinds name text.length [] text.toList []

def size (name : String) : Reads Unit := do
  let text ← argument name
  match text.toList.getLast? with
  | none => reject ("invalid null argument to " ++ name)
  | some last =>
      let units := [('b', 512), ('c', 1), ('w', 2), ('k', 1024), ('M', 1048576), ('G', 1073741824)]
      let (number, unit?) :=
        if last.isDigit then (text, some 512)
        else (String.ofList text.toList.dropLast, units.lookup last)
      match unit?, amount? number with
      | none, _ => reject ("invalid " ++ name ++ " type " ++ "`" ++ String.singleton last ++ "'")
      | some _, none => reject ("Invalid argument " ++ "`" ++ text ++ "' to " ++ name)
      | some unit, some a => test (.size a unit)

def permissions (name : String) : Reads Unit := do
  let text ← argument name
  let (demand, rest) : Demand × String :=
    match text.toList with
    | '-' :: rest => (.all, String.ofList rest)
    | '/' :: rest => (.any, String.ofList rest)
    | _ => (.exactly, text)
  let isOldForm := match text.toList with
    | '+' :: c :: _ => Mode.isOctal c
    | _ => false
  match Mode.changes? rest with
  | none => reject ("invalid mode " ++ quoteText text)
  | some changes =>
      if isOldForm then reject ("invalid mode " ++ quoteText text)
      let file := Mode.adjusted changes false 0 0
      let directory := Mode.adjusted changes true 0 0
      let demand := if demand = .any ∧ file = 0 ∧ directory = 0 then .all else demand
      test (.permissions demand file directory)

/-! ## People -/

/-- The number of a user or a group. -/
def person (what : Property) (name : String) : Reads Unit := do
  let text ← argument name
  let accept (n : Nat) : Reads Unit := test (.property what ⟨.exactly, n⟩)
  if text = "root" then accept 0
  else
    match digitsValue? text.toList, what with
    | some n, _ => accept n
    | none, .owner =>
        if text.isEmpty then reject ("The argument to " ++ name ++ " should not be empty")
        reject (quoteText text ++ " is not the name of a known user")
    | none, _ =>
        if text.isEmpty then
          reject ("argument to " ++ name ++ " is empty, but should be a group name")
        reject (quoteText text ++ " is not the name of an existing group")

/-! ## Other files -/

/-- A file that is named to compare others with. -/
def reference (path : String) : Reads Status := do
  let s ← get
  match ← ask (Op.statusOf path s.settings.follows) with
  | .ok status => return status
  | .error e => reject (quoteText path ++ ": " ++ e.notice)

/-- A test on two times, which the last two letters of its name tell. -/
def newerTimes (name : String) : Reads Unit := do
  let letters := name.toList.drop (name.length - 2)
  let isKnown := letters.all fun c => "aBcmt".toList.contains c
  let refuse : Reads Unit := reject ("invalid predicate " ++ "`" ++ name ++ "'")
  if !isKnown ∨ letters.head? = some 't' then refuse
  match ← next? with
  | none => reject ("The " ++ quoteText name ++ " test needs an argument")
  | some text =>
      if letters.contains 'B' then
        let s ← get
        does (complain s.settings.call
          "This system does not provide a way to find the birth time of a file.")
        refuse
      else if letters.getLast? = some 't' then
        let s ← get
        match Calendar.read? s.settings.started text with
        | some time => test (.newerThan time)
        | none =>
            reject ("I cannot figure out how to interpret " ++ quoteText text ++
              " as a date or time")
      else test (.newerThan (← reference text).modified)

def openSink (path : String) : Reads Sink := do
  if path = "/dev/stdout" then return .output
  if path = "/dev/stderr" then return .errors
  let s ← get
  match s.sinks.lookup path with
  | some descriptor => return .file descriptor
  | none =>
      match ← does (Act.openPath path { writable := true, creating := true, truncating := true }) with
      | .error e => reject (quoteText path ++ ": " ++ e.notice)
      | .ok descriptor =>
          modify fun s => { s with sinks := (path, descriptor) :: s.sinks }
          return .file descriptor

def readPieces (text : String) : Reads (List Piece) := do
  match readFormat text with
  | .error message => reject message
  | .ok (pieces, warnings) =>
      let s ← get
      warnings.forM fun w => does (complain s.settings.call w)
      return pieces

/-! ## Patterns -/

/-- How regular expressions are written, by the names of the ways. -/
def manners : List (String × Regex.Manner) :=
  let emacs : Regex.Manner := { bareRepeats := true }
  let basic : Regex.Manner := {}
  let extended : Regex.Manner := { extended := true }
  let strict : Regex.Manner := { extended := true, strict := true }
  [("findutils-default", emacs), ("ed", basic), ("emacs", emacs), ("gnu-awk", extended),
    ("grep", basic), ("posix-awk", extended), ("awk", extended), ("posix-basic", basic),
    ("posix-egrep", extended), ("egrep", extended), ("posix-extended", strict),
    ("posix-minimal-basic", basic), ("sed", basic)]

def chooseManner (name : String) : Reads Unit := do
  let text ← argument name
  match manners.lookup text with
  | some manner => set fun o => { o with manner := manner }
  | none =>
      let known := ", ".intercalate (manners.map fun m => quoteText m.1)
      reject ("Unknown regular expression type " ++ quoteText text ++ "; valid types are " ++
        known ++ ".")

def regex (name : String) (folded : Bool) : Reads Unit := do
  let text ← argument name
  let s ← get
  match Regex.ofText s.settings.manner (Text.characters text.toList) with
  | .error e =>
      reject ("failed to compile regular expression '" ++ text ++ "': " ++ e.message)
  | .ok r => test (.regex (Regex.compile r { ignoreCase := folded, wide := true }))

/-! ## Commands -/

/-- The search path must not lead to a program in a directory that is being searched. -/
def checkSearchPath (name : String) : Reads Unit := do
  match ← does (Act.setting? "PATH") with
  | none => return
  | some path =>
      for part in Text.splitWhere (· == ':') path.toList do
        if part.isEmpty ∨ part = ['.'] then
          reject ("The current directory is included in the PATH environment variable, which is " ++
            "insecure in combination with the " ++ name ++ " action of find.  Please remove the " ++
            "current directory from your $PATH (that is, remove \".\", doubled colons, or leading " ++
            "or trailing colons)")
        else if part.head? ≠ some '/' then
          reject ("The relative path " ++ quoteText (String.ofList part) ++ " is included in the " ++
            "PATH environment variable, which is insecure in combination with the " ++ name ++
            " action of find.  Please remove that entry from $PATH")

/-- The words up to a semicolon or, if there may be one, to a plus sign behind the mark; and
whether it is the latter. -/
def commandWords (mayGather : Bool) : List String → List String → Option (List String × Bool)
  | [], _ => none
  | w :: rest, words =>
      if w = ";" then some (words.reverse, false)
      else if w = "+" ∧ mayGather ∧ (words.headD "").contains pathMark then
        some (words.reverse, true)
      else commandWords mayGather rest (w :: words)

def command (name : String) (inPlace asks : Bool) : Reads Unit := do
  let s ← get
  if s.ahead.isEmpty then missing name
  if inPlace then checkSearchPath name
  match commandWords (!asks) s.ahead [] with
  | none => missing name
  | some (words, gathers) =>
      if words.isEmpty then invalid ";" name
      modify fun s => { s with ahead := s.ahead.drop (words.length + 1) }
      if !gathers then act (.run ⟨words, none, inPlace, asks⟩)
      else
        let shown := "-exec" ++ (if inPlace then "dir" else "") ++ " ... "
        let marked := words.filter (·.contains pathMark)
        let last := words.getLastD ""
        if 1 < marked.length then
          reject ("Only one instance of \x7b\x7d is supported with " ++ shown ++ "+")
        if last ≠ pathMark then
          reject ("In " ++ quoteText (shown ++ "\x7b\x7d +") ++ " the " ++ quoteText pathMark ++
            " must appear by itself, but you specified " ++ quoteText last)
        let number := s.gatherers
        modify fun s => { s with gatherers := number + 1 }
        act (.run ⟨words.dropLast, some number, inPlace, asks⟩)

/-! ## Primaries -/

def glob (name : String) (make : Glob → Test) : Reads Unit := do
  test (make (Glob.ofText (← argument name)))

/-- An option, which holds of every file. -/
def option (f : Settings → Settings) : Reads Unit := do
  set f
  test (.constant true)

/-- Reads what a name stands for; gives whether there is something. -/
def primary (name bare : String) : Reads Bool := do
  let yes (r : Reads Unit) : Reads Bool := do
    r
    return true
  match bare with
  | "a" | "and" => yes (push (.conjunction name))
  | "o" | "or" => yes (push (.disjunction name))
  | "," => yes (push (.comma name))
  | "!" | "not" => yes (push (.negation name))
  | "(" => yes (push (.opening name))
  | ")" => yes (push .closing)
  | "true" | "noleaf" | "ignore_readdir_race" | "noignore_readdir_race" | "mount" | "xdev" =>
      yes (test (.constant true))
  | "false" | "nouser" | "nogroup" => yes (test (.constant false))
  | "maxdepth" => yes do
      let n ← depth name
      option fun o => { o with most := some n }
  | "mindepth" => yes do
      let n ← depth name
      option fun o => { o with least := n }
  | "depth" | "d" => yes (option fun o => { o with depthFirst := true, wantsDepthFirst := true })
  | "follow" => yes (set fun o => { o with follows := true, followsStart := true })
  | "warn" | "nowarn" => yes (pure ())
  | "daystart" => yes (set fun o =>
      let day : Int := 86400000000000
      { o with dayStart := o.started / day * day })
  | "regextype" => yes (chooseManner name)
  | "name" => yes (glob name (.name · false))
  | "iname" => yes (glob name (.name · true))
  | "path" | "wholename" => yes (glob name (.path · false))
  | "ipath" | "iwholename" => yes (glob name (.path · true))
  | "lname" => yes (glob name (.target · false))
  | "ilname" => yes (glob name (.target · true))
  | "regex" => yes (regex name false)
  | "iregex" => yes (regex name true)
  | "type" => yes do test (.kind (← kinds name) false)
  | "xtype" => yes do test (.kind (← kinds name) true)
  | "size" => yes (size name)
  | "perm" => yes (permissions name)
  | "empty" => yes (test .isEmpty)
  | "links" => yes do test (.property .links (← amount name))
  | "inum" => yes do test (.property .inode (← amount name))
  | "uid" => yes do test (.property .owner (← amount name))
  | "gid" => yes do test (.property .group (← amount name))
  | "user" => yes (person .owner name)
  | "group" => yes (person .group name)
  | "newer" | "anewer" | "cnewer" => yes do
      test (.newerThan (← reference (← argument name)).modified)
  | "mmin" | "amin" | "cmin" | "mtime" | "atime" | "ctime" => yes (age name)
  | "samefile" => yes do test (.sameAs (← reference (← argument name)).node)
  | "readable" | "writable" => yes (test .isPresent)
  | "executable" => yes (test .isExecutable)
  | "fstype" => yes do test (.constant ((← argument name) == "overlay"))
  | "context" => reject "invalid predicate -context: SELinux is not enabled."
  | "print" => yes (act pathLine)
  | "print0" => yes (act (.write .output [.value {} 'p', .text "\x00"]))
  | "fprint" => yes do
      act (.write (← openSink (← argument name)) [.value {} 'p', .text "\n"])
  | "fprint0" => yes do
      act (.write (← openSink (← argument name)) [.value {} 'p', .text "\x00"])
  | "printf" => yes do act (.write .output (← readPieces (← argument name)))
  | "fprintf" => yes do
      let path ← argument name
      let sink ← openSink path
      match ← next? with
      | none => invalid path name
      | some text => act (.write sink (← readPieces text))
  | "ls" => yes (act (.list .output))
  | "fls" => yes do act (.list (← openSink (← argument name)))
  | "exec" => yes (command name false false)
  | "execdir" => yes (command name true false)
  | "ok" => yes (command name false true)
  | "okdir" => yes (command name true true)
  | "prune" => yes do
      act .prune
      modify fun s => { s with prunes := true }
  | "quit" => yes (act .quit)
  | "delete" => yes do
      act .delete
      set fun o => { o with depthFirst := true }
      modify fun s => { s with deletes := true }
  | _ =>
      if bare.startsWith "newer" ∧ bare.length = 7 then yes (newerTimes name)
      else return false

/-! ## Arguments -/

/-- An argument is part of the expression, and not a path.  `leads` tells whether the expression
starts with it. -/
def isExpression (text : String) (leads : Bool) : Bool :=
  match text.toList with
  | '-' :: rest => !rest.isEmpty
  | [')'] | [','] => !leads
  | ['!'] | ['('] => true
  | _ => false

def primaries : Nat → Reads Unit
  | 0 => pure ()
  | n + 1 => do
      match ← next? with
      | none => pure ()
      | some name =>
          let s ← get
          if !isExpression name false then
            does (complain s.settings.call ("paths must precede expression: " ++ "`" ++ name ++ "'"))
            if !s.last.isEmpty ∧ (← ask (Op.exists? name)) then
              does (complain s.settings.call
                ("possible unquoted pattern after predicate " ++ "`" ++ s.last ++ "'?"))
            does (stop 1)
          let bare := if name.startsWith "-" then (name.drop 1).toString else name
          if !(← primary name bare) then reject ("unknown predicate " ++ "`" ++ name ++ "'")
          modify fun s => { s with last := name }
          primaries n

end Reads

end CompilerDriver.Utility.Finding
