import CompilerDriver.Posix.Calendar.Reading
import CompilerDriver.Posix.Kernel.Mode
import CompilerDriver.Posix.Utility.Choice
import CompilerDriver.Posix.Utility.Paths

/-!
# Making files

`mkdir`, `mkfifo`, `mktemp`, `touch` and `link`.
-/

namespace CompilerDriver.Utility

open Kernel

/-! ## Directories -/

/-- The paths of the directories above a path, from the top, each with its last component. -/
def pathsAbove (path : String) : List (String × String) :=
  let cs := path.toList
  let ends := (List.range cs.length).filter fun i =>
    cs[i]? == some '/' && i != 0 && cs[i - 1]? != some '/' &&
      (cs.drop i).any (· != '/')
  ends.map fun i =>
    let above := cs.take i
    (String.ofList above, String.ofList (above.reverse.takeWhile (· != '/')).reverse)

/-- The mode that changes ask for.  While a directory with a further mark is made, only its owner
may write in it, and of the rest only what the changes speak of is set afterwards. -/
def directoryMode (changes : List Mode.Change) (mask : Nat) : Nat :=
  let mode := Mode.adjusted changes true mask Mode.permissions
  let bits := Mode.mentioned changes
  if (bits &&& 0o6000) ||| (mode &&& 0o1000) = 0 then mode
  else (mode &&& Mode.complement (0o6022 ||| bits)) ||| (mode &&& bits)

structure DirectoryStyle where
  parents : Bool
  verbose : Bool
  mode : Option Nat

/-- Makes a directory of which nothing is known yet. -/
def makeDirectory (call : Call) (style : DirectoryStyle) (path : String) : Act Nat := do
  let failure := "cannot create directory " ++ quoteText path
  match ← Op.makeDirectory path with
  | .ok () =>
      if style.verbose then
        Act.printLine (call.name ++ ": created directory " ++ quoteAlways path)
      if let some mode := style.mode then let _ ← Op.setMode path mode
      return 0
  | .error e =>
      if style.parents ∧ e ≠ .notFound ∧ (← Op.isDirectory path) then return 0
      complainOf call failure e
      return 1

/-- Makes the directories above a path that are missing. -/
def makeParents (call : Call) (style : DirectoryStyle) : List (String × String) → Act Bool
  | [] => return true
  | (path, name) :: rest => do
      if isDots name then
        if ← Op.isDirectory path then return ← makeParents call style rest
      let made ← Op.makeDirectory path
      if made.isOk ∧ style.verbose then
        Act.printLine (call.name ++ ": created directory " ++ quoteAlways path)
      let cause : Option SystemError ← match ← Op.statusOf path with
        | .ok status => pure (if status.isDirectory then none else some .notDirectory)
        | .error e =>
            pure (some (match made with
              | .error cause => if e = .notFound then cause else e
              | .ok () => e))
      match cause with
      | none => makeParents call style rest
      | some e =>
          complainOf call ("cannot create directory " ++ quoteText path) e
          return false

def mkdir : Utility := fun call => do
  let parsed ← ({
    flags := "pv", valued := "m"
    named := [("parents", 'p'), ("verbose", 'v'), ("mode", 'm')] } : OptionTable).parse call
  if parsed.operands.isEmpty then missingOperand call 1
  let mode ← match parsed.value? 'm' with
    | none => pure none
    | some text =>
        match Mode.changes? text with
        | none => giveUp call 1 ("invalid mode " ++ quoteText text)
        | some changes => pure (some (directoryMode changes (← Op.self).mask))
  let style : DirectoryStyle :=
    { parents := parsed.has 'p', verbose := parsed.has 'v', mode := mode }
  onEach parsed.operands fun path => do
    if style.parents then
      if !(← makeParents call style (pathsAbove path)) then return 1
    makeDirectory call style path

/-! ## Queues and names -/

def mkfifo : Utility := fun call => do
  let parsed ← ({ flags := "Z", valued := "m", named := [("mode", 'm')] } : OptionTable).parse call
  if parsed.operands.isEmpty then missingOperand call 1
  let mode ← match parsed.value? 'm' with
    | none => pure none
    | some text =>
        match Mode.changes? text with
        | none => giveUp call 1 "invalid mode"
        | some changes =>
            let mode := Mode.adjusted changes false (← Op.self).mask 0o666
            if mode &&& 0o7000 ≠ 0 then giveUp call 1 "mode must specify only file permission bits"
            pure (some mode)
  onEach parsed.operands fun path => do
    match ← Op.makeQueue path with
    | .ok () =>
        if let some mode := mode then let _ ← Op.setMode path mode
        return 0
    | .error e =>
        complainOf call ("cannot create fifo " ++ quoteAlways path) e
        return 1

def link : Utility := fun call => do
  let parsed ← ({} : OptionTable).parse call
  match parsed.operands with
  | [] => missingOperand call 1
  | [one] => missingAfter call 1 one
  | _ :: _ :: extra :: _ => extraOperand call 1 extra
  | [source, path] =>
      match ← Op.link source path with
      | .ok () => return 0
      | .error e =>
          complainOf call
            ("cannot create link " ++ quoteAlways path ++ " to " ++ quoteAlways source) e
          return 1

/-! ## Scratch files -/

def scratchLetters : List Char :=
  "ABCDEFGHIJKLMNOPQRSTUVWXYZabcdefghijklmnopqrstuvwxyz0123456789".toList

/-- Letters that differ from one number to the next. -/
def scratchName : Nat → Nat → List Char
  | 0, _ => []
  | n + 1, k =>
      scratchLetters.getD ((k * 17 + n * 29) % 62) 'A' :: scratchName n (k / 62 + k * 7 + 11)

/-- Makes something under the first free name; gives the path. -/
def makeScratch (marks : Nat) (stem tail : String)
    (make : String → Op (Except SystemError Unit)) :
    Nat → Nat → Act (Except SystemError String)
  | 0, _ => return .error .alreadyExists
  | n + 1, k => do
      let path := stem ++ String.ofList (scratchName marks k) ++ tail
      match ← make path with
      | .ok () => return .ok path
      | .error .alreadyExists => makeScratch marks stem tail make n (k + 1)
      | .error e => return .error e

/-- A template: what is in front of the marks, how many there are, and what is behind them. -/
def readTemplate (call : Call) (template : String) (suffix : Option String) :
    Act (String × Nat × String) := do
  let reversed := template.toList.reverse
  let tail ← match suffix with
    | some suffix =>
        if reversed.head? ≠ some 'X' then
          giveUp call 1 ("with --suffix, template " ++ quoteText template ++ " must end in X")
        pure suffix
    | none =>
        let tail := reversed.takeWhile (· != 'X')
        pure (if tail.length = reversed.length then "" else String.ofList tail.reverse)
  if tail.toList.contains '/' then
    giveUp call 1
      ("invalid suffix " ++ quoteText tail ++ ", contains directory separator")
  let body := if suffix.isSome then reversed else reversed.drop tail.length
  let marks := (body.takeWhile (· == 'X')).length
  if marks < 3 then
    giveUp call 1 ("too few X's in template " ++
      quoteText (if suffix.isSome then template ++ tail else template))
  return (String.ofList (body.drop marks).reverse, marks, tail)

def mktemp : Utility := fun call => do
  let parsed ← ({
    flags := "duqt", valued := "p", valuedNames := "s"
    named := [("directory", 'd'), ("dry-run", 'u'), ("quiet", 'q'), ("suffix", 's'),
      ("tmpdir", 'D')]
    optional := "D" } : OptionTable).parse call
  if 1 < parsed.operands.length then misuse call 1 "too many templates"
  let quiet := parsed.has 'q'
  let refuse {α : Type} (message : String) : Act α := do
    if !quiet then complain call message
    stop 1
  let given := parsed.operands.head?
  let template := given.getD "tmp.XXXXXXXXXX"
  let (stem, marks, tail) ← readTemplate call template (parsed.value? 's')
  let written := template ++ (parsed.value? 's').getD ""
  let inDirectory := parsed.has 'p' || parsed.has 'D' || parsed.has 't' || given.isNone
  let setting := ((← Act.setting? "TMPDIR").filter (· != "")).getD "/tmp"
  let option := ((parsed.options.reverse.find? fun o => o.1 == 'p' || o.1 == 'D').map (·.2)).filter
    (· != "")
  let above ←
    if !inDirectory then pure ""
    else if parsed.has 't' then
      if template.toList.contains '/' then
        refuse ("invalid template, " ++ quoteText written ++ ", contains directory separator")
      pure (((← Act.setting? "TMPDIR").filter (· != "")).getD (option.getD "/tmp"))
    else
      if template.startsWith "/" then
        refuse ("invalid template, " ++ quoteText written ++
          "; with --tmpdir, it may not be absolute")
      pure (option.getD setting)
  let full (name : String) : String := if inDirectory then joinPath above name else name
  let make (path : String) : Op (Except SystemError Unit) := do
    if parsed.has 'u' then return (← Op.freePlace path).map fun _ => ()
    else if parsed.has 'd' then Op.makeDirectory path 0o700
    else
      let access : Access :=
        { readable := true, writable := true, creating := true, exclusive := true, mode := 0o600 }
      match ← Op.startOpen path access with
      | .ok (.done d) =>
          Op.close d
          return .ok ()
      | .ok _ => return .ok ()
      | .error e => return .error e
  let start := (← Op.now).toNat / 1000 + (← Op.pid)
  match ← makeScratch marks (full stem) tail make 100000 start with
  | .ok path =>
      Act.printLine path
      return 0
  | .error e =>
      let kind := if parsed.has 'd' then "directory" else "file"
      refuse ("failed to create " ++ kind ++ " via template " ++ quoteText (full written) ++ ": " ++
        e.notice)

/-! ## Times -/

def timeWords : List (String × Bool) := [
  ("atime", false), ("access", false), ("use", false), ("mtime", true), ("modify", true)]

/-- The time to be set, unless it is the present one. -/
def touchTime (call : Call) (parsed : Parsed) : Act (Option Instant) := do
  let now ← Op.now
  let invalid {α : Type} (text : String) : Act α :=
    giveUp call 1 ("invalid date format " ++ quoteText text)
  let dated ← match parsed.value? 'd' with
    | none => pure none
    | some text =>
        match Calendar.read? now text with
        | some time => pure (some time)
        | none => if parsed.has 'r' then pure none else invalid text
  let stamped ← match parsed.value? 't' with
    | none => pure none
    | some text =>
        match Calendar.readDigits? now text with
        | some time => pure (some time)
        | none => invalid text
  if stamped.isSome ∧ (parsed.has 'r' ∨ dated.isSome) then
    misuse call 1 "cannot specify times from more than one source"
  match parsed.value? 'r' with
  | none => return stamped.orElse fun _ => dated
  | some reference =>
      match ← Op.statusOf reference (!parsed.has 'h') with
      | .error e =>
          giveUp call 1 ("failed to get attributes of " ++ quoteAlways reference ++ ": " ++ e.notice)
      | .ok status =>
          match parsed.value? 'd' with
          | none => return some status.modified
          | some text =>
              match Calendar.read? status.modified text with
              | some time => return some time
              | none => invalid text

/-- Sets the time of a file, which is made if it is not there. -/
def touchOne (call : Call) (parsed : Parsed) (setsModified : Bool) (time : Option Instant)
    (path : String) : Act Nat := do
  if path = "-" then return 0
  let follows := !parsed.has 'h'
  let failure : Option SystemError ←
    if parsed.has 'c' ∨ !follows then pure none
    else
      match ← Op.statusOf path with
      | .ok status => pure (if path.endsWith "/" ∧ status.isDirectory then some .isDirectory else none)
      | .error _ =>
          match ← Act.openPath path { writable := true, creating := true } with
          | .ok d =>
              Op.close d
              pure none
          | .error e => pure (some e)
  let time' ← match time with
    | some time => pure time
    | none => do
        let w ← (get : Op World)
        pure w.stamp
  let result ←
    if setsModified then Op.setModified path time' follows
    else pure ((← Op.statusOf path follows).map fun _ => ())
  match result with
  | .ok () => return 0
  | .error e =>
      match failure with
      | some cause =>
          if cause = .isDirectory then complainOf call ("setting times of " ++ quoteAlways path) e
          else complainOf call ("cannot touch " ++ quoteAlways path) cause
          return 1
      | none =>
          if parsed.has 'c' ∧ e = .notFound then return 0
          complainOf call ("setting times of " ++ quoteAlways path) e
          return 1

def touch : Utility := fun call => do
  let parsed ← ({
    flags := "acmfh", valued := "dtr", valuedNames := "T"
    named := [("no-create", 'c'), ("date", 'd'), ("reference", 'r'), ("no-dereference", 'h'),
      ("time", 'T')] } : OptionTable).parse call
  let words ← (parsed.options.filter fun o => o.1 == 'T').mapM fun o =>
    choiceOf call 1 "--time" timeWords o.2
  let wantsAccess := parsed.has 'a' || words.contains false
  let wantsModified := parsed.has 'm' || words.contains true
  let time ← touchTime call parsed
  if parsed.operands.isEmpty then misuse call 1 "missing file operand"
  onEach parsed.operands (touchOne call parsed (wantsModified || !wantsAccess) time)

end CompilerDriver.Utility
