import CompilerDriver.Posix.Utility.Asking
import CompilerDriver.Posix.Utility.Choice
import CompilerDriver.Posix.Utility.Paths

/-!
# Replacing files

What copying, moving and linking have in common: where the files go, what happens to those that
are there already, and under which names these are kept.
-/

namespace CompilerDriver.Utility

open Kernel

/-! ## Sameness -/

/-- Two paths name one thing in one directory. -/
def isSameName (a b : String) : Op Bool := do
  if lastComponent a ≠ lastComponent b then return false
  let above ← Op.status? (directoryOf a)
  let below ← Op.status? (directoryOf b)
  return above.isSome && above.bind Status.node == below.bind Status.node

def isSameFile (a b : Status) : Bool := a.node.isSome && a.node == b.node

/-- Files by the directory and the name under which they have been met. -/
abbrev Met := List (String × Nat)

def Met.contains (met : Met) (path : String) (status : Status) : Op Bool := do
  let same ← met.filterM fun (name, node) =>
    if status.node = some node then isSameName name path else return false
  return !same.isEmpty

def Met.add (met : Met) (path : String) (status : Status) : Met :=
  match status.node with
  | some node => (path, node) :: met
  | none => met

/-! ## Clobbering -/

/-- What to do with a file that is in the way. -/
inductive Clobbering where
  | unspecified
  | always
  | ask
  | never
  deriving DecidableEq, Repr, Inhabited

/-- The last of the options that tell what to do. -/
def clobberingOf (parsed : Parsed) : Clobbering :=
  match parsed.last? "fin" with
  | some 'f' => .always
  | some 'i' => .ask
  | some _ => .never
  | none => .unspecified

def mayOverwrite (call : Call) (path : String) : Act Bool :=
  agrees (call.name ++ ": overwrite " ++ quoteAlways path ++ "? ")

/-! ## Backups -/

/-- How the names of backups are chosen. -/
inductive BackupKind where
  | none
  | simple
  /-- Numbered where there are numbered ones already. -/
  | existing
  | numbered
  deriving DecidableEq, Repr, Inhabited

structure Backups where
  kind : BackupKind := .none
  suffix : String := "~"
  deriving Repr, Inhabited

def Backups.isOn (b : Backups) : Bool := b.kind != .none

def backupWords : List (String × BackupKind) := [
  ("none", .none), ("off", .none), ("simple", .simple), ("never", .simple),
  ("existing", .existing), ("nil", .existing), ("numbered", .numbered), ("t", .numbered)]

/-- The backups that the options ask for: `b` without and `B` with the name of a kind, `S` with a
suffix. -/
def backupsOf (call : Call) (parsed : Parsed) : Act Backups := do
  let suffix := match parsed.value? 'S' with
    | some s => some s
    | none => none
  let setting ← Act.setting? "SIMPLE_BACKUP_SUFFIX"
  let suffix := ((suffix.orElse fun _ => setting).filter fun s =>
    s != "" && !s.toList.contains '/').getD "~"
  if !(parsed.has 'b' || parsed.has 'B' || parsed.has 'S') then return { suffix := suffix }
  let word := ((parsed.options.reverse.find? fun o => o.1 == 'B').map (·.2)).filter (· != "")
  let control := (← Act.setting? "VERSION_CONTROL").filter (· != "")
  let kind ← match word, control with
    | some word, _ => choiceOf call 1 "backup type" backupWords word
    | none, some word => choiceOf call 1 "$VERSION_CONTROL" backupWords word
    | none, none => pure BackupKind.existing
  return { kind := kind, suffix := suffix }

/-- The number in the name of a numbered backup. -/
def backupNumber? (base name : String) : Option Nat :=
  let start := base ++ ".~"
  if name.startsWith start ∧ name.endsWith "~" ∧ start.length + 1 < name.length then
    let digits := (name.toList.drop start.length).dropLast
    if digits.all Char.isDigit then (String.ofList digits).toNat? else none
  else none

/-- The name under which a file is kept. -/
def Backups.nameFor (b : Backups) (path : String) : Op String := do
  let base := lastComponent path
  let names := match ← Op.namesIn (directoryOf path) with
    | .ok names => names
    | .error _ => []
  let last := (names.filterMap (backupNumber? base)).foldl max 0
  let simple := path ++ b.suffix
  return match b.kind with
    | .simple => simple
    | .existing => if last = 0 then simple else path ++ ".~" ++ toString (last + 1) ++ "~"
    | _ => path ++ ".~" ++ toString (last + 1) ++ "~"

/-- Moves a file out of the way; gives its new name. -/
def Backups.keep (b : Backups) (path : String) : Op (Except SystemError String) := do
  let name ← b.nameFor path
  return (← Op.rename path name).map fun _ => name

/-! ## Destinations -/

/-- Where a utility puts its files. -/
structure Destination where
  /-- The directory that they go to, unless there is one file that gets a name of its own. -/
  directory : Option String := none
  sources : List String
  /-- The name of the only file. -/
  target : String := ""
  /-- There is nothing of that name yet. -/
  isNew : Bool := false

/-- The name of a source in a directory. -/
def nameIn (directory source : String) : String :=
  let name := lastComponent source
  if name = "/" then directory else joinPath directory name

/-- Why a path is no directory to put something into. -/
def directoryFault? (path : String) (follows : Bool := true) : Op (Option SystemError) := do
  match ← Op.statusOf path follows with
  | .error e => return some e
  | .ok status => return if status.isDirectory then none else some .notDirectory

/-- Complains about operands that are missing. -/
def checkCount (call : Call) (operands : List String) (least : Nat) : Act Unit := do
  match operands with
  | [] => misuse call 1 "missing file operand"
  | [one] =>
      if 1 < least then
        misuse call 1 ("missing destination file operand after " ++ quoteAlways one)
  | _ => return

/-- The destination of copying or moving: `t` names a directory, and with `T` the last operand is
none. -/
def destinationOf (call : Call) (parsed : Parsed) : Act Destination := do
  let operands := parsed.operands
  let given := (parsed.options.filter fun o => o.1 == 't').map (·.2)
  if 1 < given.length then giveUp call 1 "multiple target directories specified"
  checkCount call operands (if given.isEmpty then 2 else 1)
  if parsed.has 'T' then
    if !given.isEmpty then
      giveUp call 1 "cannot combine --target-directory (-t) and --no-target-directory (-T)"
    if let some extra := operands[2]? then
      misuse call 1 ("extra operand " ++ quoteAlways extra)
    return { sources := operands.take 1, target := operands.getD 1 "" }
  match given with
  | directory :: _ =>
      if let some e ← directoryFault? directory then
        giveUp call 1 ("target directory " ++ quoteAlways directory ++ ": " ++ e.notice)
      return { directory := some directory, sources := operands }
  | [] =>
      let last := operands.getLastD ""
      match ← directoryFault? last with
      | none => return { directory := some last, sources := operands.dropLast }
      | some e =>
          if 2 < operands.length then
            giveUp call 1 ("target " ++ quoteAlways last ++ ": " ++ e.notice)
          return { sources := operands.take 1, target := last, isNew := e == .notFound }

end CompilerDriver.Utility
