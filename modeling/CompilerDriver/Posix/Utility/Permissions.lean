import CompilerDriver.Posix.Kernel.Mode
import CompilerDriver.Posix.Utility.Removing

/-!
# Permissions

`chmod`: the modes of files, and of everything below directories.
-/

namespace CompilerDriver.Utility

open Kernel

/-- How much is told of what is done. -/
inductive Telling where
  | nothing
  | changes
  | everything
  deriving DecidableEq, Repr, Inhabited

structure ModeStyle where
  changes : List Mode.Change
  mask : Nat
  recursive : Bool
  quiet : Bool
  telling : Telling
  /-- The mode looks like an option, so that its effect may be a surprise. -/
  surprises : Bool

def modeInWords (mode : Nat) : String :=
  Mode.octalText 4 mode ++ " (" ++ Mode.letters mode ++ ")"

/-- Changes the mode of what a path leads to. -/
def changeMode (call : Call) (style : ModeStyle) (path : String) (status : Status) :
    Act Nat := do
  let before := status.mode &&& Mode.all
  let after := Mode.adjusted style.changes status.isDirectory style.mask before
  let result ← Op.setMode path after
  if let .error e := result then
    if !style.quiet then complainOf call ("changing permissions of " ++ quoteAlways path) e
  let changed := result.isOk && before != after
  let span := " from " ++ modeInWords before ++ " to " ++ modeInWords after
  if style.telling = .everything ∨ (changed ∧ style.telling = .changes) then
    Act.printLine (
      if !result.isOk then "failed to change mode of " ++ quoteAlways path ++ span
      else if changed then "mode of " ++ quoteAlways path ++ " changed" ++ span
      else "mode of " ++ quoteAlways path ++ " retained as " ++ modeInWords after)
  if !result.isOk then return 1
  let expected := Mode.adjusted style.changes status.isDirectory 0 before
  if style.surprises ∧ after &&& Mode.complement expected ≠ 0 then
    complain call (quoteName path ++ ": new permissions are " ++ Mode.letters after ++ ", not " ++
      Mode.letters expected)
    return 1
  return 0

/-- Changes the mode of a file and, if that is asked for, of everything below it. -/
def changeModes (call : Call) (style : ModeStyle) : Nat → Bool → String → Act Nat
  | 0, _, _ => return 1
  | n + 1, isOperand, path => do
      match ← Op.statusOf path isOperand with
      | .error e =>
          if !style.quiet then
            let dangles := (← Op.ownStatus? path).isSome && isOperand
            if dangles then complain call ("cannot operate on dangling symlink " ++ quoteAlways path)
            else complainOf call ("cannot access " ++ quoteAlways path) e
          if style.telling = .everything then
            Act.printLine (quoteAlways path ++ " could not be accessed")
          return 1
      | .ok status =>
          if status.kind = .link then
            if style.telling = .everything then
              Act.printLine ("neither symbolic link " ++ quoteAlways path ++
                " nor referent has been changed")
            return 0
          let result ← changeMode call style path status
          if !style.recursive ∨ !status.isDirectory then return result
          match ← Op.namesIn path with
          | .error _ => return result
          | .ok names =>
              return max result (← onEach names fun name =>
                changeModes call style n false (joinPath path name))

/-- An argument that is a mode though it starts as an option does. -/
def isModeOption (argument : String) : Bool :=
  match argument.toList with
  | '-' :: c :: _ => "rwxXstugoa,+=01234567".toList.contains c
  | _ => false

/-- The modes among the arguments, up to the end of options, and all other arguments. -/
def takeModes : List String → List String × List String
  | [] => ([], [])
  | "--" :: rest => ([], "--" :: rest)
  | a :: rest =>
      let (modes, others) := takeModes rest
      if isModeOption a then (a :: modes, others) else (modes, a :: others)

def chmod : Utility := fun call => do
  let (modes, others) := takeModes call.arguments
  let parsed ← ({
    flags := "Rvcf", valuedNames := "="
    named := [("recursive", 'R'), ("verbose", 'v'), ("changes", 'c'), ("silent", 'f'),
      ("quiet", 'f'), ("reference", '='), ("preserve-root", 'p'), ("no-preserve-root", 'N')] }
      : OptionTable).parse { call with arguments := others }
  let reference := parsed.value? '='
  let given := if modes.isEmpty then none else some (",".intercalate modes)
  if reference.isSome ∧ given.isSome then
    misuse call 1 "cannot combine mode and --reference options"
  let (mode, paths) :=
    if reference.isSome then (none, parsed.operands)
    else
      match given with
      | some mode => (some mode, parsed.operands)
      | none => (parsed.operands.head?, parsed.operands.drop 1)
  if paths.isEmpty then
    match mode, given with
    | some mode, none => missingAfter call 1 mode
    | _, _ => missingOperand call 1
  let changes ← match reference, mode with
    | some reference, _ =>
        match ← Op.statusOf reference with
        | .ok status =>
            let change : Mode.Change :=
              { operator := '=', affected := Mode.all, value := status.mode &&& Mode.all
                mentioned := Mode.all }
            pure [change]
        | .error e =>
            giveUp call 1
              ("failed to get attributes of " ++ quoteAlways reference ++ ": " ++ e.notice)
    | none, some mode =>
        match Mode.changes? mode with
        | some changes => pure changes
        | none => misuse call 1 ("invalid mode: " ++ quoteText mode)
    | none, none => missingOperand call 1
  let style : ModeStyle := {
    changes := changes
    mask := (← Op.self).mask
    recursive := parsed.has 'R'
    quiet := parsed.has 'f'
    telling := match parsed.last? "vc" with
      | some 'v' => .everything
      | some _ => .changes
      | none => .nothing
    surprises := given.isSome }
  onEach paths fun path => do
    if style.recursive ∧ !parsed.has 'N' ∧ parsed.has 'p' ∧
        (← Op.status? path).any fun status => status.node == some Volume.root then
      complain call ("it is dangerous to operate recursively on " ++ quoteAlways path)
      complain call "use --no-preserve-root to override this failsafe"
      return 1
    changeModes call style maxDepth true (withOneEndSlash path)

end CompilerDriver.Utility
