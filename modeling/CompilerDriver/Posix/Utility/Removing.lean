import CompilerDriver.Posix.Utility.Asking
import CompilerDriver.Posix.Utility.Choice
import CompilerDriver.Posix.Utility.Paths

/-!
# Removing

`rm`, `rmdir` and `unlink`.  A directory goes after what is in it, and stays if something in it
does.
-/

namespace CompilerDriver.Utility

open Kernel

/-! ## Trees -/

/-- When there are questions before something is removed. -/
inductive Asking where
  | never
  /-- Once, before many files are removed. -/
  | once
  | always
  deriving DecidableEq, Repr, Inhabited

structure RemovalStyle where
  asks : Asking := .never
  asked : Bool := false
  /-- What is not there counts as removed. -/
  forgives : Bool := false
  recursive : Bool := false
  takesEmpty : Bool := false
  verbose : Bool := false
  protectsRoot : Bool := true

/-- What has become of something that was to be removed. -/
inductive Removal where
  | done
  /-- It was to be left alone, but what it is in may go. -/
  | declined
  /-- It was to be left alone as it is, and so is everything that it is in. -/
  | barred
  /-- Something is left of it, and has been complained about. -/
  | failed
  deriving DecidableEq, Repr, Inhabited

def isMissing (e : SystemError) : Bool := e == .notFound || e == .notDirectory

def removeName (call : Call) (style : RemovalStyle) (path : String) (isDirectory : Bool) :
    Act Removal := do
  match ← (if isDirectory then Op.removeDirectory path else Op.unlink path) with
  | .ok () =>
      if style.verbose then
        Act.printLine ((if isDirectory then "removed directory " else "removed ") ++
          quoteAlways path)
      return .done
  | .error e =>
      if style.forgives && isMissing e then return .done
      complainOf call ("cannot remove " ++ quoteAlways path) e
      return .failed

/-- Asks whether something may be removed. -/
def mayRemove (call : Call) (style : RemovalStyle) (path what : String) : Act Bool := do
  if style.asks ≠ .always then return true
  agrees (call.name ++ ": " ++ what ++ " " ++ quoteAlways path ++ "? ")

def isEmptyDirectory (path : String) : Act Bool := do
  match ← Op.namesIn path with
  | .ok names => return names.isEmpty
  | .error _ => return false

/-- Why an operand that is a directory is left alone. -/
def removalRefusal? (style : RemovalStyle) (path : String) (status : Status) :
    Act (List String) := do
  if isDots (lastComponent path) then
    return ["refusing to remove '.' or '..' directory: skipping " ++ quoteAlways path]
  if style.protectsRoot ∧ style.recursive ∧ status.node = some Volume.root then
    let same := if path = "/" then "" else " (same as '/')"
    return ["it is dangerous to operate recursively on " ++ quoteAlways path ++ same,
      "use --no-preserve-root to override this failsafe"]
  return []

/-- Removes what a path names.  `isOperand` tells whether it comes from the command line. -/
def removeTree (call : Call) (style : RemovalStyle) : Nat → Bool → String → Act Removal
  | 0, _, _ => return .failed
  | n + 1, isOperand, path => do
      match ← Op.ownStatus? path with
      | none => removeName call style path false
      | some status =>
          if !status.isDirectory then
            if !(← mayRemove call style path ("remove " ++ kindInWords status)) then
              return .declined
            return ← removeName call style path false
          let isEmpty ← isEmptyDirectory path
          if !style.recursive ∧ !(style.takesEmpty ∧ isEmpty) then
            let e := if style.takesEmpty then SystemError.notEmpty else .isDirectory
            complainOf call ("cannot remove " ++ quoteAlways path) e
            return .failed
          if isOperand then
            let refusal ← removalRefusal? style path status
            for line in refusal do
              complain call line
            if !refusal.isEmpty then return .failed
          if style.asks = .always then
            let what := if isEmpty then "remove directory" else "descend into directory"
            if !(← mayRemove call style path what) then return .barred
            if isEmpty then return ← removeName call style path true
          let names ← match ← Op.namesIn path with
            | .ok names => pure names
            | .error _ => pure []
          let results ← names.mapM fun name => removeTree call style n false (joinPath path name)
          if results.contains .failed then return .failed
          if results.contains .barred then return .barred
          if !(← mayRemove call style path "remove directory") then return .declined
          removeName call style path true

/-- Deeper than any tree. -/
def maxDepth : Nat := 1 <<< 20

/-! ## `rm` -/

/-- A word of advice for a file whose name looks like an option. -/
def hyphenAdvice (call : Call) : Act (Option String) := do
  let candidates ← call.arguments.filterM fun a => do
    if a.startsWith "-" ∧ a ≠ "-" then return (← Op.ownStatus? a).isSome else return false
  return candidates.head?.map fun a =>
    "Try '" ++ call.name ++ " ./" ++ quoteName a ++ "' to remove the file " ++ quoteAlways a ++ ".\n"

def askingWords : List (String × Asking) := [
  ("never", .never), ("no", .never), ("none", .never), ("once", .once), ("always", .always),
  ("yes", .always)]

def removalStyle (call : Call) (options : List (Char × String)) : Act RemovalStyle :=
  options.foldlM (fun style (c, value) => do
    let set (asks : Asking) (style : RemovalStyle) : RemovalStyle :=
      { style with
        asks := asks
        asked := asks == .once
        forgives := style.forgives && asks == .never }
    match c with
    | 'f' => return { set .never style with forgives := true }
    | 'i' => return set .always style
    | 'I' => return set .once style
    | 'w' =>
        if value.isEmpty then return set .always style
        return set (← choiceOf call 1 "--interactive" askingWords value) style
    | 'r' | 'R' => return { style with recursive := true }
    | 'd' => return { style with takesEmpty := true }
    | 'v' => return { style with verbose := true }
    | 'N' => return { style with protectsRoot := false }
    | _ => return style) {}

def rm : Utility := fun call => do
  let advice ← hyphenAdvice call
  let parsed ← ({
    flags := "firRIdv"
    named := [("force", 'f'), ("recursive", 'r'), ("dir", 'd'), ("verbose", 'v'),
      ("interactive", 'w'), ("one-file-system", 'o'), ("preserve-root", 'p'),
      ("no-preserve-root", 'N')]
    optional := "wp", usage := advice.getD "" } : OptionTable).parse call
  if parsed.has 'N' ∧ !call.arguments.contains "--no-preserve-root" then
    giveUp call 1 "you may not abbreviate the --no-preserve-root option"
  let style ← removalStyle call parsed.options
  if parsed.operands.isEmpty then
    if style.forgives then return 0
    missingOperand call 1
  let count := parsed.operands.length
  if style.asked ∧ (style.recursive ∨ 3 < count) then
    let noun := if count = 1 then " argument" else " arguments"
    let ending := if style.recursive then " recursively? " else "? "
    if !(← agrees (call.name ++ ": remove " ++ toString count ++ noun ++ ending)) then return 0
  onEach parsed.operands fun path => do
    let result ← removeTree call style maxDepth true (withOneEndSlash path)
    return if result = .failed then 1 else 0

/-! ## `rmdir` and `unlink` -/

/-- The directories above a path, as they are named there, the last one first. -/
def namedParents (path : String) : List String :=
  let cs := path.toList.reverse
  let rec go : Nat → List Char → List String
    | 0, _ => []
    | n + 1, cs =>
        match cs.dropWhile (· != '/') with
        | [] => []
        | above =>
            let parent := above.dropWhile (· == '/')
            if parent.isEmpty then ["/"] else String.ofList parent.reverse :: go n parent
  go cs.length cs

/-- The path leads through a link at its end, which is why it is no directory to be removed. -/
def isLinkBeforeSlash (path : String) : Act Bool := do
  if !path.endsWith "/" then return false
  let leads ← match ← Op.statusOf path with
    | .ok status => pure status.isDirectory
    | .error e => pure (e != .notDirectory)
  if !leads then return false
  return (← Op.ownStatus? (trimSlashes path)).any fun status => status.kind == .link

def rmdir : Utility := fun call => do
  let parsed ← ({
    flags := "pv"
    named := [("parents", 'p'), ("path", 'p'), ("verbose", 'v'),
      ("ignore-fail-on-non-empty", 'i')] } : OptionTable).parse call
  if parsed.operands.isEmpty then missingOperand call 1
  let tell (path : String) : Act Unit := do
    if parsed.has 'v' then Act.printLine (call.name ++ ": removing directory, " ++ quoteAlways path)
  let isIgnored (e : SystemError) : Bool := parsed.has 'i' && e == .notEmpty
  let rec removeParents : List String → Act Nat
    | [] => return 0
    | path :: rest => do
        tell path
        match ← Op.removeDirectory path with
        | .ok () => removeParents rest
        | .error e =>
            if isIgnored e then return 0
            let what := if e = .notDirectory then "failed to remove " else
              "failed to remove directory "
            complainOf call (what ++ quoteAlways path) e
            return 1
  onEach parsed.operands fun path => do
    tell path
    match ← Op.removeDirectory path with
    | .ok () => if parsed.has 'p' then removeParents (namedParents (trimSlashes path)) else return 0
    | .error e =>
        if isIgnored e then return 0
        let failure := "failed to remove " ++ quoteAlways path
        if e = .notDirectory ∧ (← isLinkBeforeSlash path) then
          complain call (failure ++ ": Symbolic link not followed")
        else complainOf call failure e
        return 1

def unlink : Utility := fun call => do
  let parsed ← ({} : OptionTable).parse call
  match parsed.operands with
  | [] => missingOperand call 1
  | _ :: extra :: _ => extraOperand call 1 extra
  | [path] =>
      match ← Op.unlink path with
      | .ok () => return 0
      | .error e =>
          complainOf call ("cannot unlink " ++ quoteAlways path) e
          return 1

end CompilerDriver.Utility
