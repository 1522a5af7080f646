import CompilerDriver.Posix.Utility.Names
import CompilerDriver.Posix.Utility.Removing
import CompilerDriver.Posix.Utility.Replacing

/-!
# Moving

`mv`: gives files other names.
-/

namespace CompilerDriver.Utility

open Kernel

namespace Moving

structure MoveStyle where
  clobbering : Clobbering
  updates : Bool
  verbose : Bool
  backups : Backups

/-- Moves a name to one that is free. -/
def renameToFree (source target : String) : Op (Except SystemError Unit) := do
  let last := lastComponent source
  let isThere := (← Op.ownStatus? (Op.withoutEndSlashes source)).isSome
  let isTaken := (← Op.ownStatus? (Op.withoutEndSlashes target)).isSome
  if isThere ∧ isTaken ∧ !isDots last then return .error .alreadyExists
  Op.rename source target

/-- Whether a file may be moved to where another one is. -/
def mayTakePlace (backups : Backups) (source target : String) (from' to' : Status) : Act Bool := do
  let same := isSameFile from' to'
  let isLink (s : Status) : Bool := s.kind == .link
  let sameName ← isSameName source target
  if isLink from' ∧ isLink to' then
    if sameName then return false
    return backups.isOn || !same
  if backups.isOn then return !(same && sameName)
  if isLink to' then return true
  if same ∧ 1 < to'.links ∧ !sameName then return false
  if !isLink from' then return !same
  if 1 < to'.links then
    if let .ok path ← canonicalPath .all true source then
      return !(← isSameName path target)
  match ← Op.status? source with
  | none => return true
  | some behind => return !isSameFile behind to'

def tell (style : MoveStyle) (source target : String) (backup : Option String) : Act Unit := do
  if style.verbose then
    let note := match backup with
      | some name => " (backup: " ++ quoteAlways name ++ ")"
      | none => ""
    Act.printLine ("renamed " ++ quoteAlways source ++ " -> " ++ quoteAlways target ++ note)

/-- Sees to what is in the way.  Gives the status if nothing more is to be done, or the name of
the backup. -/
def clearTheWay (call : Call) (style : MoveStyle) (source target : String) (status old : Status)
    (isJustMade : Bool) : Act (Except Nat (Option String)) := do
  let refuse (message : String) : Act (Except Nat (Option String)) := do
    complain call message
    return .error 1
  if style.clobbering = .never then return .error 0
  if !(← mayTakePlace style.backups source target status old) then
    return ← refuse (quoteAlways source ++ " and " ++ quoteAlways target ++ " are the same file")
  if style.updates ∧ !status.isDirectory ∧ status.modified ≤ old.modified then return .error 0
  if style.clobbering = .ask then
    if !(← mayOverwrite call target) then return .error 0
  if !old.isDirectory then
    if status.isDirectory ∧ !style.backups.isOn then
      return ← refuse ("cannot overwrite non-directory " ++ quoteAlways target ++
        " with directory " ++ quoteAlways source)
    if isJustMade ∧ style.backups.kind ≠ .numbered then
      return ← refuse ("will not overwrite just-created " ++ quoteAlways target ++ " with " ++
        quoteAlways source)
  else if !status.isDirectory ∧ !style.backups.isOn then
    return ← refuse ("cannot overwrite directory " ++ quoteAlways target ++
      " with non-directory")
  if style.backups.isOn ∧ !isDots (lastComponent source) then
    if style.backups.kind ≠ .numbered ∧
        lastComponent source = lastComponent target ++ style.backups.suffix then
      let kept ← Op.status? (target ++ style.backups.suffix)
      if kept.any (isSameFile status) then
        return ← refuse ("backing up " ++ quoteAlways target ++
          " might destroy source;  " ++ quoteAlways source ++ " not moved")
    match ← style.backups.keep target with
    | .ok name => return .ok (some name)
    | .error .notFound => return .ok none
    | .error e => return ← refuse ("cannot backup " ++ quoteAlways target ++ ": " ++ e.notice)
  return .ok none

/-- Moves one file.  `attempt` is why it could not be moved to a free name, if that has been tried;
gives the status, and the files made so far. -/
def moveOne (call : Call) (style : MoveStyle) (attempt : Option SystemError) (isLast : Bool)
    (made : Met) (source target : String) : Act (Nat × Met) := do
  let failWith (message : String) : Act (Nat × Met) := do
    complain call message
    return (1, made)
  let succeed (backup : Option String) : Act (Nat × Met) := do
    tell style source target backup
    if isLast then return (0, made)
    match ← Op.ownStatus? target with
    | some own => return (0, made.add target own)
    | none => return (0, made)
  let first ← match attempt with
    | some e => pure (Except.error e)
    | none => do
        let result ← renameToFree source target
        pure result
  match first with
  | .ok () => succeed none
  | .error e =>
      if e = .alreadyExists ∧ style.clobbering = .never then return (0, made)
      match ← Op.statusOf source false with
      | .error e => failWith ("cannot stat " ++ quoteAlways source ++ ": " ++ e.notice)
      | .ok status =>
          let settled ← match ← Op.statusOf target false with
            | .ok old => do
                let isJustMade ← if old.isDirectory then pure false else
                  (do let found ← made.contains target old; pure found)
                clearTheWay call style source target status old isJustMade
            | .error .notFound => pure (.ok none)
            | .error e => do
                complain call ("cannot stat " ++ quoteAlways target ++ ": " ++ e.notice)
                pure (.error 1)
          match settled with
          | .error result => return (result, made)
          | .ok backup =>
              let again : Op (Except SystemError Unit) :=
                if e = .alreadyExists then Op.rename source target else return .error e
              match ← again with
              | .ok () => succeed backup
              | .error .invalidArgument =>
                  failWith ("cannot move " ++ quoteAlways source ++
                    " to a subdirectory of itself, " ++ quoteAlways target)
              | .error e =>
                  failWith ("cannot move " ++ quoteAlways source ++ " to " ++ quoteAlways target ++
                    ": " ++ e.notice)

end Moving

def mv : Utility := fun call => do
  let parsed ← ({
    flags := "bfinuvTZ", valued := "tS"
    named := [("force", 'f'), ("interactive", 'i'), ("no-clobber", 'n'), ("update", 'u'),
      ("verbose", 'v'), ("no-target-directory", 'T'), ("target-directory", 't'),
      ("backup", 'B'), ("suffix", 'S'), ("strip-trailing-slashes", '\\'), ("context", 'Z')]
    optional := "B" } : OptionTable).parse call
  let clobbering := clobberingOf parsed
  let backups ← backupsOf call parsed
  if clobbering = .never ∧ backups.isOn then
    misuse call 1 "options --backup and --no-clobber are mutually exclusive"
  let style : Moving.MoveStyle := {
    clobbering := clobbering
    updates := parsed.has 'u' && clobbering != .never
    verbose := parsed.has 'v'
    backups := backups }
  let strip (source : String) : String := if parsed.has '\\' then trimSlashes source else source
  let given := parsed.options.any fun o => o.1 == 't' || o.1 == 'T'
  if let (false, [source, target]) := (given, parsed.operands) then
    match ← Moving.renameToFree source target with
    | .ok () =>
        Moving.tell style source target none
        return 0
    | .error e =>
        if (← directoryFault? target).isSome then
          return (← Moving.moveOne call style (some e) true [] (strip source) target).1
  let destination ← destinationOf call parsed
  match destination.directory with
  | some directory =>
      let count := destination.sources.length
      let (status, _) ← destination.sources.zipIdx.foldlM
        (fun ((status, made) : Nat × Met) (source, i) => do
          let source := strip source
          let (result, made') ← Moving.moveOne call style none (i + 1 == count) made source
            (nameIn directory source)
          return (max status result, if 2 ≤ count then made' else [])) (0, [])
      return status
  | none =>
      return (← Moving.moveOne call style none true [] (strip (destination.sources.headD ""))
        destination.target).1

end CompilerDriver.Utility
