import CompilerDriver.Posix.Utility.Names
import CompilerDriver.Posix.Utility.Replacing

/-!
# Linking

`ln`: gives files further names, or makes links to them.
-/

namespace CompilerDriver.Utility

open Kernel

namespace Linking

structure LinkStyle where
  symbolic : Bool
  relative : Bool
  /-- A hard link to a link is one to what the link leads to. -/
  follows : Bool
  forces : Bool
  asks : Bool
  verbose : Bool
  backups : Backups
  /-- A directory may get a further name, if the system agrees. -/
  linksDirectories : Bool
  /-- There are several links to be made, in one directory. -/
  watches : Bool

def make (style : LinkStyle) (source target : String) : Op (Except SystemError Unit) :=
  if style.symbolic then Op.makeLink source target else Op.link source target style.follows

/-- The way from where a link will be to its source. -/
def relativeSource (source target : String) : Act String := do
  match ← canonicalPath .none true (directoryOf target), ← canonicalPath .none true source with
  | .ok directory, .ok path => return relativePath directory path
  | _, _ => return source

/-- Why a link could not be made. -/
def failure (style : LinkStyle) (source target : String) (cause : SystemError) : String :=
  let both (arrow : String) : String := quoteAlways target ++ arrow ++ quoteAlways source
  let what :=
    if style.symbolic then
      "failed to create symbolic link " ++
        if source.isEmpty ∨ cause = .nameTooLong then both " -> " else quoteAlways target
    else
      "failed to create hard link " ++
        if cause = .alreadyExists ∨ cause = .noSpace then quoteAlways target else both " => "
  what ++ ": " ++ cause.notice

/-- What came of the first attempt to make a link. -/
inductive Attempt where
  | untried
  | made
  | refused (cause : SystemError)
  deriving DecidableEq, Repr, Inhabited

/-- Makes a link at once, unless its source has to be worked out first. -/
def attempt (style : LinkStyle) (source target : String) : Op Attempt := do
  if style.relative then return .untried
  match ← make style source target with
  | .ok () => return .made
  | .error e => return .refused e

/-- What is known before something is replaced by a link. -/
inductive Clearing where
  /-- Nothing is in the way, or it stays. -/
  | kept
  /-- What is in the way may go; a copy of it is kept under a name. -/
  | replaced (backup : Option String)
  /-- It is decided that no link is made. -/
  | settled (status : Nat)

/-- Whether removing what is at a target would remove the source, too. -/
def removesSource (style : LinkStyle) (source target : String) (old : Status) : Act Bool := do
  if style.backups.isOn ∧ style.symbolic then return false
  match ← Op.statusOf source (style.symbolic || style.follows) with
  | .error _ => return false
  | .ok s =>
      if !isSameFile s old then return false
      if old.links = 1 then return true
      isSameName source target

/-- Sees to what is in the way of a link. -/
def clear (call : Call) (style : LinkStyle) (first : Attempt) (made : Met)
    (source target : String) : Act Clearing := do
  let refuse (message : String) : Act Clearing := do
    complain call message
    return .settled 1
  if !(style.forces || style.asks || style.backups.isOn) then return .kept
  match ← Op.statusOf target false with
  | .error .notFound => return .kept
  | .error e => refuse ("failed to access " ++ quoteAlways target ++ ": " ++ e.notice)
  | .ok old =>
      if old.isDirectory then refuse (quoteName target ++ ": cannot overwrite directory")
      else if ← made.contains target old then
        refuse ("will not overwrite just-created " ++ quoteAlways target ++ " with " ++
          quoteAlways source)
      else if ← removesSource style source target old then
        refuse (quoteAlways source ++ " and " ++ quoteAlways target ++ " are the same file")
      else if first ≠ .untried ∧ first ≠ .refused .alreadyExists then return .replaced none
      else
        if style.asks then
          let question := call.name ++ ": replace " ++ quoteAlways target ++ "? "
          if !(← agrees question) then return .settled 0
        if !style.backups.isOn then return .replaced none
        match ← style.backups.keep target with
        | .ok name => return .replaced (some name)
        | .error .notFound => return .kept
        | .error e => refuse ("cannot backup " ++ quoteAlways target ++ ": " ++ e.notice)

/-- Makes a link in place of what is in the way. -/
def makeAgain (style : LinkStyle) (first : Attempt) (replaces : Bool) (source target : String) :
    Op (Except SystemError Unit) := do
  let result : Except SystemError Unit ← match first with
    | .untried => make style source target
    | .made => pure (.ok ())
    | .refused e => pure (.error e)
  match result with
  | .error .alreadyExists =>
      if !replaces then return result
      match ← Op.unlink target with
      | .ok () | .error .notFound => make style source target
      | .error e => return .error e
  | result => return result

/-- Makes a link after the first attempt; gives the status and the links made so far. -/
def linkOne (call : Call) (style : LinkStyle) (first : Attempt) (made : Met)
    (source target : String) : Act (Nat × Met) := do
  let fail (message : String) : Act (Nat × Met) := do
    complain call message
    return (1, made)
  let succeed (source : String) (backup : Option String) : Act (Nat × Met) := do
    if style.verbose then
      let note := (backup.map fun name => quoteAlways name ++ " ~ ").getD ""
      let arrow := if style.symbolic then " -> " else " => "
      Act.printLine (note ++ quoteAlways target ++ arrow ++ quoteAlways source)
    if style.symbolic ∨ !style.watches then return (0, made)
    match ← Op.statusOf source style.follows with
    | .ok status => return (0, made.add target status)
    | .error _ => return (0, made)
  if !style.symbolic then
    match ← Op.statusOf source style.follows with
    | .error e =>
        if first ≠ .made then
          return ← fail ("failed to access " ++ quoteAlways source ++ ": " ++ e.notice)
    | .ok status =>
        if first ≠ .made ∧ status.isDirectory ∧ !style.linksDirectories then
          return ← fail (quoteName source ++ ": hard link not allowed for directory")
  if first = .made then return ← succeed source none
  let source ← if style.relative then relativeSource source target else pure source
  match ← clear call style first made source target with
  | .settled status => return (status, made)
  | .kept =>
      match ← makeAgain style first false source target with
      | .ok () => succeed source none
      | .error e => fail (failure style source target e)
  | .replaced backup =>
      match ← makeAgain style first true source target with
      | .ok () => succeed source backup
      | .error e => fail (failure style source target e)

/-- Makes links to some files in a directory. -/
def linkWithin (call : Call) (style : LinkStyle) (directory : String) (sources : List String) :
    Act Nat := do
  let watches := 2 ≤ sources.length && style.forces && !style.symbolic &&
    style.backups.kind != .numbered
  let style := { style with watches := watches }
  let (status, _) ← sources.foldlM (fun ((status, made) : Nat × Met) source => do
    let target := nameIn directory source
    let first ← attempt style source target
    let (result, made) ← linkOne call style first made source target
    return (max status result, made)) (0, [])
  return status

/-- The directory that an option names, which has to be one. -/
def givenDirectory (call : Call) (parsed : Parsed) : Act (Option String) := do
  match (parsed.options.filter fun o => o.1 == 't').map (·.2) with
  | [] => return none
  | path :: others =>
      match ← Op.statusOf path with
      | .error e => giveUp call 1 ("failed to access " ++ quoteAlways path ++ ": " ++ e.notice)
      | .ok status =>
          if !status.isDirectory then
            giveUp call 1 ("target " ++ quoteAlways path ++ " is not a directory")
      if !others.isEmpty then giveUp call 1 "multiple target directories specified"
      return some path

end Linking

open Linking in
def ln : Utility := fun call => do
  let parsed ← ({
    flags := "bdfinrsvFLPT", valued := "tS"
    named := [("symbolic", 's'), ("force", 'f'), ("interactive", 'i'), ("no-dereference", 'n'),
      ("verbose", 'v'), ("no-target-directory", 'T'), ("target-directory", 't'),
      ("relative", 'r'), ("backup", 'B'), ("suffix", 'S'), ("directory", 'd'), ("logical", 'L'),
      ("physical", 'P')]
    optional := "B" } : OptionTable).parse call
  let backups ← backupsOf call parsed
  let given ← givenDirectory call parsed
  let operands := parsed.operands
  if operands.isEmpty then misuse call 1 "missing file operand"
  if parsed.has 'r' ∧ !parsed.has 's' then giveUp call 1 "cannot do --relative without --symbolic"
  let style : LinkStyle := {
    symbolic := parsed.has 's'
    relative := parsed.has 'r'
    follows := parsed.last? "LP" == some 'L'
    forces := parsed.last? "fi" == some 'f'
    asks := parsed.last? "fi" == some 'i'
    verbose := parsed.has 'v'
    backups := backups
    linksDirectories := parsed.has 'd' || parsed.has 'F'
    watches := false }
  let single (first : Attempt) : Act Nat := do
    return (← linkOne call style first [] (operands.headD "") (operands.getD 1 "")).1
  if parsed.has 'T' then
    if given.isSome then
      giveUp call 1 "cannot combine --target-directory and --no-target-directory"
    match operands with
    | [source, target] => single (← attempt style source target)
    | [one] => misuse call 1 ("missing destination file operand after " ++ quoteAlways one)
    | _ => misuse call 1 ("extra operand " ++ quoteAlways (operands.getD 2 ""))
  else
    match given, operands with
    | some directory, sources => linkWithin call style directory sources
    | none, [_] => linkWithin call style "." operands
    | none, _ =>
        let first : Attempt ← match operands with
          | [source, target] => attempt style source target
          | _ => pure .untried
        let isSettled : Bool := match first with
          | .untried => false
          | .made => true
          | .refused e => !(e == .alreadyExists || e == .notDirectory || e == .invalidArgument)
        if isSettled then single first
        else
          let directory := operands.getLastD ""
          match ← directoryFault? directory (!parsed.has 'n') with
          | none => linkWithin call style directory operands.dropLast
          | some e =>
              if operands.length = 2 then single first
              else giveUp call 1 ("target " ++ quoteAlways directory ++ ": " ++ e.notice)

end CompilerDriver.Utility
