import CompilerDriver.Posix.Utility.Paths

/-!
# Names of files

`basename`, `dirname`, `readlink`, `realpath` and `pwd`.
-/

namespace CompilerDriver.Utility

open Kernel

def endMark (parsed : Parsed) : String := if parsed.has 'z' then "\x00" else "\n"

/-! ## Parts of paths -/

/-- The last component of a path without a suffix, unless that is all of it. -/
def baseOf (path suffix : String) : String :=
  let name := if path.isEmpty then "" else lastComponent path
  if name.endsWith suffix ∧ name ≠ suffix ∧ name ≠ "/" then
    String.ofList (name.toList.take (name.length - suffix.length))
  else name

def basename : Utility := fun call => do
  let parsed ← ({
    flags := "az", valued := "s", stopsEarly := true
    named := [("multiple", 'a'), ("suffix", 's'), ("zero", 'z')] } : OptionTable).parse call
  match parsed.operands with
  | [] => missingOperand call 1
  | path :: rest =>
      if parsed.has 'a' ∨ parsed.has 's' then
        for p in path :: rest do
          Act.print (baseOf p ((parsed.value? 's').getD "") ++ endMark parsed)
      else
        if let some extra := rest[1]? then extraOperand call 1 extra
        Act.print (baseOf path (rest.headD "") ++ endMark parsed)
      return 0

def dirname : Utility := fun call => do
  let parsed ← ({ flags := "z", named := [("zero", 'z')] } : OptionTable).parse call
  if parsed.operands.isEmpty then missingOperand call 1
  for path in parsed.operands do
    Act.print (directoryOf path ++ endMark parsed)
  return 0

/-! ## Paths without links -/

/-- How much of a path has to exist. -/
inductive Existence where
  | all
  | allButLast
  | none
  deriving DecidableEq, Repr, Inhabited

def componentsOf (path : String) : List String :=
  (Text.fields (· == '/') path.toList).map String.ofList

/-- What follows a component asks it to be a directory. -/
def asksForDirectory (rest : List Char) : Bool :=
  rest.head? == some '/' &&
    match (componentsOf (String.ofList rest)).dropWhile (· == ".") with
    | [] => true
    | name :: _ => name == ".."

def pathOf (components : List String) : String :=
  if components.isEmpty then "/" else String.join (components.reverse.map ("/" ++ ·))

/-- Follows what is left of a path from components that are settled, the last one first. -/
def canonicalFrom (existence : Existence) (follows : Bool) :
    Nat → List String → Nat → List Char → Act (Except SystemError String)
  | 0, _, _, _ => return .error .tooManyLinks
  | n + 1, settled, links, cs => do
      let cs := cs.dropWhile (· == '/')
      let name := String.ofList (cs.takeWhile (· != '/'))
      let rest := cs.drop name.length
      if cs.isEmpty then return .ok (pathOf settled)
      else if name = "." then canonicalFrom existence follows n settled links rest
      else if name = ".." then canonicalFrom existence follows n (settled.drop 1) links rest
      else
        let here := name :: settled
        let path := pathOf here
        let found ← (if follows then Op.readLink path else
          return (← Op.statusOf path false).bind fun _ => .error .invalidArgument)
        match found with
        | .ok target =>
            if Volume.maxLinks ≤ links then
              if existence = .none then canonicalFrom existence follows n here links rest
              else return .error .tooManyLinks
            else
              let settled := if target.startsWith "/" then [] else settled
              canonicalFrom existence follows n settled (links + 1) (target.toList ++ rest)
        | .error e =>
            let e ← if e = .invalidArgument ∧ asksForDirectory rest then
                match ← Op.statusOf (path ++ "/") with
                | .ok _ => pure e
                | .error cause => pure cause
              else pure e
            let isLast := rest.all (· == '/')
            if existence = .none ∨ e = .invalidArgument ∨
                (existence = .allButLast ∧ e = .notFound ∧ isLast) then
              canonicalFrom existence follows n here links rest
            else return .error e

/-- The path that leads to the same place without links and dots.  `follows` tells whether links
are replaced by what they lead to. -/
def canonicalPath (existence : Existence) (follows : Bool) (path : String) :
    Act (Except SystemError String) := do
  if path.isEmpty then return .error .notFound
  let start ←
    if path.startsWith "/" then pure []
    else
      match ← Op.workingDirectory? with
      | some here =>
          pure (componentsOf here).reverse
      | none => return .error .notFound
  canonicalFrom existence follows (1 <<< 20) start 0 path.toList

def readlink : Utility := fun call => do
  let parsed ← ({
    flags := "femnqsvz"
    named := [("canonicalize", 'f'), ("canonicalize-existing", 'e'),
      ("canonicalize-missing", 'm'), ("no-newline", 'n'), ("quiet", 'q'), ("silent", 's'),
      ("verbose", 'v'), ("zero", 'z')] } : OptionTable).parse call
  if parsed.operands.isEmpty then missingOperand call 1
  let several := 1 < parsed.operands.length
  if parsed.has 'n' ∧ several then complain call "ignoring --no-newline with multiple arguments"
  let last := if parsed.has 'n' ∧ !several then "" else endMark parsed
  let isStrict := (← Act.setting? "POSIXLY_CORRECT").isSome
  let verbose := ((parsed.last? "vqs").map (· == 'v')).getD isStrict
  onEach parsed.operands fun path => do
    let result ← match parsed.last? "fem" with
      | some 'e' => canonicalPath .all true path
      | some 'm' => canonicalPath .none true path
      | some _ => canonicalPath .allButLast true path
      | none => do
          let link ← Op.readLink path
          pure link
    match result with
    | .ok found =>
        Act.print (found ++ last)
        return 0
    | .error e =>
        if verbose then complainOf call (quoteName path) e
        return 1

/-! ## Relative paths -/

/-- A path lies below another one or is the same. -/
def liesBelow (directory path : String) : Bool :=
  (componentsOf directory).isPrefixOf (componentsOf path)

/-- The path that leads from a directory to another path. -/
def relativePath (directory path : String) : String :=
  let from' := componentsOf directory
  let to' := componentsOf path
  let shared := ((from'.zip to').takeWhile fun (a, b) => a == b).length
  let steps := List.replicate (from'.length - shared) ".." ++ to'.drop shared
  if steps.isEmpty then "." else "/".intercalate steps

def realpath : Utility := fun call => do
  let parsed ← ({
    flags := "eLmPqsz", valuedNames := "tb"
    named := [("canonicalize-existing", 'e'), ("canonicalize-missing", 'm'), ("logical", 'L'),
      ("physical", 'P'), ("quiet", 'q'), ("no-symlinks", 's'), ("strip", 's'), ("zero", 'z'),
      ("relative-to", 't'), ("relative-base", 'b')] } : OptionTable).parse call
  if parsed.operands.isEmpty then missingOperand call 1
  let existence : Existence := match parsed.last? "em" with
    | some 'e' => .all
    | some _ => .none
    | none => .allButLast
  let kind := parsed.last? "LPs"
  let follows := kind.isNone || kind == some 'P'
  let canonical (path : String) : Act (Except SystemError String) := do
    match ← canonicalPath existence follows path with
    | .error e => return .error e
    | .ok found => if kind = some 'L' then canonicalPath existence true found else return .ok found
  let directory (path : String) : Act String := do
    let refuse {α : Type} (e : SystemError) : Act α :=
      giveUp call 1 (quoteName path ++ ": " ++ e.notice)
    match ← canonical path with
    | .error e => refuse e
    | .ok found =>
        if existence = .all ∧ !(← Op.isDirectory found) then refuse .notDirectory
        return found
  let base? := parsed.value? 'b'
  let target? := (parsed.value? 't').orElse fun _ => base?
  let target ← match target? with
    | some path => pure (some (← directory path))
    | none => pure none
  let base ← match base?, parsed.value? 't' with
    | some path, some _ => pure (some (← directory path))
    | some _, none => pure target
    | none, _ => pure none
  let target := match base, target with
    | some b, some t => if liesBelow b t then some t else none
    | _, t => t
  onEach parsed.operands fun path => do
    match ← canonical path with
    | .ok found =>
        let isNear := match base with
          | some b => liesBelow b found
          | none => true
        let shown := match target with
          | some t => if isNear then relativePath t found else found
          | none => found
        Act.print (shown ++ endMark parsed)
        return 0
    | .error e =>
        if !parsed.has 'q' then complainOf call (quoteName path) e
        return 1

/-! ## The working directory -/

def pwd : Utility := fun call => do
  let parsed ← ({ flags := "LP", named := [("logical", 'L'), ("physical", 'P')] }
    : OptionTable).parse call
  if !parsed.operands.isEmpty then complain call "ignoring non-option arguments"
  let isStrict := (← Act.setting? "POSIXLY_CORRECT").isSome
  let isLogical := ((parsed.last? "LP").map (· == 'L')).getD isStrict
  let named ← Act.setting? "PWD"
  if let (true, some path) := (isLogical, named) then
    let plain := path.startsWith "/" && !(componentsOf path).any isDots
    let there ← Op.status? path
    let here ← Op.status? "."
    if plain ∧ (there.bind Status.node).isSome ∧ there.bind Status.node = here.bind Status.node then
      Act.printLine path
      return 0
  match ← Op.workingDirectory? with
  | some here =>
      Act.printLine here
      return 0
  | none =>
      complain call
        ("couldn't find directory entry in " ++ quoteText ".." ++ " with matching i-node")
      return 1

end CompilerDriver.Utility
