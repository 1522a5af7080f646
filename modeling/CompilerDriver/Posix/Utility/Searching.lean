import CompilerDriver.Posix.Utility.Choice
import CompilerDriver.Posix.Utility.Input
import CompilerDriver.Posix.Utility.Paths
import CompilerDriver.Posix.Utility.Searching.Exclusion
import CompilerDriver.Posix.Utility.Searching.Selection

/-!
# Searching files

`grep` selects the lines that match one of some patterns, which stand one below the other in its
first argument or come from options and files.
-/

namespace CompilerDriver.Utility

open Kernel

namespace Searching

open Text (Regex)

/-- What is done with directories. -/
inductive DirectoryAction where
  | read
  | recurse
  | skip
  deriving DecidableEq, Repr

/-- What is listed in place of lines. -/
inductive Listing where
  | matching
  | others
  deriving DecidableEq, Repr

structure Search.Plan where
  call : Call
  style : Style
  listing : Option Listing
  isQuiet : Bool
  /-- No messages are printed about files that cannot be read. -/
  isSilent : Bool
  label : String
  directories : DirectoryAction
  /-- Links are followed wherever they are. -/
  followsLinks : Bool
  skipsDevices : Bool
  files : List Exclusion
  folders : List Exclusion
  /-- Files are named as soon as there may be more than one. -/
  namesMany : Bool

/-- What has come of the search so far. -/
structure Outcome where
  found : Bool := false
  failed : Bool := false
  /-- Lines have been selected. -/
  used : Bool := false
  named : Bool := false

abbrev Plan := Search.Plan

/-! ## One file -/

/-- How wide the number of an octet can be. -/
def maxNumberWidth : Nat := 19

/-- How wide numbers are in a file. -/
def numberWidth (numbered : Bool) (status? : Option Status) : Nat :=
  match status? with
  | some status =>
      if status.kind = .file then (toString (status.size + if numbered then 1 else 0)).length
      else maxNumberWidth
  | none => maxNumberWidth

def searchBlock : Nat := 98304

/-- Reads lines until the end or until enough has been found. -/
def searchOpen (plan : Plan) (i : Input) :
    Nat → String → Search → Act (Except SystemError (Search × Bool))
  | 0, _, s => return .ok (s, true)
  | n + 1, carry, s => do
      match ← Act.readBytes i.descriptor searchBlock with
      | .error e => return .error e
      | .ok bytes =>
          let style := plan.style
          let isEnd := bytes.isEmpty
          let text := carry ++ Text.octetsOfArray bytes
          let hasNull := style.separator != '\x00' && style.binary != .text && text.contains '\x00'
          if hasNull ∧ style.binary = .passedOver then return .ok ({ s with count := 0 }, isEnd)
          let text := if hasNull then text.map fun c => if c = '\x00' then '\n' else c else text
          let s := if hasNull then s.turnQuiet style else s
          let before := s.count
          let pieces := separatedPieces style.separator text
          let last := pieces.getLastD []
          let s := pieces.dropLast.foldl (Search.feed style) s
          let s := if isEnd && !last.isEmpty then s.feed style last else s
          let s := if hasNull && before < s.count then { s with isBroken := true } else s
          for part in s.output.reverse do
            Act.print part
          let s := { s with output := [] }
          if isEnd ∨ s.isDone then return .ok (s, isEnd)
          searchOpen plan i n (String.ofList last) s

/-- The output would be searched as well. -/
def searchesOutput (plan : Plan) (descriptor : Nat) : Act Bool := do
  if plan.style.isSilent ∨ plan.style.most.any (· ≤ 1) then return false
  match ← Op.openFile? descriptor, ← Op.openFile? 1 with
  | some { channel := .node n, .. }, some { channel := .node m, .. } =>
      return n == m && (← get).volume.kind n == .file
  | _, _ => return false

/-- Shows what is left to be shown of a file that has been searched. -/
def concludeFile (plan : Plan) (s : Search) (r : Outcome) : Act Outcome := do
  let style := plan.style
  let found := decide (0 < s.count)
  if found ∧ plan.isQuiet then
    let _ ← Act.flush
    stop 0
  if style.counts then
    Act.print ((if style.named then style.nameThen s.name (style.mark true) else "") ++
      toString s.count ++ "\n")
  if plan.listing = some (if found then .matching else .others) ∧ !plan.isQuiet then
    Act.print (style.nameThen s.name "\n")
  if s.isBroken ∧ style.binary = .told ∧ !style.isSilent ∧ !plan.isSilent then
    complain plan.call (s.name ++ ": binary file matches")
  return { r with found := r.found || found, used := s.used }

/-- A file is passed over because of what it is. -/
def isPassedOver (plan : Plan) (path : String) : Act Bool := do
  if plan.directories ≠ .skip ∧ !plan.skipsDevices then return false
  let status? ← if path = "-" then Op.descriptorStatus? 0 else Op.status? path
  return status?.any fun s =>
    if s.isDirectory then plan.directories == .skip else plan.skipsDevices && s.kind != .file

def searchFile (plan : Plan) (path : String) (r : Outcome) : Act Outcome := do
  let plan :=
    if plan.namesMany && r.named then { plan with style := { plan.style with named := true } }
    else plan
  let style := plan.style
  let name := if path = "-" then plan.label else path
  let fail (e : SystemError) : Act Unit := do
    if !plan.isSilent then complainOf plan.call name e
  if ← isPassedOver plan path then return r
  match ← Input.openPath path with
  | .error e =>
      fail e
      return { r with failed := true }
  | .ok i =>
      if ← searchesOutput plan i.descriptor then
        if !plan.isSilent then complain plan.call (name ++ ": input file is also the output")
        i.close
        return { r with failed := true }
      let status? ← Op.descriptorStatus? i.descriptor
      let start := ((← Op.seek i.descriptor .here 0).toOption).getD 0
      let fresh : Search :=
        { name, width := if style.aligned then numberWidth style.numbered status? else 0,
          used := r.used, isQuiet := style.isSilent, stopsAtFirst := style.stopsAtFirst }
      match ← searchOpen plan i Act.maxTurns "" fresh with
      | .error e =>
          fail e
          i.close
          concludeFile plan fresh { r with failed := true }
      | .ok (s, isEnd) =>
          if path = "-" ∧ !plan.isQuiet then
            if s.isExhausted style then
              let _ ← Op.seek 0 .start (start + s.afterLast)
            else if !isEnd then
              let _ ← Op.seek 0 .finish 0
          i.close
          concludeFile plan s r

/-! ## Files in directories -/

/-- Searches what is below a directory; `place` is its path and `shown` the start of the names of
what is in it. -/
def searchBelow (plan : Plan) : Nat → String → String → Outcome → Act Outcome
  | 0, _, _, r => return r
  | n + 1, place, shown, r => do
      match ← Op.namesIn place with
      | .error e =>
          if !plan.isSilent then complainOf plan.call place e
          return { r with failed := true }
      | .ok names =>
          names.foldlM (fun r entry => do
            let path := joinPath place entry
            let name := shown ++ entry
            match ← Op.statusOf path plan.followsLinks with
            | .error e =>
                if !plan.followsLinks then return r
                if !plan.isSilent then complainOf plan.call name e
                return { r with failed := true }
            | .ok status =>
                if status.isDirectory then
                  if isExcluded plan.folders false entry then return r
                  searchBelow plan n path (name ++ "/") r
                else if status.kind ≠ .file ∨ isExcluded plan.files false entry then return r
                else searchFile plan name r) r

/-- Searches what an argument names. -/
def searchArgument (plan : Plan) (path : String) (r : Outcome) : Act Outcome := do
  if path ≠ "-" then
    if let some status ← Op.status? path then
      if status.isDirectory then
        if plan.directories = .skip then return r
        if isExcluded plan.folders true path then return r
        if plan.directories = .recurse then
          let start := String.ofList (path.toList.reverse.dropWhile (· == '/')).reverse ++ "/"
          return ← searchBelow plan Volume.maxPathLength path start { r with named := true }
      else if isExcluded plan.files true path then return r
  searchFile plan path r

/-! ## Options -/

def table : OptionTable := {
  flags := "0123456789EFGHILPTUVZabchilnoqRrsuvwxyz", valued := "efmABCdDX", failure := 2
  valuedNames := "+!%\x7b\x7d[|", optional := "="
  named := [("after-context", 'A'), ("basic-regexp", 'G'), ("before-context", 'B'),
    ("binary", 'U'), ("binary-files", '+'), ("byte-offset", 'b'), ("color", '='), ("colour", '='),
    ("context", 'C'), ("count", 'c'), ("dereference-recursive", 'R'), ("devices", 'D'),
    ("directories", 'd'), ("exclude", '%'), ("exclude-dir", '\x7d'), ("exclude-from", '\x7b'),
    ("extended-regexp", 'E'), ("file", 'f'), ("files-with-matches", 'l'),
    ("files-without-match", 'L'), ("fixed-regexp", 'F'), ("fixed-strings", 'F'),
    ("group-separator", '|'), ("ignore-case", 'i'), ("include", '['), ("initial-tab", 'T'),
    ("invert-match", 'v'), ("label", '!'), ("line-buffered", '*'), ("line-number", 'n'),
    ("line-regexp", 'x'), ("max-count", 'm'), ("no-filename", 'h'), ("no-group-separator", '~'),
    ("no-ignore-case", '^'), ("no-messages", 's'), ("null", 'Z'), ("null-data", 'z'),
    ("only-matching", 'o'), ("perl-regexp", 'P'), ("quiet", 'q'), ("recursive", 'r'),
    ("regexp", 'e'), ("silent", 'q'), ("text", 'a'), ("with-filename", 'H'), ("word-regexp", 'w')]
  usage := "Usage: grep [OPTION]... PATTERNS [FILE]...\n" }

def numberOf (call : Call) (message text : String) : Act Int := do
  let cs := text.toList
  let digits := if cs.head? = some '-' ∨ cs.head? = some '+' then cs.drop 1 else cs
  if digits.isEmpty ∨ !digits.all Char.isDigit then giveUp call 2 message
  let value : Nat := digits.foldl (fun n c => n * 10 + (c.toNat - 48)) 0
  return if cs.head? = some '-' then -(value : Int) else value

/-- The size of a context, from the last option that tells it. -/
def contextSize (call : Call) (text? : Option String) : Act (Option Nat) := do
  match text? with
  | none => return none
  | some text =>
      let message := text ++ ": invalid context length argument"
      let value ← numberOf call message text
      if value < 0 then giveUp call 2 message
      return some value.toNat

/-- The patterns in a text, with which there need be none. -/
def patternsIn (text : String) : List String :=
  (separatedPieces '\n' text).map String.ofList

/-- The patterns from the options, or from the first operand; and the files. -/
def patternsOf (call : Call) (parsed : Parsed) : Act (List String × List String) := do
  let given := parsed.options.filter fun o => o.1 == 'e' || o.1 == 'f'
  if given.isEmpty then
    match parsed.operands with
    | [] =>
        explain (table.usage ++ hint call ++ "\n")
        stop 2
    | pattern :: files => return (patternsIn pattern, files)
  let patterns ← given.mapM fun (letter, value) => do
    if letter = 'e' then return patternsIn value
    match ← readInput value with
    | .ok text => return linesOf text
    | .error e => giveUp call 2 (value ++ ": " ++ e.notice)
  return (patterns.flatten, parsed.operands)

/-- The wildcards of the options with some letters. -/
def exclusionsOf (call : Call) (parsed : Parsed) (letters : List Char) : Act (List Exclusion) := do
  let found ← (parsed.options.filter fun o => letters.contains o.1).mapM fun (letter, value) => do
    if letter = '\x7b' then
      match ← readInput value with
      | .ok text => return (linesOf text).map fun line => ⟨Text.Glob.ofText line, false⟩
      | .error e => giveUp call 2 (value ++ ": " ++ e.notice)
    let value := if letter = '\x7d' ∧ 1 < value.length then
        String.ofList (value.toList.reverse.dropWhile (· == '/')).reverse
      else value
    return [(⟨Text.Glob.ofText value, letter == '['⟩ : Exclusion)]
  return found.flatten

def kindOf : Char → PatternKind
  | 'E' => .extended
  | 'F' => .fixed
  | 'P' => .first
  | _ => .basic

/-- The way in which patterns are written; only one may be asked for. -/
def kindFrom (call : Call) (parsed : Parsed) (kind : PatternKind) : Act PatternKind := do
  let kinds := (parsed.options.filter fun o => "EFGP".toList.contains o.1).map (kindOf ·.1)
  if 1 < kinds.eraseDups.length then giveUp call 2 "conflicting matchers specified"
  return kinds.getLastD kind

/-- The expressions of some patterns, or the end of the utility with a message for each that is
wrong. -/
def expressionsOf (call : Call) (style : PatternStyle) (patterns : List String) :
    Act (List Regex) := do
  if style.kind = .first ∧ 1 < patterns.length then
    giveUp call 2 "the -P option only supports a single pattern"
  let found ← patterns.mapM fun pattern => do
    match style.read (charactersIf style.unicode pattern.toList) with
    | .ok (r, leading) =>
        for operator in leading do
          complain call ("warning: " ++ operator ++ " at start of expression")
        return some r
    | .error message =>
        complain call message
        return none
  if found.any Option.isNone then stop 2
  return found.filterMap id

end Searching

open Searching in
def grepWith (kind : PatternKind) : Utility := fun call => do
  let parsed ← table.parse call
  let options := parsed.options
  let digits := (options.filter fun o => o.1.isDigit).map (·.1)
  let sides := if digits.isEmpty then parsed.value? 'C'
    else some (String.ofList digits)
  let before ← contextSize call ((parsed.value? 'B').orElse fun _ => sides)
  let after ← contextSize call ((parsed.value? 'A').orElse fun _ => sides)
  let most? ← (parsed.value? 'm').mapM (numberOf call "invalid max count")
  let most := (most?.filter (0 ≤ ·)).map Int.toNat
  let directories ← match parsed.last? "drR" with
    | some 'd' =>
        choiceOf call 2 "--directories"
          [("read", DirectoryAction.read), ("recurse", .recurse), ("skip", .skip)]
          ((parsed.value? 'd').getD "") table.usage
    | some _ => pure .recurse
    | none => pure .read
  let devices ← match parsed.value? 'D' with
    | none => pure none
    | some "read" => pure (some false)
    | some "skip" => pure (some true)
    | some _ => giveUp call 2 "unknown devices method"
  let binary ← match parsed.last? "aI+" with
    | some 'a' => pure BinaryFiles.text
    | some 'I' => pure .passedOver
    | some _ =>
        match (parsed.value? '+').getD "" with
        | "binary" => pure .told
        | "text" => pure .text
        | "without-match" => pure .passedOver
        | _ => giveUp call 2 "unknown binary-files type"
    | none => pure .told
  let colored ← match parsed.value? '=' with
    | none => pure false
    | some "always" | some "yes" | some "force" => pure true
    | some "never" | some "no" | some "none" | some "auto" | some "tty" | some "if-tty" | some "" =>
        pure false
    | some _ =>
        explain (table.usage ++ hint call ++ "\n")
        stop 2
  let files ← exclusionsOf call parsed ['%', '[', '\x7b']
  let folders ← exclusionsOf call parsed ['\x7d']
  let (patterns, operands) ← patternsOf call parsed
  let unicode ← readsUnicode
  let patternStyle : PatternStyle := {
    kind := ← kindFrom call parsed kind
    wholeWords := parsed.has 'w', wholeLines := parsed.has 'x'
    ignoreCase := (parsed.last? "iy^").any (· != '^'), unicode }
  let expressions ← expressionsOf call patternStyle patterns
  if most = some 0 then return 1
  let isQuiet := parsed.has 'q'
  let listing : Option Listing := match parsed.last? "lL" with
    | some 'l' => some .matching
    | some _ => some .others
    | none => none
  let named? := (parsed.last? "hH").map (· == 'H')
  let plan : Plan := {
    call, listing, isQuiet, directories, files, folders
    style := {
      inverted := parsed.has 'v'
      counts := parsed.has 'c' && listing.isNone && !isQuiet
      onlyMatches := parsed.has 'o'
      named := named?.getD (decide (1 < operands.length))
      numbered := parsed.has 'n', placed := parsed.has 'b', aligned := parsed.has 'T'
      colored
      nameMark := if parsed.has 'Z' then some '\x00' else none
      before, after
      gapMark := match parsed.last? "|~" with
        | some '|' => parsed.value? '|'
        | some _ => none
        | none => some "--"
      most
      stopsAtFirst := isQuiet || listing.isSome
      separator := if parsed.has 'z' then '\x00' else '\n'
      binary, unicode
      program := patternStyle.program? expressions }
    isSilent := parsed.has 's'
    label := (parsed.value? '!').getD "(standard input)"
    followsLinks := parsed.last? "drR" == some 'R'
    skipsDevices := devices.getD false
    namesMany := named?.isNone }
  let r ←
    if operands.isEmpty ∧ directories = .recurse then
      searchBelow plan Volume.maxPathLength "." "" { named := true }
    else
      (if operands.isEmpty then ["-"] else operands).foldlM
        (fun r path => searchArgument plan path r) ({} : Searching.Outcome)
  return if r.failed then 2 else if r.found then 0 else 1

open Searching in
def grep : Utility := grepWith .basic

end CompilerDriver.Utility
