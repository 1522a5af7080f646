import CompilerDriver.Posix.Utility.Choice
import CompilerDriver.Posix.Utility.Listing.Layout
import CompilerDriver.Posix.Utility.Quantity

/-!
# Listing directories

`ls`: the operands that are no directories come first, then what is in each directory.
-/

namespace CompilerDriver.Utility

open Kernel

namespace Listing

/-! ## Options -/

def failure : Nat := 2

def table : OptionTable := {
  flags := "abcdfghiklmnopqrstuvxABCDFGHLNQRSUXZ1", valued := "wIT", valuedNames := "!%&*~=^@"
  named := [("all", 'a'), ("escape", 'b'), ("directory", 'd'), ("dired", 'D'), ("full-time", '/'),
    ("group-directories-first", '>'), ("human-readable", 'h'), ("inode", 'i'), ("kibibytes", 'k'),
    ("numeric-uid-gid", 'n'), ("no-group", 'G'), ("hide-control-chars", 'q'), ("reverse", 'r'),
    ("size", 's'), ("width", 'w'), ("almost-all", 'A'), ("ignore-backups", 'B'),
    ("classify", '?'), ("file-type", ';'), ("si", ','), ("dereference-command-line", 'H'),
    ("dereference-command-line-symlink-to-dir", '\\'), ("hide", '!'), ("ignore", 'I'),
    ("indicator-style", '%'), ("dereference", 'L'), ("literal", 'N'), ("quote-name", 'Q'),
    ("quoting-style", '&'), ("recursive", 'R'), ("format", '*'), ("show-control-chars", '"'),
    ("sort", '~'), ("tabsize", 'T'), ("time", '='), ("time-style", '^'), ("zero", '0'),
    ("color", '|'), ("hyperlink", '<'), ("block-size", '@'), ("context", 'Z'), ("author", '#')]
  optional := "?|<", failure := failure }

def orderWords : List (String × Order) := [
  ("none", .none), ("time", .time), ("size", .size), ("extension", .extension),
  ("version", .version), ("width", .width)]

def timeWords : List (String × Nat) := [
  ("atime", 0), ("access", 0), ("use", 0), ("ctime", 1), ("status", 1), ("mtime", 2),
  ("modification", 2), ("birth", 3), ("creation", 3)]

def formatWords : List (String × Arrangement) := [
  ("verbose", .long), ("long", .long), ("commas", .commas), ("horizontal", .rows),
  ("across", .rows), ("vertical", .columns), ("single-column", .single)]

def markWords : List (String × Marks) := [
  ("none", .none), ("slash", .slash), ("file-type", .kinds), ("classify", .all)]

/-- When something is done that suits a terminal. -/
inductive Occasion where
  | always
  | never
  | onTerminal
  deriving DecidableEq, Repr

def occasionWords : List (String × Occasion) := [
  ("always", .always), ("yes", .always), ("force", .always), ("never", .never), ("no", .never),
  ("none", .never), ("auto", .onTerminal), ("tty", .onTerminal), ("if-tty", .onTerminal)]

/-- Whether an option is on whose argument may tell the occasion. -/
def isOn (call : Call) (option value : String) : Act Bool := do
  if value.isEmpty then return true
  return (← choiceOf call failure option occasionWords value) == .always

/-- The formats of times for a style's name. -/
def timeStyle? (name : String) : Option (String × String) :=
  let bare := if name.startsWith "posix-" then String.ofList (name.toList.drop 6) else name
  let names := ["full-iso", "long-iso", "iso", "locale"]
  let found := if names.contains bare then [bare] else names.filter fun n => n.startsWith bare
  match name.toList with
  | '+' :: format =>
      let old := format.takeWhile (· != '\n')
      let recent := (format.drop old.length).drop 1
      some (String.ofList old, String.ofList (if old.length < format.length then recent else old))
  | _ =>
      if name.startsWith "posix-" then some ("%b %e  %Y", "%b %e %H:%M")
      else
        match found with
        | ["full-iso"] => some ("%Y-%m-%d %H:%M:%S.%N %z", "%Y-%m-%d %H:%M:%S.%N %z")
        | ["long-iso"] => some ("%Y-%m-%d %H:%M", "%Y-%m-%d %H:%M")
        | ["iso"] => some ("%Y-%m-%d ", "%m-%d %H:%M")
        | ["locale"] => some ("%b %e  %Y", "%b %e %H:%M")
        | _ => none

def timeStyleOf (call : Call) (name : String) : Act (String × String) := do
  match timeStyle? name with
  | some formats => return formats
  | none =>
      let kind := if ["full-iso", "long-iso", "iso", "locale"].any fun n => n.startsWith name then
        "ambiguous" else "invalid"
      complain call (kind ++ " argument " ++ quoteText name ++ " for " ++ quoteText "time style")
      Act.printError ("Valid arguments are:\n  - [posix-]full-iso\n  - [posix-]long-iso\n" ++
        "  - [posix-]iso\n  - [posix-]locale\n" ++
        "  - +FORMAT (e.g., +%H:%M) for a 'date'-style format\n" ++ hint call ++ "\n")
      stop failure

/-- Sets the unit of sizes. -/
def withBlockSize (call : Call) (style : Style) (text : String) : Act Style := do
  if text = "human-readable" then return { style with human := some 1024, unit := none }
  if text = "si" then return { style with human := some 1000, unit := none }
  let hasNumber := text.toList.any Char.isDigit
  match quantity? "KMGTPEZYkmgt0" text with
  | .ok 0 | .error _ => giveUp call failure ("invalid --block-size argument '" ++ text ++ "'")
  | .ok n => return { style with human := none, unit := some (n, if hasNumber then "" else text) }

/-- What one option does to the style. -/
def applyOption (call : Call) (style : Style) (o : Char × String) : Act Style := do
  let value := o.2
  match o.1 with
  | 'a' => return { style with scope := .everything }
  | 'A' => return { style with scope := .butDots }
  | 'b' => return { style with names := .escaped }
  | 'd' => return { style with immediate := true }
  | 'f' => return { style with
      scope := .everything, order := .none, blocks := false, colors := false
      arrangement := if style.arrangement = .long then .single else style.arrangement }
  | 'g' => return { style with arrangement := .long, owner := false }
  | 'h' => return { style with human := some 1024, unit := none }
  | ',' => return { style with human := some 1000, unit := none }
  | '@' => withBlockSize call style value
  | 'i' => return { style with inodes := true }
  | 'k' => return style
  | 'l' => return { style with arrangement := .long }
  | 'm' => return { style with arrangement := .commas }
  | 'n' => return { style with arrangement := .long, numeric := true }
  | 'o' => return { style with arrangement := .long, group := false }
  | 'p' => return { style with marks := .slash }
  | 'q' => return { style with masked := true }
  | '"' => return { style with masked := false }
  | 'r' => return { style with reversed := true }
  | 's' => return { style with blocks := true }
  | 't' => return { style with order := .time }
  | 'v' => return { style with order := .version }
  | 'w' =>
      match quantity? "" value with
      | .ok n => return { style with lineLength := n }
      | .error _ => giveUp call failure ("invalid line width: " ++ quoteText value)
  | 'T' =>
      match quantity? "" value with
      | .ok n => return { style with tab := n }
      | .error _ => giveUp call failure ("invalid tab size: " ++ quoteText value)
  | 'x' => return { style with arrangement := .rows }
  | 'B' => return { style with
      ignored := Text.Glob.ofText "*~" :: Text.Glob.ofText ".*~" :: style.ignored }
  | 'C' => return { style with arrangement := .columns }
  | 'F' => return { style with marks := .all }
  | '?' =>
      let on ← isOn call "--classify" value
      return if on then { style with marks := .all } else style
  | ';' => return { style with marks := .kinds }
  | '%' => return { style with marks := ← choiceOf call failure "--indicator-style" markWords value }
  | 'G' => return { style with group := false }
  | 'H' => return { style with links := .operands }
  | '\\' => return { style with links := .operandsToDirectories }
  | 'L' => return { style with links := .always }
  | 'I' => return { style with ignored := Text.Glob.ofText value :: style.ignored }
  | '!' => return { style with hidden := Text.Glob.ofText value :: style.hidden }
  | 'N' => return { style with names := .literal }
  | 'Q' => return { style with names := .doubled false }
  | '&' => return { style with names := ← choiceOf call failure "--quoting-style" nameStyles value }
  | 'R' => return { style with recursive := true }
  | 'S' => return { style with order := .size }
  | 'U' => return { style with order := .none }
  | 'X' => return { style with order := .extension }
  | '1' => return { style with
      arrangement := if style.arrangement = .long then .long else .single }
  | '~' => return { style with order := ← choiceOf call failure "--sort" orderWords value }
  | '=' =>
      let _ ← choiceOf call failure "--time" timeWords value
      return style
  | '*' => return { style with arrangement := ← choiceOf call failure "--format" formatWords value }
  | '^' => return { style with timeFormats := ← timeStyleOf call value }
  | '/' => return { style with
      arrangement := .long
      timeFormats := ("%Y-%m-%d %H:%M:%S.%N %z", "%Y-%m-%d %H:%M:%S.%N %z") }
  | '>' => return { style with directoriesFirst := true }
  | '|' =>
      return { style with colors := ← isOn call "--color" value }
  | '<' =>
      let _ ← isOn call "--hyperlink" value
      return style
  | '0' => return { style with
      lineEnd := "\x00", names := .literal, colors := false, masked := false
      arrangement := if style.arrangement = .long then .long else .single }
  | '#' => return { style with author := true }
  | _ => return style

/-- The style that the environment and the options ask for. -/
def styleOf (call : Call) (parsed : Parsed) : Act Style := do
  let setting ← Act.setting? "QUOTING_STYLE"
  let names := ((setting.bind fun word => nameStyles.lookup word)).getD .literal
  let lineLength ← match (← Act.setting? "COLUMNS").filter (· != "") with
    | none => pure 80
    | some text =>
        match quantity? "" text with
        | .ok n => pure n
        | .error _ => do
            complain call ("ignoring invalid width in environment variable COLUMNS: " ++
              quoteText text)
            pure 80
  let start : Style := { names := names, lineLength := lineLength }
  let style ← parsed.options.foldlM (applyOption call) start
  let isTimed := parsed.has 't' || parsed.has 'u' || parsed.has 'c' || parsed.has '='
  let isOrdered := parsed.options.any fun o => "tvSUXf~".toList.contains o.1
  let style := if isTimed ∧ !isOrdered ∧ style.arrangement ≠ .long then
      { style with order := .time } else style
  let style ← match style.arrangement, parsed.has '^' || parsed.has '/' with
    | .long, false =>
        match ← Act.setting? "TIME_STYLE" with
        | some name => do
            let formats ← timeStyleOf call name
            pure { style with timeFormats := formats }
        | none => pure style
    | _, _ => pure style
  if parsed.options.any fun o => "LH\\".toList.contains o.1 then return style
  let shy := style.immediate || style.marks == .all || style.arrangement == .long
  return { style with links := if shy then .never else .operandsToDirectories }

/-! ## Directories -/

/-- What has been printed so far. -/
structure Progress where
  status : Nat := 0
  /-- A directory has been headed by its name. -/
  headed : Bool := false
  painted : Bool := false

/-- Prints entries; the first color is led in. -/
def printRows (style : Style) (p : Progress) (text : String) : Act Progress := do
  if !style.colors ∨ p.painted then
    Act.print text
    return p
  let plain := text.toList.takeWhile (· != '\x1b')
  if plain.length = text.length then
    Act.print text
    return p
  Act.print (String.ofList plain ++ "\x1b[0m" ++ String.ofList (text.toList.drop plain.length))
  return { p with painted := true }

/-- Everything in a directory that is not ignored, and the status of looking at it. -/
def rowsOf (call : Call) (style : Style) (directory : String) (names : List String) :
    Act (List Row × Nat) := do
  let all := if style.scope = .everything then "." :: ".." :: names else names
  let found ← (all.filter fun name => !isIgnored style name).mapM fun name => do
    let (row, cause) ← entryRow style directory name
    if let some e := cause then
      complainOf call ("cannot access " ++ quoteAlways row.path) e
    return (row, if cause.isSome then 1 else 0)
  return (found.map (·.1), (found.map (·.2)).foldl max 0)

/-- Lists directories, and those in them if that is asked for. -/
def listDirectories (call : Call) (style : Style) (heads : Bool) :
    Nat → List (String × List Nat) → Progress → Act Progress
  | 0, _, p => return p
  | _ + 1, [], p => return p
  | n + 1, (path, above) :: rest, p => do
      let worse (p : Progress) (status : Nat) : Progress := { p with status := max p.status status }
      match ← Op.namesIn path with
      | .error e =>
          complainOf call ("cannot open directory " ++ quoteAlways path) e
          listDirectories call style heads n rest
            (worse p (if above.isEmpty then failure else 1))
      | .ok names =>
          let node := ((← Op.status? path).bind Status.node).getD 0
          if above.contains node then
            complain call (quoteName path ++ ": not listing already-listed directory")
            listDirectories call style heads n rest (worse p failure)
          else
            if style.recursive ∨ heads then
              if p.headed then Act.print "\n"
              Act.print (shownName style [':'] path ++ ":\n")
            let p := { p with headed := true }
            let (rows, status) ← rowsOf call style path names
            let rows := sortRows style rows
            if style.arrangement = .long ∨ style.blocks then
              let sum := rows.foldl (fun n r => n + ((r.status.map allocated).getD 0)) 0
              Act.print ("total " ++ blockText style sum ++ style.lineEnd)
            let now ← Op.now
            let p ← printRows style (worse p status) (render style now rows)
            let inner := if style.recursive then
                (rows.filter fun r => r.isDirectory && !isDots r.name).map fun r =>
                  (joinPath path r.name, node :: above)
              else []
            listDirectories call style heads n (inner ++ rest) p

end Listing

open Listing in
def ls : Utility := fun call => do
  let parsed ← table.parse call
  let style ← styleOf call parsed
  let operands := if parsed.operands.isEmpty then ["."] else parsed.operands
  let found ← operands.mapM fun path => do
    match ← operandRow style path with
    | .ok row => return some row
    | .error e =>
        complainOf call ("cannot access " ++ quoteAlways path) e
        return none
  let status := if found.any Option.isNone then failure else 0
  let rows := sortRows style (found.filterMap id)
  let directories := if style.immediate then [] else rows.filter Row.isDirectory
  let files := if style.immediate then rows else rows.filter fun r => !r.isDirectory
  let now ← Op.now
  let p ← printRows style { status := status } (render style now files)
  if !files.isEmpty ∧ !directories.isEmpty then Act.print "\n"
  let heads := !(files.isEmpty ∧ operands.length ≤ 1)
  let p ← listDirectories call style heads (1 <<< 40) (directories.map fun r => (r.path, [])) p
  return p.status

end CompilerDriver.Utility
