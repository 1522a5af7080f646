import CompilerDriver.Posix.Text.Glob

/-!
# Files that are passed over

Wildcards tell which files are searched and which ones are not.  The last wildcard that matches a
name decides; if there is none, a name is treated unlike the names of the last wildcard.
-/

namespace CompilerDriver.Utility.Searching

/-- Names that are searched or passed over. -/
structure Exclusion where
  pattern : Text.Glob
  includes : Bool

/-- A name, and what stands behind each slash in it. -/
def tails : List Char → List (List Char)
  | [] => []
  | c :: rest => if c = '/' ∧ rest.head?.any (· != '/') then rest :: tails rest else tails rest

/-- Whether a file is passed over.  A name on the command line may also match in its last parts. -/
def isExcluded (exclusions : List Exclusion) (onCommandLine : Bool) (name : String) : Bool :=
  let names := name :: if onCommandLine then (tails name.toList).map String.ofList else []
  match exclusions.reverse.find? fun e => names.any fun n => e.pattern.matchesText n with
  | some e => !e.includes
  | none => exclusions.getLast?.any (·.includes)

end CompilerDriver.Utility.Searching
