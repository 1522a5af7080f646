import CompilerDriver.Posix.Utility.Basic

/-!
# Paths as texts

The parts of a path, with as many slashes as it has.
-/

namespace CompilerDriver.Utility

def trimSlashes (s : String) : String :=
  let cs := (s.toList.reverse.dropWhile (· == '/')).reverse
  if cs.isEmpty ∧ !s.isEmpty then "/" else String.ofList cs

/-- A path with at most one slash at its end. -/
def withOneEndSlash (s : String) : String :=
  if s.endsWith "/" then
    let trimmed := trimSlashes s
    if trimmed = "/" then "/" else trimmed ++ "/"
  else s

/-- The last component of a path, without slashes behind it. -/
def lastComponent (s : String) : String :=
  let trimmed := trimSlashes s
  if trimmed = "/" then "/"
  else String.ofList (trimmed.toList.reverse.takeWhile (· != '/')).reverse

def joinPath (directory name : String) : String :=
  if directory.endsWith "/" then directory ++ name else directory ++ "/" ++ name

/-- What is left of a path without its last component. -/
def directoryOf (path : String) : String :=
  let trimmed := trimSlashes path
  let above := trimmed.toList.reverse.dropWhile (· != '/')
  if trimmed = "/" then "/"
  else if above.isEmpty then "."
  else trimSlashes (String.ofList above.reverse)

def isDots (name : String) : Bool := name == "." || name == ".."

end CompilerDriver.Utility
