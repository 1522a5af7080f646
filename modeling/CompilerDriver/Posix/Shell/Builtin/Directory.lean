import CompilerDriver.Posix.Shell.Builtin.Options

/-!
# The working directory

`cd` and `pwd`.  The shell keeps the path by which it has come to its directory, in which `..` takes
a component away.
-/

namespace CompilerDriver.Shell

open Kernel

/-- The path of a directory as the system knows it. -/
def physicalDirectory : Act String := do
  match ← Op.workingDirectory? with
  | some path => return path
  | none =>
      warn ("getcwd() failed: " ++ SystemError.notFound.notice)
      return ""

/-- The path that one more path leads to. -/
def logicalPath (directory path : String) : String :=
  let isAbsolute := path.startsWith "/"
  let base := if isAbsolute then path else directory
  let double := base.startsWith "//" && !base.startsWith "///"
  let names (s : String) : List String :=
    ((Text.splitWhere (· == '/') s.toList).map String.ofList).filter (· != "")
  let all := names directory ++ names path
  let taken := if isAbsolute then names path else all
  let stack := taken.foldl (fun (stack : List String) name =>
    if name = "." then stack else if name = ".." then stack.drop 1 else name :: stack) []
  (if double then "//" else "/") ++ "/".intercalate stack.reverse

/-- Makes a path the working directory. -/
def enterDirectory (physical : Bool) (path : String) : Act Bool := do
  let logical := logicalPath (← state).directory path
  match ← Op.changeDirectory (if physical then path else logical) with
  | .ok () =>
      let before := (← state).directory
      let after ← if physical then physicalDirectory else pure logical
      modifyState fun s => { s with directory := after, found := [] }
      assign "OLDPWD" before
      assign "PWD" after
      mark "OLDPWD" fun v => { v with exported := true }
      mark "PWD" fun v => { v with exported := true }
      return true
  | .error _ => return false

namespace Builtin

/-- The directories through which a relative path is looked for, each with what is printed. -/
def cdCandidates (searchPath : Option String) (path : String) : List (String × Bool) :=
  let isDotted := path = "." || path = ".." || path.startsWith "./" || path.startsWith "../"
  if path.startsWith "/" ∨ isDotted then []
  else
    ((searchPath.map fun s => Text.splitWhere (· == ':') s.toList).getD []).map fun d =>
      if d.isEmpty then (path, false)
      else (String.ofList d ++ (if d.getLast? = some '/' then "" else "/") ++ path, true)

def firstDirectory : List (String × Bool) → Act (Option (String × Bool))
  | [] => return none
  | (path, prints) :: rest => do
      if ← Op.isDirectory path then return some (path, prints)
      firstDirectory rest

def cd : Builtin := fun arguments => do
  let parsed ← parse "LP" "" arguments
  let physical := (parsed.options.getLast?).any fun o => o.1 == 'P'
  let operand := parsed.operands.head?
  let given ←
    match operand with
    | none => lookup "HOME"
    | some "-" => lookup "OLDPWD"
    | some path => pure (some path)
  let path := given.getD ""
  let path := if path.isEmpty then "." else path
  let (target, prints) :=
    ((← firstDirectory (cdCandidates (← lookup "CDPATH") path))).getD (path, false)
  if !(← enterDirectory physical target) then fail ("can't cd to " ++ given.getD "")
  if prints ∨ operand = some "-" then Act.printLine (← state).directory
  return 0

def pwd : Builtin := fun arguments => do
  let parsed ← parse "LP" "" arguments
  let physical := (parsed.options.getLast?).any fun o => o.1 == 'P'
  Act.printLine (← if physical then physicalDirectory else pure (← state).directory)
  return 0

end Builtin

end CompilerDriver.Shell
