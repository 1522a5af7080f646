import CompilerDriver.Posix.Kernel.Streams

/-!
# Tests on files

What can be asked of one file or of two, by the operators of a condition.
-/

namespace CompilerDriver.Kernel.FileTest

/-- A file has the property that an operator asks for. -/
def holds (operator path : String) : Op Bool := do
  if operator = "-h" ∨ operator = "-L" then
    return (← Op.ownStatus? path).any fun status => status.kind == .link
  match ← Op.status? path with
  | none => return false
  | some status =>
      return match operator with
        | "-x" => status.isDirectory || status.isExecutable
        | "-f" => status.isFile
        | "-d" => status.isDirectory
        | "-c" => status.kind == .characters
        | "-p" => status.kind == .queue
        | "-S" => status.kind == .socket
        | "-b" => false
        | "-s" => status.size != 0
        | "-u" => status.mode &&& 0o4000 != 0
        | "-g" => status.mode &&& 0o2000 != 0
        | "-k" => status.mode &&& 0o1000 != 0
        | _ => true

/-- Two files stand in the relation that an operator asks for.  `missing` tells whether a file
that there is counts as newer than one that there is not. -/
def relates (operator left right : String) (missing : Bool := false) : Op Bool := do
  let a ← Op.status? left
  let b ← Op.status? right
  let isNewer (a b : Option Status) : Bool :=
    match a, b with
    | some a, some b => decide (b.modified < a.modified)
    | some _, none => missing
    | none, _ => false
  match operator with
  | "-ef" =>
      match a, b with
      | some a, some b => return a.node == b.node && (a.node.isSome || left == right)
      | _, _ => return false
  | "-nt" => return isNewer a b
  | _ => return isNewer b a

end CompilerDriver.Kernel.FileTest
