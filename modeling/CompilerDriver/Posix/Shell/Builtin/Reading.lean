import CompilerDriver.Posix.Shell.Builtin.Options
import CompilerDriver.Posix.Shell.Fields
import CompilerDriver.Posix.Shell.Task

/-!
# Reading a line

`read` takes a line and cuts it into variables.  Unless it is told not to, it takes
a backslash as a quote.
-/

namespace CompilerDriver.Shell.Builtin

open Kernel

/-- The next character of the input; none at the end. -/
def readOctet : Act (Option Char) := do
  Act.forever do
    match ← Act.readBytes 0 1 with
    | .ok bytes => return some (bytes.data[0]?.map Text.octetOf)
    | .error .interrupted =>
        noteSignals
        return if (← state).pendingTraps.isEmpty then none else some none
    | .error _ => return some none

/-- The items of a line, last first, and whether a newline ends it. -/
def readItems (raw : Bool) : Nat → Bool → List Item → Act (List Item × Bool)
  | 0, _, items => return (items, false)
  | n + 1, escaped, items => do
      match ← readOctet with
      | none => return (items, false)
      | some c =>
          if c = '\x00' then readItems raw n escaped items
          else if escaped then
            readItems raw n false (if c = '\n' then items else .char c true :: items)
          else if c = '\\' ∧ !raw then readItems raw n true items
          else if c = '\n' then return (items, true)
          else readItems raw n false (.char c false :: items)

def read : Builtin := fun arguments => do
  let parsed ← parse "r" "p" arguments
  if parsed.operands.isEmpty then fail "arg count"
  let (items, ended) ← readItems (parsed.has 'r') Act.maxTurns false []
  let separators := (← separators?).getD defaultSeparators
  let fields := cutUpTo separators parsed.operands.length items.reverse
  for (name, i) in parsed.operands.zipIdx do
    assign name (Item.toText (fields.getD i []))
  return if ended then 0 else 1

end CompilerDriver.Shell.Builtin
