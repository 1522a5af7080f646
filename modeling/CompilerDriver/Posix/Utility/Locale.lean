import CompilerDriver.Posix.Text.WideClasses
import CompilerDriver.Posix.Text.Width
import CompilerDriver.Posix.Utility.Basic

/-!
# Locales

Whether a utility takes octets together to characters is a matter of its environment.
-/

namespace CompilerDriver.Utility

open Kernel

/-- The characters of some octets, or the octets themselves. -/
def charactersIf (unicode : Bool) (octets : List Char) : List Char :=
  if unicode then Text.characters octets else octets

/-- The octets of what `charactersIf` gives. -/
def octetsIf (unicode : Bool) (cs : List Char) : String :=
  if unicode then Text.octetsOfCharacters cs else String.ofList cs

end CompilerDriver.Utility
