import CompilerDriver.Posix.Text.Characters
import CompilerDriver.Posix.Text.Classes
import CompilerDriver.Posix.Text.Letters

/-!
# Classes of all characters

The named classes of characters, in which characters above U+007F may have a place too.
-/

namespace CompilerDriver.Text

/-- A character that has a glyph or is a space. -/
def isPrinted (wide : Bool) (c : Char) : Bool :=
  if c.toNat < 127 then 32 ≤ c.toNat
  else wide && 160 ≤ c.toNat && !isStray c && c.toNat != 0x2028 && c.toNat != 0x2029

/-- White space above U+007F, but for that which does not break lines. -/
def isWideSpace (c : Char) : Bool :=
  let n := c.toNat
  n == 0x1680 || (0x2000 ≤ n && n ≤ 0x200A && n != 0x2007) || n == 0x2028 || n == 0x2029 ||
    n == 0x205F || n == 0x3000

def isNoBreakSpace (c : Char) : Bool := [0xA0, 0x2007, 0x202F, 0x2060].contains c.toNat

/-- Whether a character above U+007F belongs to the class of a name. -/
def isInWideClass (name : String) (c : Char) : Bool :=
  let isGraphic := isPrinted true c && !isWideSpace c
  match name with
  | "alpha" | "alnum" => isLetter c
  | "upper" => isUpperLetter c
  | "lower" => isLowerLetter c
  | "space" => isWideSpace c
  | "blank" => isWideSpace c && c.toNat != 0x2028 && c.toNat != 0x2029
  | "punct" => isGraphic && !isLetter c
  | "print" => isPrinted true c
  | "graph" => isGraphic
  | "cntrl" => !isPrinted true c && !isStray c
  | _ => false

def isInClass (wide : Bool) (name : String) (c : Char) : Bool :=
  if c.toNat < 128 then inClass name c else wide && isInWideClass name c

end CompilerDriver.Text
