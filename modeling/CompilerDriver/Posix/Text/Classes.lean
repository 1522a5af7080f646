/-!
# Character classes

The named classes of characters in patterns.  Only characters of the ASCII range belong to any.
-/

namespace CompilerDriver.Text

/-- Whether a character has a glyph or is the space. -/
def isPrintable (c : Char) : Bool := 32 ≤ c.toNat && c.toNat < 127

def isWhiteSpace (c : Char) : Bool := c == ' ' || (9 ≤ c.toNat && c.toNat ≤ 13)

/-- The names between the brackets and colons of a class. -/
def classNames : List String :=
  ["alpha", "digit", "alnum", "upper", "lower", "space", "blank", "punct", "print", "graph",
    "cntrl", "xdigit"]

/-- Whether a character belongs to the class of a name; to a class that there is not, none does. -/
def inClass (name : String) (c : Char) : Bool :=
  match name with
  | "alpha" => c.isAlpha
  | "digit" => c.isDigit
  | "alnum" => c.isAlphanum
  | "upper" => c.isUpper
  | "lower" => c.isLower
  | "space" => isWhiteSpace c
  | "blank" => c == ' ' || c == '\t'
  | "punct" => isPrintable c && !c.isAlphanum && c != ' '
  | "print" => isPrintable c
  | "graph" => isPrintable c && c != ' '
  | "cntrl" => c.toNat < 32 || c.toNat == 127
  | "xdigit" => "0123456789ABCDEFabcdef".toList.contains c
  | _ => false

end CompilerDriver.Text
