/-!
# JSON texts

Strings, lists and records as JSON writes them, without blanks.  Control characters, double quotes
and backslashes are written as escapes, and all else as it is.
-/

namespace CompilerDriver.Text

def jsonEscaped (c : Char) : List Char :=
  let backslash := Char.ofNat 92
  match c.toNat with
  | 8 => [backslash, 'b']
  | 9 => [backslash, 't']
  | 10 => [backslash, 'n']
  | 12 => [backslash, 'f']
  | 13 => [backslash, 'r']
  | 34 | 92 => [backslash, c]
  | n =>
      if n < 0x20 then
        [backslash, 'u', '0', '0', Nat.digitChar (n / 16), Nat.digitChar (n % 16)]
      else [c]

def jsonString (s : String) : String :=
  let quote := Char.ofNat 34
  String.ofList (quote :: s.toList.flatMap jsonEscaped ++ [quote])

def jsonStrings (items : List String) : String :=
  "[" ++ ",".intercalate (items.map jsonString) ++ "]"

/-- A record of fields whose values are JSON texts already. -/
def jsonRecord (fields : List (String × String)) : String :=
  "\x7b" ++ ",".intercalate (fields.map fun field => jsonString field.1 ++ ":" ++ field.2) ++ "\x7d"

end CompilerDriver.Text
