import CompilerDriver.Posix.Text.Characters

/-!
# Names in messages

A name in a message is quoted so that a shell would read it back, and a text stands between
typographic quotes.  What is not printable stands in escapes of its own.
-/

namespace CompilerDriver.Utility

/-- The characters that quotes keep from having a meaning. -/
def isShellSpecial (c : Char) : Bool := " !\"$&()*;<=>[^`|\\?".toList.contains c

/-- Control characters, and octets that are no part of a character. -/
def isUnprintable (c : Char) : Bool :=
  c.toNat < 32 || (127 ≤ c.toNat && c.toNat < 160) || Text.isStray c

def octal (n : Nat) : List Char :=
  let digits := Nat.toDigits 8 n
  List.replicate (3 - digits.length) '0' ++ digits

/-- An escape of a character that is not printable. -/
def escaped (c : Char) : List Char :=
  match c with
  | '\x07' => ['\\', 'a']
  | '\x08' => ['\\', 'b']
  | '\t' => ['\\', 't']
  | '\n' => ['\\', 'n']
  | '\x0b' => ['\\', 'v']
  | '\x0c' => ['\\', 'f']
  | '\r' => ['\\', 'r']
  | c => (Text.octetsOfCharacter c).flatMap fun o => '\\' :: octal o.toNat

/-- The characters between single quotes; `inEscape` tells whether the last one was escaped. -/
def quoteBody : Bool → List Char → List Char
  | _, [] => []
  | inEscape, c :: rest =>
      if isUnprintable c then
        (if inEscape then [] else ['\'', '$', '\'']) ++ escaped c ++ quoteBody true rest
      else
        let start := if inEscape then ['\'', '\''] else []
        if c = '\'' then start ++ ['\'', '\\', '\'', '\''] ++ quoteBody false rest
        else start ++ c :: quoteBody false rest

/-- Between double quotes nothing in a name but blanks and apostrophes is special. -/
def fitsDoubleQuotes (c : Char) : Bool :=
  c == ' ' || c == '\'' || !(isShellSpecial c || isUnprintable c || "#~\x7b\x7d".toList.contains c)

/-- A name between quotes. -/
def quoteAlways (s : String) : String :=
  let cs := Text.characters s.toList
  if cs.contains '\'' ∧ cs.all fitsDoubleQuotes then "\"" ++ s ++ "\""
  else "'" ++ Text.octetsOfCharacters (quoteBody false cs) ++ "'"

def needsQuotes (s : String) : Bool :=
  let cs := Text.characters s.toList
  cs.isEmpty || s == "\x7b" || s == "\x7d" || cs.head? == some '#' || cs.head? == some '~' ||
    cs.any fun c => isShellSpecial c || isUnprintable c || c == '\''

/-- A name as it is, unless a shell would not read it as a single word. -/
def quoteName (s : String) : String :=
  if needsQuotes s || s.toList.contains ':' then quoteAlways s else s

def leftQuote : Char := Char.ofNat 0x2018
def rightQuote : Char := Char.ofNat 0x2019

/-- A text between typographic quotes, with escapes in it. -/
def quoteText (s : String) : String :=
  let body (c : Char) : List Char :=
    if c = rightQuote ∨ c = '\\' then ['\\', c] else if isUnprintable c then escaped c else [c]
  Text.octetsOfCharacters
    (leftQuote :: (Text.characters s.toList).flatMap body ++ [rightQuote])

/-- An octal escape of each octet of a character. -/
def octalEscapes (c : Char) : List Char :=
  (Text.octetsOfCharacter c).flatMap fun o => '\\' :: octal o.toNat

/-- What stands between typographic quotes, and whatever follows, for a locale that has neither
these quotes nor any character beyond the first 128. -/
def plainText : Bool → List Char → List Char
  | _, [] => []
  | true, '\\' :: c :: rest =>
      (if c = rightQuote then octalEscapes c else ['\\', c]) ++ plainText true rest
  | inside, c :: rest =>
      if c = leftQuote ∨ c = rightQuote then '\'' :: plainText (c == leftQuote) rest
      else
        let shown :=
          if !inside then [c]
          else if c = '\'' then ['\\', c]
          else if c.toNat < 128 then [c]
          else octalEscapes c
        shown ++ plainText inside rest

/-- A message as it is where no character beyond the first 128 is known. -/
def inPlainText (message : String) : String :=
  Text.octetsOfCharacters (plainText false (Text.characters message.toList))

/-- A text between apostrophes, with escapes in it. -/
def quotePlain (s : String) : String :=
  let body (c : Char) : List Char :=
    if c = '\'' ∨ c = '\\' then ['\\', c] else if isUnprintable c then escaped c else [c]
  "'" ++ Text.octetsOfCharacters ((Text.characters s.toList).flatMap body) ++ "'"

end CompilerDriver.Utility
