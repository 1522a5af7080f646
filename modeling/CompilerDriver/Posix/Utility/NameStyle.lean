import CompilerDriver.Posix.Utility.Quoting

/-!
# Styles of names

How a name is shown: as it is, with quotes for a shell, or with escapes.
-/

namespace CompilerDriver.Utility

inductive NameStyle where
  | literal
  /-- For a shell; `escapes` writes what is not printable in escapes, and `always` puts quotes
  around names that would not need them. -/
  | shell (escapes always : Bool)
  /-- Between double quotes, with escapes; `maybe` leaves them out where there is no escape. -/
  | doubled (maybe : Bool)
  | escaped
  /-- Between the quotes of the locale, of which there are two kinds. -/
  | typographic (double : Bool)
  deriving DecidableEq, Repr, Inhabited

def nameStyles : List (String × NameStyle) := [
  ("literal", .literal), ("shell", .shell false false), ("shell-always", .shell false true),
  ("shell-escape", .shell true false), ("shell-escape-always", .shell true true),
  ("c", .doubled false), ("c-maybe", .doubled true), ("escape", .escaped),
  ("locale", .typographic false), ("clocale", .typographic true)]

namespace NameStyle

/-- Characters with escapes for those that are not printable and for some more. -/
def withEscapes (more : List Char) (cs : List Char) : List Char :=
  cs.flatMap fun c =>
    if c = '\\' ∨ more.contains c then ['\\', c]
    else if isUnprintable c then escaped' c
    else [c]
where
  escaped' (c : Char) : List Char := CompilerDriver.Utility.escaped c

/-- A name between apostrophes, in which only these are escaped. -/
def plainQuoted (cs : List Char) : List Char :=
  '\'' :: (cs.flatMap fun c => if c = '\'' then "'\\''".toList else [c]) ++ ['\'']

/-- A name in a style.  `more` holds characters that are quoted too. -/
def apply (style : NameStyle) (more : List Char) (s : String) : String :=
  let cs := Text.characters s.toList
  let text (cs : List Char) : String := Text.octetsOfCharacters cs
  match style with
  | literal => s
  | escaped => text (withEscapes more cs)
  | doubled maybe =>
      let body := withEscapes ('"' :: more) cs
      if maybe && body == cs then s else text ('"' :: body ++ ['"'])
  | typographic _ => quoteText s
  | shell escapes always =>
      let strange (c : Char) : Bool :=
        if escapes then isUnprintable c else ['\t', '\n', '\r'].contains c
      let needs := always || cs.isEmpty || s == "\x7b" || s == "\x7d" ||
        cs.head? == some '#' || cs.head? == some '~' ||
        cs.any fun c => isShellSpecial c || strange c || c == '\'' || more.contains c
      if !needs then s
      else if escapes then quoteAlways s
      else if cs.contains '\'' ∧ cs.all fitsDoubleQuotes then "\"" ++ s ++ "\""
      else text (plainQuoted cs)

end NameStyle

end CompilerDriver.Utility
