import CompilerDriver.Text.Units

/-!
# Quoted texts

A text as a message shows it: between marks that it does not hold, if there are any, with its
control characters and backslashes written as escapes.
-/

namespace CompilerDriver.Text

def apostrophe : Char := Char.ofNat 39

/-- The dollar sign and brace that a text between grave accents may not hold. -/
def holdsOpening : List Char → Bool
  | [] => false
  | c :: cs => (c == '$' && cs.head? == some '{') || holdsOpening cs

/-- Apostrophes unless the text holds one, then double quotes, then grave accents. -/
def quoteMark (cs : List Char) : Char :=
  let double := Char.ofNat 34
  let grave := Char.ofNat 96
  if !cs.contains apostrophe then apostrophe
  else if !cs.contains double then double
  else if !cs.contains grave && !holdsOpening cs then grave
  else apostrophe

def hexPair (n : Nat) : List Char :=
  [Nat.digitChar (n / 16), Nat.digitChar (n % 16)].map Char.toUpper

def escaped (mark c : Char) : List Char :=
  let backslash := Char.ofNat 92
  match c.toNat with
  | 8 => [backslash, 'b']
  | 9 => [backslash, 't']
  | 10 => [backslash, 'n']
  | 12 => [backslash, 'f']
  | 13 => [backslash, 'r']
  | n =>
      if c = backslash ∨ (c = apostrophe ∧ mark = apostrophe) then [backslash, c]
      else if n < 0x20 ∨ (0x7F ≤ n ∧ n < 0xA0) then backslash :: 'x' :: hexPair n
      else [c]

def quote (cs : List Char) : List Char :=
  let mark := quoteMark cs
  mark :: cs.flatMap (escaped mark) ++ [mark]

/-! ## Long texts -/

/-- The lines of a text, each with its newline. -/
def lines : List Char → List (List Char)
  | [] => []
  | c :: cs =>
      if c = '\n' then [c] :: lines cs
      else
        match lines cs with
        | [] => [[c]]
        | line :: rest => (c :: line) :: rest

theorem flatten_lines (cs : List Char) : (lines cs).flatten = cs := by
  induction cs with
  | nil => rfl
  | cons c cs ih =>
      rw [lines]
      split
      · simp [ih]
      · split <;> simp_all

/-- A text of more units than this is quoted line by line. -/
def maxJoinedUnits : Nat := 124

/-- The most units of a quoted text that a message shows. -/
def maxShownUnits : Nat := 128

/-- The units of a text that are looked at. -/
def maxReadUnits : Nat := 10000

/-- A text in quotes; the lines of a long one are quoted one by one and joined by a sum. -/
def quoteLines (s : String) : List Char :=
  if units s ≤ maxJoinedUnits then quote s.toList
  else " +\n  ".toList.intercalate ((lines s.toList).map quote)

/-- A quoted text, cut off where it gets long. -/
def shown (s : String) : String :=
  let quoted := quoteLines (String.ofList (takeUnits maxReadUnits s.toList))
  if maxShownUnits < units (String.ofList quoted) then
    String.ofList (takeUnits maxShownUnits quoted) ++ "..."
  else String.ofList quoted

end CompilerDriver.Text
