import CompilerDriver.Posix.Text.Characters
import CompilerDriver.Posix.Text.WideClasses

/-!
# Wildcards

A pattern matches whole texts: a star stands for any text, a question mark for any character, and a
bracket for one of the characters in it.  A backslash takes its meaning from what follows it.
-/

namespace CompilerDriver.Text

inductive GlobRange where
  | range (low high : Char)
  | named (name : String)
  deriving DecidableEq, Repr

inductive GlobItem where
  | char (c : Char)
  | anyChar
  | anyText
  | bracket (inverted : Bool) (ranges : List GlobRange)
  /-- Matches nothing. -/
  | nothing
  deriving DecidableEq, Repr

abbrev Glob := List GlobItem

namespace Glob

/-- What stands between two marks and brackets, and what follows them. -/
def between? (mark : Char) (cs : List Char) : Option (List Char × List Char) :=
  let name := cs.takeWhile (· != mark)
  match cs.drop name.length with
  | m :: ']' :: after => if m = mark then some (name, after) else none
  | _ => none

/-- A character of a bracket. -/
def bracketChar? : List Char → Option (Char × List Char)
  | '\\' :: c :: rest => some (c, rest)
  | '[' :: '.' :: rest =>
      match between? '.' rest with
      | some ([c], after) => some (c, after)
      | _ => some ('[', '.' :: rest)
  | '[' :: '=' :: rest =>
      match between? '=' rest with
      | some ([c], after) => some (c, after)
      | _ => some ('[', '=' :: rest)
  | c :: rest => some (c, rest)
  | [] => none

/-- The ranges of a bracket up to its end.  A closing bracket that comes first is one of them. -/
def bracketRanges : Nat → Bool → List Char → List GlobRange →
    Option (List GlobRange × List Char)
  | 0, _, _, _ => none
  | _ + 1, _, [], _ => none
  | n + 1, isFirst, c :: rest, found =>
      if c = ']' ∧ !isFirst then some (found, rest)
      else
        let named? := match c, rest with
          | '[', ':' :: rest => between? ':' rest
          | _, _ => none
        match named? with
        | some (name, after) => bracketRanges n false after (.named (String.ofList name) :: found)
        | none => do
            let (low, after) ← bracketChar? (c :: rest)
            match after with
            | '-' :: ']' :: _ => bracketRanges n false after (.range low low :: found)
            | '-' :: more =>
                let (high, after) ← bracketChar? more
                bracketRanges n false after (.range low high :: found)
            | _ => bracketRanges n false after (.range low low :: found)

def compileUpTo : Nat → List Char → Glob
  | 0, _ => []
  | _ + 1, [] => []
  | _ + 1, ['\\'] => [.nothing]
  | n + 1, '\\' :: c :: rest => .char c :: compileUpTo n rest
  | n + 1, '?' :: rest => .anyChar :: compileUpTo n rest
  | n + 1, '*' :: rest => .anyText :: compileUpTo n rest
  | n + 1, '[' :: rest =>
      let inverted := rest.head? == some '!' || rest.head? == some '^'
      let body := if inverted then rest.drop 1 else rest
      match bracketRanges (body.length + 1) true body [] with
      | some (ranges, after) => .bracket inverted ranges :: compileUpTo n after
      | none => .char '[' :: compileUpTo n rest
  | n + 1, c :: rest => .char c :: compileUpTo n rest

/-- The pattern that some octets stand for. -/
def ofText (s : String) : Glob := compileUpTo (s.length + 1) (characters s.toList)

def GlobRange.holds (folded : Bool) (c : Char) : GlobRange → Bool
  | .range low high =>
      (low ≤ c && c ≤ high) ||
        (folded && ((low ≤ c.toLower && c.toLower ≤ high) || (low ≤ c.toUpper && c.toUpper ≤ high)))
  | .named name =>
      isInClass true name c || (folded && (isInClass true name c.toLower ||
        isInClass true name c.toUpper))

def GlobItem.holds (folded : Bool) (c : Char) : GlobItem → Bool
  | .char d => c == d || (folded && c.toLower == d.toLower)
  | .anyChar | .anyText => true
  | .bracket inverted ranges => (ranges.any (GlobRange.holds folded c)) != inverted
  | .nothing => false

/-- A pattern matches all of some characters. -/
def accepts (folded : Bool) : Glob → List Char → Bool
  | [], cs => cs.isEmpty
  | .anyText :: p, cs =>
      accepts folded p cs ||
        match cs with
        | [] => false
        | _ :: rest => accepts folded (.anyText :: p) rest
  | .nothing :: _, _ => false
  | _ :: _, [] => false
  | item :: p, c :: cs => GlobItem.holds folded c item && accepts folded p cs
termination_by p cs => p.length + cs.length

/-- A pattern matches some octets.  `folded` takes both cases of a letter for one. -/
def matchesText (p : Glob) (s : String) (folded : Bool := false) : Bool :=
  accepts folded p (characters s.toList)

end Glob

end CompilerDriver.Text
