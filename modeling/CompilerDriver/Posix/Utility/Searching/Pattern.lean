import CompilerDriver.Posix.Text.Regex.FirstMatch
import CompilerDriver.Posix.Text.Regex.Reading

/-!
# Search patterns

What `grep` looks for in each line: one of some patterns, written in one of four ways, which may
have to match whole words or the whole line.
-/

namespace CompilerDriver.Utility.Searching

open Text (Regex)

inductive PatternKind where
  | basic
  | extended
  | fixed
  /-- The first match counts, and not the longest one. -/
  | first
  deriving DecidableEq, Repr

/-- How patterns match. -/
structure PatternStyle where
  kind : PatternKind
  wholeWords : Bool
  wholeLines : Bool
  ignoreCase : Bool
  unicode : Bool

def literal (cs : List Char) : Regex := cs.foldr (fun c r => .seq (.char c) r) .empty

/-- A pattern, and the operators that have nothing before them. -/
def PatternStyle.read (style : PatternStyle) (cs : List Char) :
    Except String (Regex × List String) :=
  let posix (extended : Bool) : Except String (Regex × List String) :=
    (Regex.read { extended, checksClasses := true } cs).mapError Regex.ReadError.message
  match style.kind with
  | .fixed => .ok (literal cs, [])
  | .basic => (posix false).map fun (r, _) => (r, [])
  | .extended => posix true
  | .first =>
      match Regex.FirstMatch.ofText cs with
      | .ok r => .ok (r, [])
      | .error e => .error e.message

/-- An expression that matches only what is bounded as asked for. -/
def PatternStyle.bounded (style : PatternStyle) (r : Regex) : Regex :=
  let between (before after : Regex) : Regex := .seq before (.seq r after)
  if style.wholeLines then between (.assertion .textStart) (.assertion .textEnd)
  else if style.wholeWords then
    if style.kind = .first then
      between (.look true true Regex.FirstMatch.wordChar)
        (.look false true Regex.FirstMatch.wordChar)
    else between (.assertion .notAfterWord) (.assertion .notBeforeWord)
  else r

/-- The program for some expressions, of which one has to match; without any, nothing matches. -/
def PatternStyle.program? (style : PatternStyle) : List Regex → Option Regex.Program
  | [] => none
  | r :: rest =>
      some (Regex.compile (rest.foldl (fun a b => .alt a (style.bounded b)) (style.bounded r))
        { ignoreCase := style.ignoreCase, wide := style.unicode,
          takesFirst := style.kind == .first })

/-- The places in a line at which there are matches, one behind the other; empty ones are left
out. -/
def matchesIn (p : Regex.Program) (line : Array Char) : Nat → Nat → List (Nat × Nat)
  | 0, _ => []
  | n + 1, place =>
      match p.find? line true place with
      | none => []
      | some slots =>
          let first := Regex.startOf slots
          let last := Regex.endOf slots
          if last ≤ first then matchesIn p line n (max first last + 1)
          else (first, last) :: matchesIn p line n last

end CompilerDriver.Utility.Searching
