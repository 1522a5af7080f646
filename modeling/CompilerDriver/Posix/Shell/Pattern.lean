import CompilerDriver.Posix.Text.Classes

/-!
# Patterns

A pattern matches whole texts.  Its characters are marked: an escaped one stands for itself, and
so does one behind a backslash.
-/

namespace CompilerDriver.Shell

inductive BracketItem where
  | range (low high : Char)
  | named (name : String)
  deriving DecidableEq, Repr

inductive PatternItem where
  | char (c : Char)
  | anyChar
  | anyText
  | bracket (inverted : Bool) (items : List BracketItem)
  deriving DecidableEq, Repr

abbrev Pattern := List PatternItem

/-- A character and whether it is escaped. -/
abbrev MarkedChar := Char × Bool

namespace Pattern

/-- The name of a class behind its opening bracket, and what follows its closing one. -/
def className? (cs : List MarkedChar) : Option (String × List MarkedChar) :=
  match cs with
  | (':', _) :: rest =>
      let name := rest.takeWhile fun m => m.1.isAlpha
      match rest.drop name.length with
      | (':', _) :: (']', _) :: after =>
          let name := String.ofList (name.map Prod.fst)
          if Text.classNames.contains name then some (name, after) else none
      | _ => none
  | _ => none

/-- A character of a bracket, with a backslash in front of it or not. -/
def bracketChar? : List MarkedChar → Option (Char × List MarkedChar)
  | ('\\', false) :: (c, _) :: rest => some (c, rest)
  | (c, _) :: rest => some (c, rest)
  | [] => none

/-- The items of a bracket up to its end.  A closing bracket that comes first is an item. -/
def bracketItems : Nat → Bool → List MarkedChar → List BracketItem →
    Option (List BracketItem × List MarkedChar)
  | 0, _, _, _ => none
  | n + 1, first, cs, items =>
      match cs with
      | [] => none
      | (c, escaped) :: rest =>
          if c = ']' ∧ !escaped ∧ !first then some (items, rest)
          else
            match if c = '[' ∧ !escaped then className? rest else none with
            | some (name, after) => bracketItems n false after (.named name :: items)
            | none =>
                match bracketChar? cs with
                | none => none
                | some (low, after) =>
                    match after with
                    | ('-', false) :: more =>
                        match more with
                        | [] | (']', false) :: _ =>
                            bracketItems n false after (.range low low :: items)
                        | _ =>
                            match bracketChar? more with
                            | none => none
                            | some (high, after) =>
                                bracketItems n false after (.range low high :: items)
                    | _ => bracketItems n false after (.range low low :: items)

def bracket? (cs : List MarkedChar) : Option (PatternItem × List MarkedChar) :=
  let (inverted, body) :=
    match cs with
    | ('!', false) :: rest => (true, rest)
    | _ => (false, cs)
  (bracketItems (body.length + 1) true body []).map fun (items, rest) =>
    (.bracket inverted items, rest)

def compileUpTo : Nat → List MarkedChar → Pattern
  | 0, _ => []
  | _ + 1, [] => []
  | n + 1, (c, true) :: rest => .char c :: compileUpTo n rest
  | n + 1, (c, false) :: rest =>
      match c, rest with
      | '\\', (c, _) :: rest => .char c :: compileUpTo n rest
      | '?', _ => .anyChar :: compileUpTo n rest
      | '*', _ => .anyText :: compileUpTo n rest
      | '[', _ =>
          match bracket? rest with
          | some (item, after) => item :: compileUpTo n after
          | none => .char '[' :: compileUpTo n rest
      | c, _ => .char c :: compileUpTo n rest

def compile (cs : List MarkedChar) : Pattern := compileUpTo cs.length cs

def BracketItem.accepts (item : BracketItem) (c : Char) : Bool :=
  match item with
  | .range low high => low ≤ c && c ≤ high
  | .named name => Text.inClass name c

def PatternItem.accepts (item : PatternItem) (c : Char) : Bool :=
  match item with
  | .char d => c == d
  | .anyChar | .anyText => true
  | .bracket inverted items => (items.any fun i => BracketItem.accepts i c) != inverted

/-- The pattern matches the whole text. -/
def accepts : Pattern → List Char → Bool
  | [], cs => cs.isEmpty
  | .anyText :: p, cs =>
      accepts p cs ||
        match cs with
        | [] => false
        | _ :: rest => accepts (.anyText :: p) rest
  | _ :: _, [] => false
  | item :: p, c :: cs => PatternItem.accepts item c && accepts p cs
termination_by p cs => p.length + cs.length

def isLiteral (p : Pattern) : Bool :=
  p.all fun
    | .char _ => true
    | _ => false

/-- The characters of a pattern without special items. -/
def literal (p : Pattern) : List Char :=
  p.filterMap fun
    | .char c => some c
    | _ => none

/-! ## Trimming -/

/-- The lengths from nothing to the whole text, in the order in which they are tried. -/
def cuts (longest : Bool) (length : Nat) : List Nat :=
  let up := List.range (length + 1)
  if longest then up.reverse else up

def trimStart (p : Pattern) (longest : Bool) (cs : List Char) : List Char :=
  match (cuts longest cs.length).find? fun n => accepts p (cs.take n) with
  | some n => cs.drop n
  | none => cs

def trimEnd (p : Pattern) (longest : Bool) (cs : List Char) : List Char :=
  match (cuts longest cs.length).find? fun n => accepts p (cs.drop (cs.length - n)) with
  | some n => cs.take (cs.length - n)
  | none => cs

end Pattern

end CompilerDriver.Shell
