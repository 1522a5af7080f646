import CompilerDriver.Posix.Utility.Finding.Expression

/-!
# The grammar of expressions about files

Tests and actions side by side must all hold; `-o` asks for one of two, a comma joins two of which
the second one counts, `!` is for the opposite, and parentheses group.
-/

namespace CompilerDriver.Utility.Finding

inductive Item where
  | primary (e : Expression)
  | negation (name : String)
  | conjunction (name : String)
  | disjunction (name : String)
  | comma (name : String)
  | opening (name : String)
  | closing
  /-- Closes what the user has written, before the action that is taken if there is none. -/
  | ending
  deriving Inhabited

namespace Item

/-- How tightly an operator binds its operands. -/
def strength : Item → Nat
  | comma _ => 1
  | disjunction _ => 2
  | conjunction _ => 3
  | _ => 0

def negationStrength : Nat := 4

/-- An operand may stand right behind it, for which a conjunction is meant. -/
def endsOperand : Item → Bool
  | primary _ | closing | ending => true
  | _ => false

/-- An operand starts with it. -/
def startsOperand : Item → Bool
  | primary _ | negation _ | opening _ => true
  | _ => false

end Item

/-- Items with the conjunctions that are meant between operands. -/
def withConjunctions : List Item → List Item
  | a :: b :: rest =>
      if a.endsOperand && b.startsOperand then
        a :: .conjunction "-a" :: withConjunctions (b :: rest)
      else a :: withConjunctions (b :: rest)
  | items => items

namespace Grammar

def noOperand (name : String) : String :=
  "invalid expression; you have used a binary operator '" ++ name ++ "' with nothing before it."

def notClosed (name : String) : String :=
  "invalid expression; expected to find a ')' but didn't see one. " ++
    "Perhaps you need an extra predicate after '" ++ name ++ "'"

def notClosedSomewhere : String :=
  "invalid expression; I was expecting to find a ')' somewhere but did not see one."

mutual

/-- Reads an operand and the operators behind it that bind more tightly than `strength`.  `before`
is the operator that stands in front. -/
def operand : Nat → Nat → String → List Item → Except String (Expression × List Item)
  | 0, _, _, _ | _, _, _, [] => .error "invalid expression"
  | n + 1, strength, before, item :: rest => do
      let (first, rest) ←
        match item with
        | .primary e => pure (e, rest)
        | .negation name => do
            let (e, rest) ← operand n Item.negationStrength name rest
            pure (.negation e, rest)
        | .conjunction name | .disjunction name | .comma name => .error (noOperand name)
        | .ending => .error ("expected an expression after '" ++ before ++ "'")
        | .closing => .error ("expected an expression between '" ++ before ++ "' and ')'")
        | .opening name =>
            match rest with
            | [] | .ending :: _ => .error (notClosed name)
            | .closing :: _ => .error "invalid expression; empty parentheses are not allowed."
            | rest => do
                let (e, rest) ← operand n 0 name rest
                match rest with
                | .closing :: rest | .ending :: rest => pure (e, rest)
                | _ => .error notClosedSomewhere
      operators n strength first rest

/-- Reads the operators behind an operand that bind more tightly than `strength`. -/
def operators : Nat → Nat → Expression → List Item → Except String (Expression × List Item)
  | 0, _, e, rest => .ok (e, rest)
  | _ + 1, _, e, [] => .ok (e, [])
  | n + 1, strength, e, item :: rest =>
      if item.strength ≤ strength then .ok (e, item :: rest)
      else do
        let read (name : String) (join : Expression → Expression → Expression) :
            Except String (Expression × List Item) := do
          let (right, rest) ← operand n item.strength name rest
          operators n strength (join e right) rest
        match item with
        | .conjunction name => read name .conjunction
        | .disjunction name => read name .disjunction
        | .comma name => read name .sequence
        | _ => .error "invalid expression"

end

end Grammar

/-- The expression that some items make up.  If `prints`, the path of a file for which it holds is
printed. -/
def expressionOf (items : List Item) (prints : Bool) : Except String Expression := do
  let print : Item := .primary (.action pathLine)
  let all := if items.isEmpty then [print]
    else if prints then .opening "(" :: items ++ [.ending, print]
    else items
  let all := withConjunctions all
  let (e, rest) ← Grammar.operand (4 * all.length + 4) 0 "" all
  match rest with
  | [] => return e
  | .closing :: _ | .ending :: _ => .error "you have too many ')'"
  | _ => .error "unexpected extra predicate"

end CompilerDriver.Utility.Finding
