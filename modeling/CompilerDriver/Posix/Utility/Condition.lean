import CompilerDriver.Posix.Kernel.FileTest
import CompilerDriver.Posix.Utility.Quantity

/-!
# Conditions

`test` as a program, which also goes by the name of an opening bracket.  Up to four words have a
meaning by their number; more are an expression.
-/

namespace CompilerDriver.Utility

open Kernel

/-- The words ahead, and the last one of all. -/
structure Clause where
  call : Call
  ahead : List String
  last : String

abbrev Condition := StateT Clause Act

def refuseCondition {α : Type} (message : String) : Condition α := do
  let call := (← get).call
  StateT.lift (giveUp call 2 message)

def missingWord {α : Type} : Condition α := do
  refuseCondition ("missing argument after " ++ quoteText (← get).last)

def skipWord : Condition Unit := modify fun s => { s with ahead := s.ahead.drop 1 }

/-- Passes over a word behind which there has to be another one. -/
def passWord : Condition Unit := do
  skipWord
  if (← get).ahead.isEmpty then missingWord

def isNumeric (s : String) : Bool := ["-eq", "-ne", "-lt", "-le", "-gt", "-ge"].contains s

def isBinary (s : String) : Bool :=
  isNumeric s || ["=", "!=", "==", "-nt", "-ot", "-ef"].contains s

def isSwitch (s : String) : Bool :=
  match s.toList with
  | ['-', _] => true
  | _ => false

/-- The whole number that a word stands for, with blanks around it. -/
def conditionNumber (s : String) : Condition Int := do
  let cs := s.toList.dropWhile Text.isWhiteSpace
  let (negative, cs) :=
    match cs with
    | '-' :: rest => (true, rest)
    | '+' :: rest => (false, rest)
    | _ => (false, cs)
  let digits := cs.takeWhile Char.isDigit
  if digits.isEmpty ∨ !(cs.drop digits.length).all Text.isWhiteSpace then
    refuseCondition ("invalid integer " ++ quoteText s)
  return if negative then -(digitsValue digits : Int) else digitsValue digits

def unaryOperators : String := "erwxNOGfdsScbpgkLhutnz"

def unaryCondition : Condition Bool := do
  let operator := (← get).ahead.headD ""
  if !(operator.toList.drop 1).all unaryOperators.toList.contains then
    refuseCondition (quoteText operator ++ ": unary operator expected")
  passWord
  let operand := (← get).ahead.headD ""
  skipWord
  match operator with
  | "-t" =>
      let _ ← conditionNumber operand
      return false
  | "-n" => return !operand.isEmpty
  | "-z" => return operand.isEmpty
  | _ => FileTest.holds operator operand

/-- A relation of two words, of which each one may be asked for its length. -/
def binaryCondition (leftLength : Bool) : Condition Bool := do
  if leftLength then skipWord
  let words := (← get).ahead
  let left := words.headD ""
  let operator := words.getD 1 ""
  let rightLength := words.length > 3 && words[2]? == some "-l"
  let right := if rightLength then words.getD 3 "" else words.getD 2 ""
  modify fun s => { s with ahead := s.ahead.drop (if rightLength then 4 else 3) }
  if isNumeric operator then
    let a ← if leftLength then pure (left.length : Int) else conditionNumber left
    let b ← if rightLength then pure (right.length : Int) else conditionNumber right
    return match operator with
      | "-eq" => a == b
      | "-ne" => a != b
      | "-ge" => decide (a ≥ b)
      | "-gt" => decide (a > b)
      | "-le" => decide (a ≤ b)
      | _ => decide (a < b)
  match operator with
  | "=" | "==" => return left == right
  | "!=" => return left != right
  | _ =>
      if leftLength ∨ rightLength then refuseCondition (operator ++ " does not accept -l")
      FileTest.relates operator left right true

def wordCondition : Condition Bool := do
  let word := (← get).ahead.headD ""
  skipWord
  return !word.isEmpty

/-- The parts of an expression. -/
inductive ConditionPart where
  /-- A number of words, whose meaning goes by it. -/
  | words (count : Nat)
  | disjunction
  | conjunction
  | term
  deriving DecidableEq, Repr

def negated (condition : Condition Bool) : Condition Bool := return !(← condition)

def condition : Nat → ConditionPart → Condition Bool
  | 0, _ => return false
  | n + 1, .disjunction => do
      let a ← condition n .conjunction
      if (← get).ahead.head? ≠ some "-o" then return a
      skipWord
      let b ← condition n .disjunction
      return a || b
  | n + 1, .conjunction => do
      let a ← condition n .term
      if (← get).ahead.head? ≠ some "-a" then return a
      skipWord
      let b ← condition n .conjunction
      return a && b
  | n + 1, .term => do
      match (← get).ahead with
      | [] => missingWord
      | "!" :: _ =>
          passWord
          negated (condition n .term)
      | "(" :: _ =>
          passWord
          let words := (← get).ahead
          let inside := 1 + ((words.drop 1).takeWhile (· != ")")).length
          let value ← condition n (.words (if inside ≤ 4 then inside else words.length))
          match (← get).ahead with
          | [] => refuseCondition (quoteText ")" ++ " expected")
          | ")" :: _ =>
              skipWord
              return value
          | w :: _ => refuseCondition (quoteText ")" ++ " expected, found " ++ quoteText w)
      | w :: rest =>
          if rest.length ≥ 3 ∧ w = "-l" ∧ isBinary (rest.getD 1 "") then binaryCondition true
          else if rest.length ≥ 2 ∧ isBinary (rest.headD "") then binaryCondition false
          else if isSwitch w then unaryCondition
          else wordCondition
  | n + 1, .words count => do
      let words := (← get).ahead
      let opens := words.head? = some "("
      match count with
      | 0 => return false
      | 1 => wordCondition
      | 2 =>
          if words.head? = some "!" then
            skipWord
            negated wordCondition
          else if isSwitch (words.headD "") then unaryCondition
          else missingWord
      | 3 =>
          let middle := words.getD 1 ""
          if isBinary middle then binaryCondition false
          else if words.head? = some "!" then
            passWord
            negated (condition n (.words 2))
          else if opens ∧ words[2]? = some ")" then
            skipWord
            let value ← wordCondition
            skipWord
            return value
          else if middle = "-a" ∨ middle = "-o" then condition n .disjunction
          else refuseCondition (quoteText middle ++ ": binary operator expected")
      | _ =>
          if count = 4 ∧ words.head? = some "!" then
            passWord
            negated (condition n (.words 3))
          else if count = 4 ∧ opens ∧ words[3]? = some ")" then
            skipWord
            let value ← condition n (.words 2)
            skipWord
            return value
          else condition n .disjunction

def testProgram (isBracket : Bool) : Utility := fun call => do
  if isBracket ∧ call.arguments.getLast? ≠ some "]" then
    giveUp call 2 ("missing " ++ quoteText "]")
  let words := if isBracket then call.arguments.dropLast else call.arguments
  if words.isEmpty then return 1
  let whole : Condition Bool := do
    let value ← condition (8 * words.length + 8) (.words words.length)
    match (← get).ahead with
    | [] => return value
    | w :: _ => refuseCondition ("extra argument " ++ quoteText w)
  let (value, _) ← whole.run ⟨call, words, words.getLastD ""⟩
  return if value then 0 else 1

end CompilerDriver.Utility
