import CompilerDriver.Posix.Kernel.FileTest
import CompilerDriver.Posix.Shell.Arithmetic
import CompilerDriver.Posix.Shell.Builtin.Options

/-!
# Tests

The expressions of `test`: operators on files, texts and numbers, joined by `-a`, `-o`, `!` and
parentheses.
-/

namespace CompilerDriver.Shell.Builtin

open Kernel

inductive TestKind where
  | unary
  | binary
  | negation
  | conjunction
  | disjunction
  | open
  | close
  deriving DecidableEq, Repr

def testKind? (s : String) : Option TestKind :=
  if ["-r", "-w", "-x", "-e", "-f", "-d", "-c", "-b", "-p", "-u", "-g", "-k", "-s", "-t", "-z",
      "-n", "-h", "-L", "-S", "-O", "-G"].contains s then some .unary
  else if ["=", "!=", "<", ">", "-eq", "-ne", "-ge", "-gt", "-le", "-lt", "-nt", "-ot",
      "-ef"].contains s then some .binary
  else
    match s with
    | "!" => some .negation
    | "-a" => some .conjunction
    | "-o" => some .disjunction
    | "(" => some .open
    | ")" => some .close
    | _ => none

/-- What a word is where it stands: an operator that would lack its operand is none. -/
def testToken (words : List String) : Option TestKind :=
  match words with
  | [] => none
  | s :: rest =>
      let isOperand : Bool :=
        match rest with
        | [] => true
        | [_] => false
        | next :: _ => testKind? next == some .binary
      match testKind? s with
      | some .unary => if isOperand then none else some .unary
      | some .open => if rest.isEmpty then none else some .open
      | kind => kind

def testNumber (s : String) : Act Int :=
  match Arithmetic.integerOf? s with
  | some n =>
      if s.isEmpty ∨ s.toList.all Arithmetic.isSpace then fail ("Illegal number: " ++ s)
      else return n
  | none => fail ("Illegal number: " ++ s)

def testUnary (operator operand : String) : Act Bool := do
  match operator with
  | "-z" => return operand.isEmpty
  | "-n" => return !operand.isEmpty
  | "-t" =>
      let _ ← testNumber operand
      return false
  | _ => FileTest.holds operator operand

def testBinary (operator left right : String) : Act Bool := do
  let compare (f : Int → Int → Bool) : Act Bool := do
    let a ← testNumber left
    return f a (← testNumber right)
  match operator with
  | "=" => return left == right
  | "!=" => return left != right
  | "<" => return decide (left < right)
  | ">" => return decide (right < left)
  | "-eq" => compare fun a b => a == b
  | "-ne" => compare fun a b => a != b
  | "-ge" => compare fun a b => decide (a ≥ b)
  | "-gt" => compare fun a b => decide (a > b)
  | "-le" => compare fun a b => decide (a ≤ b)
  | "-lt" => compare fun a b => decide (a < b)
  | _ => FileTest.relates operator left right

/-- An expression and its parts. -/
inductive TestPart where
  | disjunction
  | conjunction
  | negation
  deriving DecidableEq, Repr

/-- Evaluates a part of an expression at the start of the words, and gives the words from its last
one on. -/
def testPart : Nat → TestPart → List String → Act (Bool × List String)
  | 0, _, words => return (false, words)
  | n + 1, .disjunction, words => do
      let (a, rest) ← testPart n .conjunction words
      if testToken (rest.drop 1) = some .disjunction then
        let (b, rest) ← testPart n .disjunction (rest.drop 2)
        return (a || b, rest)
      return (a, rest)
  | n + 1, .conjunction, words => do
      let (a, rest) ← testPart n .negation words
      if testToken (rest.drop 1) = some .conjunction then
        let (b, rest) ← testPart n .conjunction (rest.drop 2)
        return (a && b, rest)
      return (a, rest)
  | n + 1, .negation, words => do
      match testToken words, words with
      | some .negation, _ :: rest =>
          if rest.isEmpty then return (true, words)
          let (a, rest) ← testPart n .negation rest
          return (!a, rest)
      | _, [] => return (false, [])
      | some .open, _ :: rest =>
          if testToken rest = some .close then return (false, rest)
          let (a, rest) ← testPart n .disjunction rest
          if testToken (rest.drop 1) ≠ some .close then fail "closing paren expected"
          return (a, rest.drop 1)
      | some .unary, operator :: rest =>
          match rest with
          | [] => fail (operator ++ ": argument expected")
          | operand :: _ => return (← testUnary operator operand, rest)
      | _, left :: rest =>
          if testToken rest = some .binary then
            match rest with
            | [operator] => fail (operator ++ ": argument expected")
            | operator :: right :: _ => return (← testBinary operator left right, rest.drop 1)
            | [] => return (false, words)
          else return (!left.isEmpty, words)

def testWords (words : List String) : Act Bool := do
  let (result, rest) ← testPart (4 * words.length + 8) .disjunction words
  match rest with
  | w :: _ :: _ => fail (w ++ ": unexpected operator")
  | _ => return result

/-- Evaluates an expression of few words by their number first. -/
def testExpression : Nat → List String → Act Bool
  | 0, _ => return false
  | _ + 1, [] => return false
  | n + 1, words => do
      let length := words.length
      match words with
      | [left, operator, right] =>
          if testKind? operator = some .binary then return ← testBinary operator left right
      | _ => pure ()
      if length = 3 ∨ length = 4 then
        if words.head? = some "(" ∧ words.getLast? = some ")" then
          return ← testWords (words.drop 1).dropLast
        if words.head? = some "!" then return !(← testExpression n (words.drop 1))
      testWords words

def test : Builtin := fun arguments => do
  let words ←
    if (← state).utility = some "[" then
      if arguments.getLast? = some "]" then pure arguments.dropLast else fail "missing ]"
    else pure arguments
  return if ← testExpression (words.length + 1) words then 0 else 1

end CompilerDriver.Shell.Builtin
