import CompilerDriver.Posix.Text.Regex.Reading
import CompilerDriver.Posix.Utility.Locale

/-!
# Expressions

`expr` evaluates an expression whose words are its arguments.  A value is a text; one that looks
like a whole number can be calculated with.
-/

namespace CompilerDriver.Utility

open Kernel

/-! ## Values -/

/-- The whole number that a value looks like. -/
def wholeNumber? (s : String) : Option Int :=
  let (negative, digits) :=
    match s.toList with
    | '-' :: rest => (true, rest)
    | cs => (false, cs)
  if digits.isEmpty ∨ !digits.all Char.isDigit then none
  else
    let n := digits.foldl (fun (n : Nat) c => n * 10 + (c.toNat - 48)) 0
    some (if negative then -(n : Int) else n)

/-- A value that counts as false: the empty text and every way to write zero. -/
def isNull (s : String) : Bool :=
  match s.toList with
  | [] => true
  | '-' :: c :: cs => (c :: cs).all (· == '0')
  | cs => cs.all (· == '0')

def truth (b : Bool) : String := if b then "1" else "0"

/-- What a pattern matches at the start of a text: its first group, or how much there is. -/
def matchedStart (unicode : Bool) (text pattern : String) : Except String String :=
  match Text.Regex.ofText {} (charactersIf unicode pattern.toList) with
  | .error e => .error e.message
  | .ok r =>
      let cs := (charactersIf unicode text.toList).toArray
      match (Text.Regex.compile r { multiline := true, wide := unicode }).matchAt cs true 0 with
      | some slots =>
          if 0 < r.groupCount then .ok (octetsIf unicode (Text.Regex.groupText cs slots 1))
          else .ok (toString (Text.Regex.endOf slots))
      | none => .ok (if 0 < r.groupCount then "" else "0")

def subtext (unicode : Bool) (text place size : String) : String :=
  match wholeNumber? place, wholeNumber? size with
  | some p, some n =>
      if p ≤ 0 ∨ n ≤ 0 then ""
      else
        let cs := charactersIf unicode text.toList
        octetsIf unicode ((cs.drop (p.toNat - 1)).take n.toNat)
  | _, _ => ""

/-- The place of the first character of a text that is one of some others. -/
def firstPlace (unicode : Bool) (text among : String) : Nat :=
  let those := charactersIf unicode among.toList
  match (charactersIf unicode text.toList).findIdx? those.contains with
  | some i => i + 1
  | none => 0

/-! ## Operators -/

/-- The operators of each level, the loosest first. -/
def operatorsAt : Nat → List String
  | 0 => ["|"]
  | 1 => ["&"]
  | 2 => ["<", "<=", "=", "==", "!=", ">=", ">"]
  | 3 => ["+", "-"]
  | 4 => ["*", "/", "%"]
  | _ => [":"]

def levels : Nat := 6

def compared (operator left right : String) : Bool :=
  let order :=
    match wholeNumber? left, wholeNumber? right with
    | some a, some b => compare a b
    | _, _ => compare left right
  match operator with
  | "<" => order == .lt
  | "<=" => order != .gt
  | "!=" => order != .eq
  | ">=" => order != .lt
  | ">" => order == .gt
  | _ => order == .eq

def calculated (operator left right : String) : Except String String := do
  let some a := wholeNumber? left | .error "non-integer argument"
  let some b := wholeNumber? right | .error "non-integer argument"
  match operator with
  | "+" => return toString (a + b)
  | "-" => return toString (a - b)
  | "*" => return toString (a * b)
  | operator =>
      if b = 0 then .error "division by zero"
      return toString (if operator = "/" then a.tdiv b else a.tmod b)

/-- The value of an operation.  Of one that does not count, only the form matters. -/
def combined (unicode live : Bool) (operator left right : String) : Except String String :=
  match operator with
  | "|" => .ok (if !isNull left then left else if isNull right then "0" else right)
  | "&" => .ok (if isNull left || isNull right then "0" else left)
  | ":" => if live then matchedStart unicode left right else .ok left
  | operator =>
      if (operatorsAt 2).contains operator then
        .ok (truth (live && compared operator left right))
      else if live then calculated operator left right
      else .ok left

/-! ## Evaluation -/

/-- The words ahead, and the last one before them. -/
structure Words where
  before : String := ""
  ahead : List String

abbrev Reading := StateT Words (Except String)

def takeWord : Reading String := do
  let w ← get
  match w.ahead with
  | [] => throw ("syntax error: missing argument after " ++ quoteText w.before)
  | word :: rest =>
      set ({ before := word, ahead := rest } : Words)
      return word

/-- Takes the next word if it is one of some words. -/
def takeOneOf? (words : List String) : Reading (Option String) := do
  match (← get).ahead.head? with
  | some word =>
      if words.contains word then return some (← takeWord)
      return none
  | none => return none

def takeClosing : Reading Unit := do
  let w ← get
  match w.ahead with
  | [] => throw ("syntax error: expecting ')' after " ++ quoteText w.before)
  | ")" :: _ => let _ ← takeWord
  | word :: _ => throw ("syntax error: expecting ')' instead of " ++ quoteText word)

section

variable (unicode : Bool)

mutual

/-- A value whose operators are of a level or a tighter one. -/
def evaluateLevel : Nat → Nat → Bool → Reading String
  | 0, _, _ => throw "memory exhausted"
  | n + 1, level, live => do
      if levels ≤ level then evaluateOperand n live
      else
        let left ← evaluateLevel n (level + 1) live
        evaluateRest n level live left

/-- What the operators of a level that follow make of a value. -/
def evaluateRest : Nat → Nat → Bool → String → Reading String
  | 0, _, _, _ => throw "memory exhausted"
  | n + 1, level, live, left => do
      match ← takeOneOf? (operatorsAt level) with
      | none => return left
      | some operator =>
          let needed :=
            match operator with
            | "|" => isNull left
            | "&" => !isNull left
            | _ => true
          let right ← evaluateLevel n (level + 1) (live && needed)
          evaluateRest n level live (← combined unicode live operator left right)

/-- A word, an expression in parentheses or a call by name. -/
def evaluateOperand : Nat → Bool → Reading String
  | 0, _ => throw "memory exhausted"
  | n + 1, live => do
      match ← takeWord with
      | "+" => takeWord
      | "length" => return toString (charactersIf unicode (← evaluateOperand n live).toList).length
      | "match" =>
          let text ← evaluateOperand n live
          let pattern ← evaluateOperand n live
          combined unicode live ":" text pattern
      | "index" =>
          let text ← evaluateOperand n live
          return toString (firstPlace unicode text (← evaluateOperand n live))
      | "substr" =>
          let text ← evaluateOperand n live
          let place ← evaluateOperand n live
          return subtext unicode text place (← evaluateOperand n live)
      | "(" =>
          let value ← evaluateLevel n 0 live
          takeClosing
          return value
      | ")" => throw "syntax error: unexpected ')'"
      | word => return word

end

end

def evaluateWords (unicode : Bool) (words : List String) : Except String String := do
  let fuel := (levels + 2) * (words.length + 1) * 2
  let (value, w) ← (evaluateLevel unicode fuel 0 true).run { ahead := words }
  match w.ahead with
  | [] => return value
  | word :: _ => .error ("syntax error: unexpected argument " ++ quoteText word)

def expr : Utility := fun call => do
  let words := if call.arguments.head? = some "--" then call.arguments.drop 1 else call.arguments
  if words.isEmpty then missingOperand call 2
  match evaluateWords (← readsUnicode) words with
  | .error message => giveUp call 2 message
  | .ok value =>
      Act.printLine value
      return if isNull value then 1 else 0

end CompilerDriver.Utility
