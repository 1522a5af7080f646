/-!
# Arithmetic expressions

Expressions on integers of 64 bits, with the operators, the precedence and the assignments of C.
Evaluation reads tokens from the text as it needs them, so that an error is found where it stands.
-/

namespace CompilerDriver.Shell

namespace Arithmetic

inductive Token where
  | number (n : Int)
  | name (s : String)
  | operator (s : String)
  | finish
  | unknown
  deriving DecidableEq, Repr, Inhabited

/-- An expression that cannot be evaluated. -/
inductive Failure where
  | expression (reason : String)
  /-- Raised by the values that the expression refers to. -/
  | message (text : String)
  /-- A quotient that is no integer of 64 bits. -/
  | overflow
  deriving DecidableEq, Repr

/-- Operators, longer ones before their beginnings. -/
def operators : List String :=
  ["<<=", ">>=", "==", "!=", "<=", ">=", "<<", ">>", "&&", "||", "&=", "|=", "^=", "%=", "*=",
    "+=", "-=", "/=", "(", ")", "~", "!", "=", "<", ">", "&", "|", "^", "%", "*", "+", "-", "/",
    "?", ":"]

/-- The nearest integer of 64 bits. -/
def clamp (n : Int) : Int :=
  if n > 9223372036854775807 then 9223372036854775807
  else if n < -9223372036854775808 then -9223372036854775808
  else n

def wrap (n : Int) : Int := n.bmod 18446744073709551616

def isSpace (c : Char) : Bool := c == ' ' || (9 ≤ c.toNat && c.toNat ≤ 13)

def digitValue (c : Char) : Nat :=
  if c.isDigit then c.toNat - 48
  else if c.isLower then c.toNat - 87
  else if c.isUpper then c.toNat - 55
  else 99

def isHex (c : Char) : Bool := digitValue c < 16

def valueOf (base : Nat) (digits : List Char) : Nat :=
  digits.foldl (fun n c => n * base + digitValue c) 0

/-- The number at the start of a text, in the base that its first digits announce. -/
def readNumber (cs : List Char) : Nat × List Char :=
  let hex (digits : List Char) : Nat × List Char :=
    (valueOf 16 (digits.takeWhile isHex), digits.dropWhile isHex)
  match cs with
  | '0' :: x :: d :: rest =>
      if (x = 'x' ∨ x = 'X') ∧ isHex d then hex (d :: rest)
      else
        let isOctal (c : Char) : Bool := digitValue c < 8
        (valueOf 8 (cs.takeWhile isOctal), cs.dropWhile isOctal)
  | '0' :: _ =>
      let isOctal (c : Char) : Bool := digitValue c < 8
      (valueOf 8 (cs.takeWhile isOctal), cs.dropWhile isOctal)
  | _ => (valueOf 10 (cs.takeWhile Char.isDigit), cs.dropWhile Char.isDigit)

/-- The whole number that a text stands for, with a sign and blanks around it. -/
def integerOf? (s : String) : Option Int :=
  let cs := s.toList.dropWhile isSpace
  let (negative, digits) :=
    match cs with
    | '-' :: rest => (true, rest)
    | '+' :: rest => (false, rest)
    | _ => (false, cs)
  if digits.head?.all Char.isDigit ∧ (digits ≠ [] ∨ cs = []) then
    let (size, rest) := readNumber digits
    let n : Int := if negative then -(size : Int) else size
    if rest.all isSpace ∧ clamp n = n then some n else none
  else none

def isNameChar (c : Char) : Bool := c.isAlphanum || c == '_'

/-- The token at the start of a text and what follows it. -/
def nextToken (cs : List Char) : Token × List Char :=
  let cs := cs.dropWhile fun c => c == ' ' || c == '\t' || c == '\n'
  match cs with
  | [] => (.finish, [])
  | c :: _ =>
      if c.isDigit then
        let (n, rest) := readNumber cs
        (.number (clamp n), rest)
      else if isNameChar c then
        (.name (String.ofList (cs.takeWhile isNameChar)), cs.dropWhile isNameChar)
      else
        match operators.find? fun o => o.toList.isPrefixOf cs with
        | some o => (.operator o, cs.drop o.length)
        | none => (.unknown, cs)

/-- The operators of two operands by how closely they bind. -/
def precedence? : String → Option Nat
  | "*" | "/" | "%" => some 0
  | "+" | "-" => some 1
  | "<<" | ">>" => some 2
  | "<" | "<=" | ">" | ">=" => some 3
  | "==" | "!=" => some 4
  | "&" => some 5
  | "^" => some 6
  | "|" => some 7
  | _ => none

def truth (b : Bool) : Int := if b then 1 else 0

def bitwise (f : Int64 → Int64 → Int64) (a b : Int) : Int :=
  (f (Int64.ofInt a) (Int64.ofInt b)).toInt

/-- The one division whose quotient is too large. -/
def overflows (a b : Int) : Bool := a == -9223372036854775808 && b == -1

/-- A division, of which the divisor and the quotient are looked at first. -/
def divide (f : Int → Int → Int) (a b : Int) : Except Failure Int :=
  if b = 0 then .error (.expression "division by zero")
  else if overflows a b then .error .overflow
  else .ok (f a b)

def apply (operator : String) (a b : Int) : Except Failure Int :=
  match operator with
  | "*" => .ok (wrap (a * b))
  | "/" => divide Int.tdiv a b
  | "%" => divide Int.tmod a b
  | "+" => .ok (wrap (a + b))
  | "-" => .ok (wrap (a - b))
  | "<<" => .ok (bitwise (· <<< ·) a b)
  | ">>" => .ok (bitwise (· >>> ·) a b)
  | "<" => .ok (truth (decide (a < b)))
  | "<=" => .ok (truth (decide (a ≤ b)))
  | ">" => .ok (truth (decide (a > b)))
  | ">=" => .ok (truth (decide (a ≥ b)))
  | "==" => .ok (truth (a == b))
  | "!=" => .ok (truth (a != b))
  | "&" => .ok (bitwise (· &&& ·) a b)
  | "^" => .ok (bitwise (· ^^^ ·) a b)
  | "|" => .ok (bitwise (· ||| ·) a b)
  | _ => .error (.expression "expecting primary")

/-- An evaluation under way: the text ahead, the token at hand, and the variables. -/
structure State (σ : Type) where
  text : List Char
  token : Token
  store : σ

/-- How an expression gets at variables. -/
structure Store (σ : Type) where
  read : σ → String → Except Failure Int
  write : σ → String → Int → Except Failure σ

section Evaluation

variable {σ : Type} (bindings : Store σ)

abbrev Eval (σ : Type) := EStateM Failure (State σ)

def advance : Eval σ Token :=
  modifyGet fun s =>
    let (token, rest) := nextToken s.text
    (token, { s with text := rest, token := token })

def lift (r : Except Failure Int) : Eval σ Int :=
  match r with
  | .ok n => pure n
  | .error e => throw e

/-- The parts of the evaluator: each reads from the token at hand and leaves the one behind what
it has read at hand. -/
inductive Part where
  | assignment
  | conditional
  | disjunction
  | conjunction
  /-- Operators that bind at least as closely as a level. -/
  | binary (level : Nat)
  | primary
  deriving DecidableEq, Repr

def variableValue (idle : Bool) (name : String) : Eval σ Int := do
  if idle then return 0
  lift (bindings.read (← get).store name)

/-- Applies the operators of one level to operands of the levels below, from left to right. -/
def chain (again : Part → Bool → Eval σ Int) (level : Nat) (idle : Bool) :
    Nat → Int → Eval σ Int
  | 0, a => return a
  | n + 1, a => do
      match (← get).token with
      | .operator o =>
          if precedence? o = some level then
            let _ ← advance
            let b ← if level = 0 then again .primary idle else again (.binary (level - 1)) idle
            let a ← if idle then pure b else lift (apply o a b)
            chain again level idle n a
          else return a
      | _ => return a

def step (again : Part → Bool → Eval σ Int) (part : Part) (idle : Bool) : Eval σ Int := do
  match part with
  | .primary =>
      match (← get).token with
      | .operator "(" =>
          let _ ← advance
          let n ← again .assignment idle
          if (← get).token ≠ .operator ")" then throw (.expression "expecting ')'")
          let _ ← advance
          return n
      | .number n =>
          let _ ← advance
          return n
      | .name x =>
          let _ ← advance
          variableValue bindings idle x
      | .operator "+" =>
          let _ ← advance
          again .primary idle
      | .operator "-" =>
          let _ ← advance
          return wrap (-(← again .primary idle))
      | .operator "!" =>
          let _ ← advance
          return truth ((← again .primary idle) == 0)
      | .operator "~" =>
          let _ ← advance
          return -(← again .primary idle) - 1
      | _ => throw (.expression "expecting primary")
  | .binary level =>
      let a ← if level = 0 then again .primary idle else again (.binary (level - 1)) idle
      chain again level idle ((← get).text.length + 1) a
  | .conjunction =>
      let a ← again (.binary 7) idle
      if (← get).token ≠ .operator "&&" then return a
      let _ ← advance
      let b ← again .conjunction (idle || a == 0)
      return truth (a != 0 && b != 0)
  | .disjunction =>
      let a ← again .conjunction idle
      if (← get).token ≠ .operator "||" then return a
      let _ ← advance
      let b ← again .disjunction (idle || a != 0)
      return truth (a != 0 || b != 0)
  | .conditional =>
      let a ← again .disjunction idle
      if (← get).token ≠ .operator "?" then return a
      let _ ← advance
      let b ← again .assignment (idle || a == 0)
      if (← get).token ≠ .operator ":" then throw (.expression "expecting ':'")
      let _ ← advance
      let c ← again .conditional (idle || a != 0)
      return if a != 0 then b else c
  | .assignment =>
      let s ← get
      match s.token, (nextToken s.text).1 with
      | .name x, .operator o =>
          let sign := (o.dropEnd 1).toString
          if o = "=" ∨ (o.endsWith "=" ∧ (precedence? o).isNone ∧ (precedence? sign).isSome) then
            let _ ← advance
            let _ ← advance
            let n ← again .assignment idle
            if idle then return n
            let n ←
              if o = "=" then pure n
              else do lift (apply sign (← variableValue bindings false x) n)
            match bindings.write (← get).store x n with
            | .ok store =>
                modify fun s => { s with store := store }
                return n
            | .error e => throw e
          else again .conditional idle
      | _, _ => again .conditional idle

def reach : Nat → Part → Bool → Eval σ Int
  | 0, _, _ => throw (.expression "expecting primary")
  | n + 1, part, idle => step bindings (reach n) part idle

/-- The value of an expression, and the variables after it. -/
def evaluate (store : σ) (expression : List Char) : Except Failure (Int × σ) :=
  let whole : Eval σ Int := do
    let _ ← advance
    let n ← reach bindings (16 * (expression.length + 2)) .assignment false
    if (← get).token ≠ .finish then throw (.expression "expecting EOF")
    return n
  match whole.run ⟨expression, .finish, store⟩ with
  | .ok n s => .ok (n, s.store)
  | .error e _ => .error e

end Evaluation

end Arithmetic

end CompilerDriver.Shell
