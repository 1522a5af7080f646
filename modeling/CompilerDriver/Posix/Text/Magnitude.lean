import CompilerDriver.Posix.Text.Binary

/-!
# Numbers in texts

A number in decimal or hexadecimal digits, or the word for something that is no number, is read
exactly.  It is rounded to a format only then.
-/

namespace CompilerDriver.Text

/-- A number without its sign: a quotient, or something that is none. -/
inductive Magnitude where
  | quotient (numerator denominator : Nat)
  | infinite
  | undefined
  deriving DecidableEq, Repr, Inhabited

namespace Magnitude

def zero : Magnitude := .quotient 0 1

def isZero : Magnitude → Bool
  | quotient a _ => a == 0
  | _ => false

/-- The nearest number of a format, and whether there is one that keeps all digits it can. -/
def rounded (f : BinaryFormat) : Magnitude → Magnitude × Bool
  | quotient a b =>
      match Binary.nearest? f a b with
      | none => (.infinite, false)
      | some x =>
          let (n, d) := x.quotient
          let isTiny := a * (1 <<< (f.least + f.bits - 1).natAbs) < b
          (.quotient n d, !isTiny || n * b == a * d)
  | m => (m, true)

end Magnitude

/-- A number that has been read: its sign, its size, and what follows. -/
structure NumberAhead where
  negative : Bool
  magnitude : Magnitude
  rest : List Char
  deriving DecidableEq, Repr, Inhabited

def digitOf (c : Char) : Nat :=
  if c.isDigit then c.toNat - 48
  else if c.isLower then c.toNat - 87
  else if c.isUpper then c.toNat - 55
  else 99

def valueIn (base : Nat) (digits : List Char) : Nat :=
  digits.foldl (fun n c => n * base + digitOf c) 0

/-- The signed exponent behind a letter, and what follows; zero if there is none. -/
def exponentAhead (letter : Char) (cs : List Char) : Int × List Char :=
  match cs with
  | e :: more =>
      let (minus, digits) :=
        match more with
        | '-' :: ds => (true, ds)
        | '+' :: ds => (false, ds)
        | ds => (false, ds)
      let ds := digits.takeWhile Char.isDigit
      if e.toLower ≠ letter ∨ ds.isEmpty then (0, cs)
      else
        let n := valueIn 10 ds
        (if minus then -(n : Int) else n, digits.drop ds.length)
  | [] => (0, [])

/-- The digits before and behind a point, and what follows, if there is any digit. -/
def digitsWithPoint? (isDigit : Char → Bool) (cs : List Char) :
    Option (List Char × List Char × List Char) :=
  let whole := cs.takeWhile isDigit
  let rest := cs.drop whole.length
  match rest with
  | '.' :: more =>
      let part := more.takeWhile isDigit
      if whole.isEmpty && part.isEmpty then none
      else some (whole, part, more.drop part.length)
  | _ => if whole.isEmpty then none else some (whole, [], rest)

/-- An exponent of ten beyond which no format goes. -/
def maxExponent : Int := 6000

def decimalAhead? (cs : List Char) : Option (Magnitude × List Char) :=
  (digitsWithPoint? Char.isDigit cs).map fun (whole, part, rest) =>
    let (exponent, rest) := exponentAhead 'e' rest
    let length : Int := whole.length + part.length
    let e := max (-maxExponent - length) (min (maxExponent + length) (exponent - part.length))
    let (a, b) := scaledByTen (valueIn 10 (whole ++ part)) 1 e
    (.quotient a b, rest)

def hexadecimalAhead? (cs : List Char) : Option (Magnitude × List Char) :=
  match cs with
  | '0' :: x :: more =>
      if x.toLower ≠ 'x' then none
      else
        (digitsWithPoint? (digitOf · < 16) more).map fun (whole, part, rest) =>
          let (exponent, rest) := exponentAhead 'p' rest
          let length : Int := whole.length + part.length
          let e := max (-4 * (maxExponent + length))
            (min (4 * (maxExponent + length)) (exponent - 4 * part.length))
          let (a, b) := scaledByTwo (valueIn 16 (whole ++ part)) 1 e
          (.quotient a b, rest)
  | _ => none

/-- The text behind a word, in either case. -/
def behind? (word : String) (cs : List Char) : Option (List Char) :=
  if (cs.take word.length).map Char.toLower = word.toList then some (cs.drop word.length) else none

def wordAhead? (cs : List Char) : Option (Magnitude × List Char) :=
  match behind? "infinity" cs, behind? "inf" cs, behind? "nan" cs with
  | some rest, _, _ | none, some rest, _ => some (.infinite, rest)
  | _, _, some ('(' :: more) =>
      let inside := more.takeWhile fun c => c.isAlphanum || c == '_'
      match more.drop inside.length with
      | ')' :: rest => some (.undefined, rest)
      | _ => some (.undefined, '(' :: more)
  | _, _, some rest => some (.undefined, rest)
  | _, _, none => none

/-- The number at the start of a text. -/
def numberAhead? (cs : List Char) : Option NumberAhead :=
  let (negative, cs) :=
    match cs with
    | '-' :: rest => (true, rest)
    | '+' :: rest => (false, rest)
    | _ => (false, cs)
  let found := (hexadecimalAhead? cs).orElse fun _ =>
    (decimalAhead? cs).orElse fun _ => wordAhead? cs
  found.map fun (magnitude, rest) => ⟨negative, magnitude, rest⟩

end CompilerDriver.Text
