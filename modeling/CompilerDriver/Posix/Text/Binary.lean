/-!
# Binary floating-point numbers

A format bounds the significand and the exponent.  A quotient is rounded to the nearest number of
a format, a tie to an even significand.  The shortest decimal of a number is the one of the fewest
digits that rounds back to it, and of those the nearest.
-/

namespace CompilerDriver.Text

/-- The significands have at most so many bits, and count units from `2 ^ least` to `2 ^ most`. -/
structure BinaryFormat where
  bits : Nat
  least : Int
  most : Int
  deriving DecidableEq, Repr

namespace BinaryFormat

def double : BinaryFormat := ⟨53, -1074, 971⟩

/-- The format of 80 bits. -/
def extended : BinaryFormat := ⟨64, -16445, 16320⟩

end BinaryFormat

/-- The number `significand * 2 ^ exponent`. -/
structure Binary where
  significand : Nat
  exponent : Int
  deriving DecidableEq, Repr, Inhabited

/-- The quotient `numerator / denominator * 2 ^ exponent` as one of whole numbers. -/
def scaledByTwo (numerator denominator : Nat) (exponent : Int) : Nat × Nat :=
  if exponent < 0 then (numerator, denominator <<< exponent.natAbs)
  else (numerator <<< exponent.natAbs, denominator)

def scaledByTen (numerator denominator : Nat) (exponent : Int) : Nat × Nat :=
  if exponent < 0 then (numerator, denominator * Nat.pow 10 exponent.natAbs)
  else (numerator * Nat.pow 10 exponent.natAbs, denominator)

/-- The nearest whole number to a quotient, a tie to even. -/
def roundQuotient (a b : Nat) : Nat :=
  let q := a / b
  let twice := 2 * (a % b)
  if twice > b ∨ (twice = b ∧ q % 2 = 1) then q + 1 else q

namespace Binary

/-- The exponent of the unit in which a quotient has its full number of bits. -/
def unitExponent (f : BinaryFormat) (a b : Nat) : Int :=
  let guess := (Nat.log2 a : Int) - Nat.log2 b - f.bits
  let (n, d) := scaledByTwo a b (-guess)
  max f.least (if n / d < 1 <<< f.bits then guess else guess + 1)

/-- The nearest number of a format, unless that is too large for it. -/
def nearest? (f : BinaryFormat) (a b : Nat) : Option Binary :=
  if a = 0 then some ⟨0, f.least⟩
  else
    let e := unitExponent f a b
    let (n, d) := scaledByTwo a b (-e)
    let m := roundQuotient n d
    let x : Binary := if m < 1 <<< f.bits then ⟨m, e⟩ else ⟨m / 2, e + 1⟩
    if f.most < x.exponent then none else some x

/-- The value as a quotient. -/
def quotient (x : Binary) : Nat × Nat := scaledByTwo x.significand 1 x.exponent

/-! ## Shortest decimals -/

/-- The quotient rounds to the number: it lies between the middles to the neighbours, which count
for an even significand. -/
def contains (f : BinaryFormat) (x : Binary) (a b : Nat) : Bool :=
  let isLeast := x.significand = 1 <<< (f.bits - 1) ∧ f.least < x.exponent
  let quarters := 4 * x.significand
  let (low, lowUnit) := scaledByTwo (if isLeast then quarters - 1 else quarters - 2) 4 x.exponent
  let (high, highUnit) := scaledByTwo (quarters + 2) 4 x.exponent
  if x.significand % 2 = 0 then
    decide (low * b ≤ a * lowUnit) && decide (a * highUnit ≤ high * b)
  else decide (low * b < a * lowUnit) && decide (a * highUnit < high * b)

/-- The exponent of ten at or below a quotient that is not zero. -/
def decimalExponent (a b : Nat) : Int :=
  let estimate : Int := (Nat.log2 a : Int) - Nat.log2 b
  let guess := (estimate * 30103).fdiv 100000 - 1
  let reaches (e : Int) : Bool :=
    let (n, d) := scaledByTen 1 1 e
    decide (n * b ≤ a * d)
  (List.range 5).foldl (fun e _ => if reaches (e + 1) then e + 1 else e)
    (if reaches guess then guess else guess - 2)

/-- The nearer of the two neighbours with so many digits that round to the number: its digits and
their exponent of ten. -/
def decimalOf? (f : BinaryFormat) (x : Binary) (digits : Nat) : Option (Nat × Int) :=
  let (a, b) := x.quotient
  let e := decimalExponent a b - digits + 1
  let (n, d) := scaledByTen a b (-e)
  let hits (m : Nat) : Bool :=
    let (p, q) := scaledByTen m 1 e
    contains f x p q
  let nearer := roundQuotient n d
  let other := if nearer = n / d then n / d + 1 else n / d
  if hits nearer then some (nearer, e) else if hits other then some (other, e) else none

/-- The most digits that the shortest decimal of a number of 64 bits can have. -/
def maxDigits : Nat := 17

def shortest (f : BinaryFormat) (x : Binary) : Nat × Int :=
  ((List.range maxDigits).findSome? fun n => decimalOf? f x (n + 1)).getD (0, 0)

end Binary

/-! ## Numerals -/

/-- The largest exponent of ten, and the least, with which a numeral is written without one. -/
def maxPositional : Int := 20
def minPositional : Int := -7

/-- A decimal with all its digits if it is neither large nor small, and else with one digit before
the point and an exponent. -/
def decimalNumeral (digits : Nat) (exponent : Int) : String :=
  let text := (toString digits).toList
  let place := exponent + text.length - 1
  let zeros (n : Int) : List Char := List.replicate n.toNat '0'
  let pointed (whole part : List Char) : List Char :=
    whole ++ if part.isEmpty then [] else '.' :: part
  String.ofList <|
    if minPositional < place ∧ place ≤ maxPositional then
      if exponent ≥ 0 then text ++ zeros exponent
      else if place ≥ 0 then pointed (text.take (place.toNat + 1)) (text.drop (place.toNat + 1))
      else pointed ['0'] (zeros (-place - 1) ++ text)
    else
      pointed (text.take 1) (text.drop 1) ++ (if place < 0 then "e-" else "e+").toList ++
        (toString place.natAbs).toList

/-- The numeral of the number of 64 bits that is nearest to a quotient; zero has no sign. -/
def numeral (negative : Bool) (a b : Nat) : String :=
  match Binary.nearest? .double a b with
  | none => (if negative then "-" else "") ++ "Infinity"
  | some x =>
      if x.significand = 0 then "0"
      else
        let (digits, exponent) := x.shortest .double
        let ending := (toString digits).toList.reverse.takeWhile (· == '0')
        (if negative then "-" else "") ++
          decimalNumeral (digits / Nat.pow 10 ending.length) (exponent + ending.length)

end CompilerDriver.Text
