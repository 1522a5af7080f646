import CompilerDriver.Posix.Text.Magnitude

/-!
# Formatting directives

A directive says how one value is written: its sign, its base, its digits and the width that it is
padded to.  Numbers with a binary exponent are written exactly, rounded once, a tie to even.
-/

namespace CompilerDriver.Text

structure Directive where
  left : Bool := false
  plus : Bool := false
  space : Bool := false
  alternate : Bool := false
  zero : Bool := false
  width : Nat := 0
  precision : Option Nat := none
  conversion : Char := 's'
  deriving DecidableEq, Repr, Inhabited

namespace Directive

def setFlag (d : Directive) : Char → Option Directive
  | '-' => some { d with left := true }
  | '+' => some { d with plus := true }
  | ' ' => some { d with space := true }
  | '#' => some { d with alternate := true }
  | '0' => some { d with zero := true }
  | _ => none

def readFlags : List Char → Directive → Directive × List Char
  | [], d => (d, [])
  | c :: rest, d =>
      match d.setFlag c with
      | some d => readFlags rest d
      | none => (d, c :: rest)

/-- A width that is given as a value: a negative one pads on the right. -/
def withWidth (d : Directive) (n : Int) : Directive :=
  { d with width := n.natAbs, left := d.left || n < 0 }

def withPrecision (d : Directive) (n : Int) : Directive :=
  { d with precision := if n < 0 then none else some n.toNat }

/-- Pads a text with blanks. -/
def pad (d : Directive) (s : String) : String :=
  let blanks := String.ofList (List.replicate (d.width - s.length) ' ')
  if d.left then s ++ blanks else blanks ++ s

/-- Pads a number behind its sign with zeros, or the whole with blanks. -/
def padNumber (d : Directive) (zeros : Bool) (sign digits : String) : String :=
  if zeros && d.zero && !d.left then
    sign ++ String.ofList (List.replicate (d.width - sign.length - digits.length) '0') ++ digits
  else d.pad (sign ++ digits)

def text (d : Directive) (s : String) : String :=
  match d.precision with
  | some n => d.pad (String.ofList (s.toList.take n))
  | none => d.pad s

def signOf (d : Directive) (negative : Bool) : String :=
  if negative then "-" else if d.plus then "+" else if d.space then " " else ""

/-- At least as many digits as the precision asks for; of zero, none if it asks for none. -/
def widened (d : Directive) (isZero : Bool) (digits : String) : String :=
  match d.precision with
  | none => digits
  | some n =>
      if isZero && n == 0 then ""
      else String.ofList (List.replicate (n - digits.length) '0') ++ digits

def decimal (d : Directive) (n : Int) : String :=
  d.padNumber d.precision.isNone (d.signOf (n < 0)) (d.widened (n == 0) (toString n.natAbs))

def unsigned (d : Directive) (n : Nat) : String :=
  let base := if d.conversion = 'o' then 8 else if d.conversion = 'u' then 10 else 16
  let lower := String.ofList (Nat.toDigits base n)
  let digits := if d.conversion = 'X' then lower.map Char.toUpper else lower
  let digits := d.widened (n == 0) digits
  let digits :=
    if d.conversion = 'o' ∧ d.alternate ∧ !digits.startsWith "0" then "0" ++ digits else digits
  let sign :=
    if d.alternate ∧ n ≠ 0 ∧ base = 16 then (if d.conversion = 'X' then "0X" else "0x") else ""
  d.padNumber d.precision.isNone sign digits

/-! ## Numbers with an exponent -/

/-- Digits with a point in front of the last ones. -/
def pointed (digits : Nat) (places : Nat) (keepPoint : Bool) : String :=
  let s := toString digits
  let s := String.ofList (List.replicate (places + 1 - s.length) '0') ++ s
  let whole := String.ofList (s.toList.take (s.length - places))
  let part := String.ofList (s.toList.drop (s.length - places))
  if places = 0 then whole ++ (if keepPoint then "." else "") else whole ++ "." ++ part

def fixed (a b places : Nat) (keepPoint : Bool) : String :=
  pointed (roundQuotient (a * Nat.pow 10 places) b) places keepPoint

/-- The digits of a quotient with one before the point, and its exponent. -/
def scaled (a b places : Nat) : Nat × Int :=
  if a = 0 then (0, 0)
  else
    let e := Binary.decimalExponent a b
    let shift := (places : Int) - e
    let n := if shift < 0 then roundQuotient a (b * Nat.pow 10 (-shift).toNat)
      else roundQuotient (a * Nat.pow 10 shift.toNat) b
    if n ≥ Nat.pow 10 (places + 1) then (n / 10, e + 1) else (n, e)

def exponentText (e : Int) : String :=
  let digits := toString e.natAbs
  (if e < 0 then "e-" else "e+") ++ (if digits.length < 2 then "0" else "") ++ digits

def scientific (a b places : Nat) (keepPoint : Bool) : String :=
  let (n, e) := scaled a b places
  pointed n places keepPoint ++ exponentText e

/-- Without the zeros at the end of a fraction, and without a point that nothing follows. -/
def trimZeros (s : String) : String :=
  if s.toList.contains '.' then
    let cs := s.toList.reverse.dropWhile (· == '0')
    String.ofList (if cs.head? = some '.' then cs.drop 1 else cs).reverse
  else s

/-- The shorter of the two notations, with the precision as a number of digits. -/
def general (a b precision : Nat) (alternate : Bool) : String :=
  let p := max 1 precision
  let (n, e) := scaled a b (p - 1)
  if e < -4 ∨ e ≥ p then
    let mantissa := pointed n (p - 1) alternate
    (if alternate then mantissa else trimZeros mantissa) ++ exponentText e
  else
    let s := fixed a b ((p : Int) - 1 - e).toNat alternate
    if alternate then s else trimZeros s

/-- The notation in hexadecimal digits without their mark, of which the first one holds so many bits. -/
def hexadecimal (f : BinaryFormat) (firstBits a b : Nat) (precision : Option Nat)
    (keepPoint : Bool) : String :=
  let (significand, exponent) : Nat × Int :=
    match Binary.nearest? f a b with
    | some x =>
        if x.significand = 0 then (0, 0)
        else
          let missing := min (f.bits - 1 - Nat.log2 x.significand) (x.exponent - f.least).toNat
          (x.significand <<< missing, x.exponent - missing + (f.bits - firstBits : Nat))
    | none => (0, 0)
  let places := (f.bits - firstBits + 3) / 4
  let digits := significand <<< (4 * places - (f.bits - firstBits))
  let (digits, places) :=
    match precision with
    | none => (digits, places)
    | some p =>
        if p < places then (roundQuotient digits (1 <<< (4 * (places - p))), p)
        else (digits <<< (4 * (p - places)), p)
  let text := Nat.toDigits 16 digits
  let text := List.replicate (places + 1 - text.length) '0' ++ text
  let part := text.drop (text.length - places)
  let part := if precision.isSome then part else (part.reverse.dropWhile (· == '0')).reverse
  let point := if part.isEmpty && !keepPoint then "" else "."
  String.ofList (text.take (text.length - places)) ++ point ++ String.ofList part ++
    (if exponent < 0 then "p-" else "p+") ++ toString exponent.natAbs

/-- How numbers with an exponent are kept: their format, and the bits of the first hexadecimal
digit. -/
structure Precision where
  format : BinaryFormat
  firstBits : Nat

def Precision.double : Precision := ⟨.double, 1⟩

def Precision.extended : Precision := ⟨.extended, 4⟩

def float (d : Directive) (p : Precision) (negative : Bool) (m : Magnitude) : String :=
  let upper := d.conversion.isUpper
  let cased (s : String) : String := if upper then s.map Char.toUpper else s
  let precision := d.precision.getD 6
  let sign := d.signOf negative
  match m with
  | .infinite => d.padNumber false sign (cased "inf")
  | .undefined => d.padNumber false sign (cased "nan")
  | .quotient a b =>
      let number (mark digits : String) : String :=
        d.padNumber true (sign ++ cased mark) (cased digits)
      match d.conversion.toLower with
      | 'e' => number "" (scientific a b precision d.alternate)
      | 'g' => number "" (general a b precision d.alternate)
      | 'a' => number "0x" (hexadecimal p.format p.firstBits a b d.precision d.alternate)
      | _ => number "" (fixed a b precision d.alternate)

/-- The nearest whole number that fits in 64 bits.  Without a sign negative numbers stand for those
that they are congruent to. -/
def clamped (signed : Bool) (n : Int) : Int :=
  let least : Int := if signed then Int64.minValue.toInt else 1 - (UInt64.size : Int)
  let most : Int := if signed then Int64.maxValue.toInt else (UInt64.size : Int) - 1
  if n < least then (if signed then least else most) else if most < n then most else n

/-- Writes a whole number without a sign. -/
def congruent (d : Directive) (n : Int) : String := d.unsigned (n.emod UInt64.size).toNat

end Directive

end CompilerDriver.Text
