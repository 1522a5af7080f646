import CompilerDriver.Posix.Text.Classes
import CompilerDriver.Posix.Text.Directive
import CompilerDriver.Posix.Utility.Quantity

/-!
# Sequences

`seq` prints the numbers from a first to a last one.  They are decimal fractions and held exactly.
-/

namespace CompilerDriver.Utility

open Kernel
open Text (Directive Magnitude)

/-- The number `mantissa / 10 ^ places`. -/
structure Decimal where
  mantissa : Int
  places : Nat
  deriving DecidableEq, Repr, Inhabited

namespace Decimal

/-- The number with some digits and an exponent of ten. -/
def ofParts (digits : Int) (exponent : Int) : Decimal :=
  if exponent < 0 then ⟨digits, exponent.natAbs⟩
  else ⟨digits * (Nat.pow 10 exponent.toNat : Nat), 0⟩

/-- Stands for every number that is too large. -/
def huge : Decimal := ⟨(Nat.pow 10 40 : Nat), 0⟩

def negated (d : Decimal) : Decimal := { d with mantissa := -d.mantissa }

/-- The mantissa with more places. -/
def mantissaAt (d : Decimal) (places : Nat) : Int :=
  d.mantissa * (Nat.pow 10 (places - d.places) : Nat)

end Decimal

/-- A number in an argument: its value, the places that it is written with, and how many columns
it takes.  One that is not written in decimal digits has no places of its own. -/
structure SequenceNumber where
  value : Decimal
  places : Option Nat := some 0
  width : Nat := 0
  deriving Inhabited

/-- Why an argument is no number. -/
inductive NumberFault where
  | malformed
  | undefined
  deriving DecidableEq, Repr

def SequenceNumber.ofText (s : String) : Except NumberFault SequenceNumber :=
  let cs := s.toList.dropWhile Text.isWhiteSpace
  let negative := cs.head? == some '-'
  let digits := if negative || cs.head? == some '+' then cs.drop 1 else cs
  let signed (d : Decimal) : Decimal := if negative then d.negated else d
  let columns := (if negative then 1 else 0)
  match Text.hexadecimalAhead? digits, Text.digitsWithPoint? Char.isDigit digits,
      Text.wordAhead? digits with
  | some (.quotient a b, []), _, _ =>
      let places := Nat.log2 b
      let value : Decimal := ⟨a * (Nat.pow 5 places : Nat), places⟩
      let isWhole := digits.all fun c => c != '.' && c != 'p'
      .ok { value := signed value, places := if isWhole then some 0 else none }
  | none, some (whole, part, rest), _ =>
      match Text.exponentAhead 'e' rest with
      | (exponent, []) =>
          let value := Decimal.ofParts (digitsValue (whole ++ part)) (exponent - part.length)
          let places := if exponent < 0 then part.length + exponent.natAbs
            else part.length - exponent.toNat
          let written : Int := columns + whole.length +
            (if part.isEmpty then 0
              else part.length + 1 + if whole.isEmpty then 1 else 0)
          let width := if exponent < 0
            then written + (if part.isEmpty then 1 else 0) + exponent.natAbs
            else written + exponent
          .ok { value := signed value, places := some places, width := width.toNat }
      | _ => .error .malformed
  | _, _, some (.infinite, []) => .ok { value := signed .huge, places := some 0 }
  | _, _, some (.undefined, []) => .error .undefined
  | _, _, _ => .error .malformed

/-! ## Formats -/

/-- A format around one number. -/
structure NumberFormat where
  before : String
  directive : Directive
  after : String

/-- The text up to the next directive, with doubled signs made single, and what follows. -/
def plainPart : List Char → List Char → String × List Char
  | [], part => (String.ofList part.reverse, [])
  | '%' :: '%' :: rest, part => plainPart rest ('%' :: part)
  | '%' :: rest, part => (String.ofList part.reverse, '%' :: rest)
  | c :: rest, part => plainPart rest (c :: part)

def numberFormat (s : String) : Except String NumberFormat :=
  let quoted := "format " ++ quoteText s
  match plainPart s.toList [] with
  | (_, []) => .error (quoted ++ " has no % directive")
  | (before, _ :: start) =>
      let (d, rest) := Directive.readFlags start {}
      let width := rest.takeWhile Char.isDigit
      let rest := rest.drop width.length
      let (precision, rest) :=
        match rest with
        | '.' :: more =>
            let ds := more.takeWhile Char.isDigit
            (some (digitsValue ds), more.drop ds.length)
        | _ => (none, rest)
      match if rest.head? = some 'L' then rest.drop 1 else rest with
      | [] => .error (quoted ++ " ends in %")
      | c :: rest =>
          if !"efgaEFGA".toList.contains c then
            .error (quoted ++ " has unknown %" ++ String.singleton c ++ " directive")
          else
            match plainPart rest [] with
            | (after, []) =>
                .ok ⟨before, { d with width := digitsValue width, precision, conversion := c }, after⟩
            | _ => .error (quoted ++ " has too many % directives")

def NumberFormat.write (f : NumberFormat) (d : Decimal) : String :=
  let magnitude := Magnitude.quotient d.mantissa.natAbs (Nat.pow 10 d.places)
  let (rounded, _) := magnitude.rounded .extended
  f.before ++ f.directive.float .extended (d.mantissa < 0) rounded ++ f.after

/-! ## Printing -/

/-- How many numbers are written at once. -/
def seqBlock : Nat := 512

/-- Prints the numbers from a mantissa on, up to a last one. -/
def printNumbers (write : Int → String) (between : String) (first step last : Int) : Act Nat := do
  let inRange (n : Int) : Bool := if step < 0 then decide (last ≤ n) else decide (n ≤ last)
  if !inRange first then return 0
  Act.print (write first)
  let blocks := ((last - first) / step).toNat / seqBlock + 1
  let rec go : Nat → Int → Act Unit
    | 0, _ => return
    | k + 1, start => do
        let numbers := ((List.range seqBlock).map fun (i : Nat) => start + i * step).filter inRange
        Act.print (String.join (numbers.map fun n => between ++ write n))
        go k (start + seqBlock * step)
  go blocks (first + step)
  Act.print "\n"
  return 0

/-- The arguments with a mark in front of the first one that is a negative number. -/
def markNegative : List String → List String
  | [] => []
  | a :: rest =>
      match a.toList with
      | ['-', '-'] => a :: rest
      | '-' :: c :: _ =>
          if c.isDigit ∨ c = '.' then "--" :: a :: rest
          else if ["-s", "-f", "--separator", "--format"].contains a then
            match rest with
            | value :: rest => a :: value :: markNegative rest
            | [] => [a]
          else a :: markNegative rest
      | _ => a :: rest

/-- The format of numbers with so many places; equal widths are those of the ends. -/
def usualFormat (equalWidth : Bool) (first step last : SequenceNumber) : NumberFormat :=
  match first.places, step.places, last.places with
  | some a, some b, some c =>
      let places := max a b
      let firstWidth := first.width + (places - a) + if a = 0 ∧ 0 < places then 1 else 0
      let lastWidth := (last.width + places + if c = 0 ∧ 0 < places then 1 else 0) -
        (c + if 0 < c ∧ places = 0 then 1 else 0)
      let width := if equalWidth then max firstWidth lastWidth else 0
      ⟨"", { zero := true, width := width, precision := some places, conversion := 'f' }, ""⟩
  | _, _, _ => ⟨"", { conversion := 'g' }, ""⟩

def seq : Utility := fun call => do
  let parsed ← ({
    flags := "w", valued := "sf", stopsEarly := true
    named := [("equal-width", 'w'), ("separator", 's'), ("format", 'f')] } : OptionTable).parse
      { call with arguments := markNegative call.arguments }
  let operands := parsed.operands
  if operands.isEmpty then missingOperand call 1
  if let some extra := operands[3]? then extraOperand call 1 extra
  let format? ← (parsed.value? 'f').mapM fun f => do
    match numberFormat f with
    | .ok format => return format
    | .error message => giveUp call 1 message
  if format?.isSome ∧ parsed.has 'w' then
    misuse call 1 "format string may not be specified when printing equal width strings"
  let number (s : String) : Act SequenceNumber := do
    match SequenceNumber.ofText s with
    | .ok n => return n
    | .error .malformed => misuse call 1 ("invalid floating point argument: " ++ quoteText s)
    | .error .undefined =>
        misuse call 1 ("invalid " ++ quoteText "not-a-number" ++ " argument: " ++ quoteText s)
  let one : SequenceNumber := { value := ⟨1, 0⟩, width := 1 }
  let (first, step, last) ←
    match operands with
    | [first, last] => do pure (← number first, one, ← number last)
    | [first, step, last] => do
        let first ← number first
        let n ← number step
        if n.value.mantissa = 0 then
          misuse call 1 ("invalid Zero increment value: " ++ quoteText step)
        pure (first, n, ← number last)
    | operands => do pure (one, one, ← number (operands.headD ""))
  let places := max (max first.value.places step.value.places) last.value.places
  let format := format?.getD (usualFormat (parsed.has 'w') first step last)
  let isPlain := format?.isNone && places == 0 && first.places.isSome
  let write (n : Int) : String :=
    if isPlain then format.directive.padNumber true (if n < 0 then "-" else "") (toString n.natAbs)
    else format.write ⟨n, places⟩
  printNumbers write ((parsed.value? 's').getD "\n") (first.value.mantissaAt places)
    (step.value.mantissaAt places) (last.value.mantissaAt places)

end CompilerDriver.Utility
