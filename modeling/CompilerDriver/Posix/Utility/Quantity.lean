import CompilerDriver.Posix.Text.Classes
import CompilerDriver.Posix.Utility.Basic

/-!
# Quantities in arguments

A whole number that may have a suffix, which stands for a factor.
-/

namespace CompilerDriver.Utility

open Kernel

inductive QuantityError where
  | malformed
  | tooLarge
  deriving DecidableEq, Repr

/-- The power of 1000 or 1024 that a letter stands for. -/
def powerOf? (c : Char) : Option Nat :=
  match c with
  | 'k' | 'K' => some 1
  | 'm' | 'M' => some 2
  | 'g' | 'G' => some 3
  | 't' | 'T' => some 4
  | 'P' => some 5
  | 'E' => some 6
  | 'Z' => some 7
  | 'Y' => some 8
  | _ => none

/-- The factor of a suffix that starts with one of the given letters.  A zero among them allows a
letter for a power to go on to tell which power. -/
def factor? (letters : String) (suffix : List Char) : Option Nat :=
  let marks := letters.toList
  match suffix with
  | [] => some 1
  | c :: rest =>
      if !marks.contains c then none
      else
        match powerOf? c, rest with
        | some power, [] => some (Nat.pow 1024 power)
        | some power, ['i', 'B'] => if marks.contains '0' then some (Nat.pow 1024 power) else none
        | some power, ['B'] | some power, ['D'] =>
            if marks.contains '0' then some (Nat.pow 1000 power) else none
        | none, [] =>
            match c with
            | 'b' => some 512
            | 'B' => some 1024
            | 'c' => some 1
            | 'w' => some 2
            | _ => none
        | _, _ => none

def digitsValue (digits : List Char) : Nat :=
  digits.foldl (fun n c => n * 10 + (c.toNat - 48)) 0

/-- The largest number that can be held. -/
def maxQuantity : Nat := 18446744073709551615

/-- A number with a suffix that starts with one of the given letters; a suffix alone has one in
front of it. -/
def quantity? (letters text : String) : Except QuantityError Nat := do
  let cs := text.toList.dropWhile Text.isWhiteSpace
  let cs := if cs.head? = some '+' then cs.drop 1 else cs
  let digits := cs.takeWhile Char.isDigit
  let suffix := cs.drop digits.length
  let isAlone := digits.isEmpty && suffix.head?.any letters.toList.contains &&
    suffix.length == text.length
  if digits.isEmpty && !isAlone then throw .malformed
  let n := if isAlone then 1 else digitsValue digits
  match factor? letters suffix with
  | none => throw .malformed
  | some factor => if maxQuantity < n * factor then throw .tooLarge else return n * factor

/-- A number in an argument, or the end of the utility with a message. -/
def quantityOf (call : Call) (status : Nat) (letters what text : String) (least : Nat := 0)
    (most : Nat := maxQuantity) : Act Nat := do
  let refuse {α : Type} (why : String) : Act α :=
    giveUp call status (what ++ ": " ++ quoteText text ++ why)
  match quantity? letters text with
  | .error .malformed => refuse ""
  | .error .tooLarge => refuse ": Value too large for defined data type"
  | .ok n =>
      if most < n then refuse ": Value too large for defined data type"
      else if n < least then refuse ": Numerical result out of range"
      else return n

/-- A whole number that may be negative. -/
def signedOf (call : Call) (status : Nat) (what text : String) : Act Int := do
  let cs := text.toList.dropWhile Text.isWhiteSpace
  let (negative, digits) :=
    match cs with
    | '-' :: rest => (true, rest)
    | '+' :: rest => (false, rest)
    | _ => (false, cs)
  if digits.isEmpty ∨ !digits.all Char.isDigit then
    giveUp call status (what ++ ": " ++ quoteText text)
  let n := digitsValue digits
  if n ≤ 9223372036854775807 ∨ (negative ∧ n = 9223372036854775808) then
    return if negative then -(n : Int) else n
  giveUp call status
    (what ++ ": " ++ quoteText text ++ ": Value too large for defined data type")

end CompilerDriver.Utility
