import CompilerDriver.Posix.Text.Binary
import CompilerDriver.Posix.Text.Classes
import CompilerDriver.Posix.Text.Directive

/-!
# Formats of dumps

A dump shows octets in groups, each group as a number or a character.  A format says how large a
group is and how it is shown.
-/

namespace CompilerDriver.Utility.Dumping

open Text (BinaryFormat Binary)

inductive Notation where
  | named
  | character
  | signed
  | unsigned
  | octal
  | hexadecimal
  | floating
  deriving DecidableEq, Repr, Inhabited

structure Format where
  style : Notation
  /-- How many octets make up a group. -/
  size : Nat
  /-- The characters that are printable stand at the end of the line. -/
  trailer : Bool := false
  deriving DecidableEq, Repr, Inhabited

namespace Format

/-- How many digits the largest number of so many bits has in a base. -/
def digitCount (base bits : Nat) : Nat := (Nat.toDigits base (Nat.pow 2 bits - 1)).length

/-- The columns that a group takes, without the blank in front of it. -/
def width (f : Format) : Nat :=
  let bits := 8 * f.size
  match f.style with
  | .named | .character => 3
  | .signed => digitCount 10 (bits - 1) + 1
  | .unsigned => digitCount 10 bits
  | .octal => digitCount 8 bits
  | .hexadecimal => digitCount 16 bits
  | .floating => if f.size = 4 then 15 else if f.size = 8 then 24 else 29

/-! ## Groups -/

def controlNames : List String :=
  ["nul", "soh", "stx", "etx", "eot", "enq", "ack", "bel", "bs", "ht", "nl", "vt", "ff", "cr",
    "so", "si", "dle", "dc1", "dc2", "dc3", "dc4", "nak", "syn", "etb", "can", "em", "sub", "esc",
    "fs", "gs", "rs", "us", "sp"]

def nameOf (octet : Nat) : String :=
  let n := octet % 128
  if n = 127 then "del" else controlNames.getD n (String.singleton (Char.ofNat n))

def padZeros (digits : Nat) (s : String) : String :=
  String.ofList (List.replicate (digits - s.length) '0') ++ s

def inBase (base digits n : Nat) : String :=
  padZeros digits (String.ofList (Nat.toDigits base n))

def characterOf (octet : Nat) : String :=
  match Char.ofNat octet with
  | '\x00' => "\\0"
  | '\x07' => "\\a"
  | '\x08' => "\\b"
  | '\x0c' => "\\f"
  | '\n' => "\\n"
  | '\r' => "\\r"
  | '\t' => "\\t"
  | '\x0b' => "\\v"
  | c => if Text.isPrintable c then String.singleton c else inBase 8 3 octet

/-- The widths of the parts of a number with a binary exponent. -/
structure Parts where
  format : BinaryFormat
  exponentBits : Nat
  fractionBits : Nat
  /-- The first bit of the significand is written too. -/
  whole : Bool := false
  leastDigits : Nat
  mostDigits : Nat

def partsOf (size : Nat) : Parts :=
  if size = 4 then ⟨⟨24, -149, 104⟩, 8, 23, false, 6, 9⟩
  else if size = 8 then ⟨.double, 11, 52, false, 15, 17⟩
  else ⟨.extended, 15, 64, true, 18, 21⟩

/-- The shortest text of a number that reads back, in at least so many digits. -/
def shortestText (p : Parts) (x : Binary) : Nat → Nat → String
  | 0, digits => Text.Directive.general x.quotient.1 x.quotient.2 digits false
  | n + 1, digits =>
      match Text.Binary.decimalOf? p.format x digits with
      | some _ => Text.Directive.general x.quotient.1 x.quotient.2 digits false
      | none => shortestText p x n (digits + 1)

def floatText (size n : Nat) : String :=
  let p := partsOf size
  let fraction := n % Nat.pow 2 p.fractionBits
  let exponent := n / Nat.pow 2 p.fractionBits % Nat.pow 2 p.exponentBits
  let negative := n / Nat.pow 2 (p.fractionBits + p.exponentBits) % 2 = 1
  let sign := if negative then "-" else ""
  let bare := if p.whole then fraction % Nat.pow 2 (p.fractionBits - 1) else fraction
  if exponent = Nat.pow 2 p.exponentBits - 1 then sign ++ if bare = 0 then "inf" else "nan"
  else
    let significand :=
      if p.whole ∨ exponent = 0 then fraction else fraction + Nat.pow 2 p.fractionBits
    let shift : Int := p.format.least + ((exponent - 1 : Nat) : Int)
    let x : Binary := ⟨significand, shift⟩
    if significand = 0 then sign ++ "0"
    else
      let least := if exponent = 0 then 1 else p.leastDigits
      sign ++ shortestText p x (p.mostDigits - least) least

/-- The number that some octets make up, the one that counts least first. -/
def numberOf (octets : List Nat) : Nat := octets.foldr (fun o n => o + 256 * n) 0

/-- What is shown for a group. -/
def groupText (f : Format) (octets : List Nat) : String :=
  let n := numberOf octets
  match f.style with
  | .named => nameOf n
  | .character => characterOf n
  | .octal => inBase 8 f.width n
  | .hexadecimal => inBase 16 f.width n
  | .unsigned => toString n
  | .signed =>
      let half := Nat.pow 2 (8 * f.size - 1)
      toString (if n < half then (n : Int) else (n : Int) - (2 * half : Nat))
  | .floating => floatText f.size n

end Format

/-! ## Reading -/

inductive FormatError where
  | character (c : Char)
  | integerSize (size : Nat)
  | floatSize (size : Nat)
  deriving DecidableEq, Repr, Inhabited

def FormatError.message (quoted : String) : FormatError → String
  | character c => "invalid character '" ++ String.singleton c ++ "' in type string " ++ quoted
  | integerSize n =>
      "invalid type string " ++ quoted ++ ";\nthis system doesn't provide a " ++ toString n ++
        "-byte integral type"
  | floatSize n =>
      "invalid type string " ++ quoted ++ ";\nthis system doesn't provide a " ++ toString n ++
        "-byte floating point type"

/-- The size at the start of a text, in digits or as one of some letters, and what follows. -/
def readSize (letters : List (Char × Nat)) (default : Nat) (cs : List Char) : Nat × List Char :=
  match cs with
  | [] => (default, [])
  | c :: rest =>
      match letters.lookup c with
      | some n => (n, rest)
      | none =>
          let digits := cs.takeWhile Char.isDigit
          if digits.isEmpty then (default, cs)
          else (digits.foldl (fun n d => n * 10 + (d.toNat - 48)) 0, cs.drop digits.length)

def notationOf? : Char → Option Notation
  | 'a' => some .named
  | 'c' => some .character
  | 'd' => some .signed
  | 'u' => some .unsigned
  | 'o' => some .octal
  | 'x' => some .hexadecimal
  | 'f' => some .floating
  | _ => none

/-- Reads formats that stand side by side. -/
def readFormats : Nat → List Char → List Format → Except FormatError (List Format)
  | 0, _, formats | _, [], formats => .ok formats.reverse
  | n + 1, c :: rest, formats => do
      let some style := notationOf? c | throw (.character c)
      let (size, rest) :=
        match style with
        | .named | .character => (1, rest)
        | .floating => readSize [('F', 4), ('D', 8), ('L', 16)] 8 rest
        | _ => readSize [('C', 1), ('S', 2), ('I', 4), ('L', 8)] 4 rest
      if style = .floating then
        if !([4, 8, 16].contains size) then throw (.floatSize size)
      else if !([1, 2, 4, 8].contains size) then throw (.integerSize size)
      let (trailer, rest) := match rest with
        | 'z' :: rest => (true, rest)
        | rest => (false, rest)
      readFormats n rest ({ style := style, size := size, trailer := trailer } :: formats)

end CompilerDriver.Utility.Dumping
