import CompilerDriver.Posix.Text.Directive
import CompilerDriver.Posix.Utility.Locale
import CompilerDriver.Posix.Utility.Quantity

/-!
# Printing arguments

`echo` and `printf` as programs.
-/

namespace CompilerDriver.Utility

open Kernel
open Text (Directive Magnitude)

/-! ## Escapes -/

inductive Escape where
  /-- The octets that an escape stands for. -/
  | octets (cs : List Char)
  /-- Ends all output. -/
  | halt
  /-- Digits are missing. -/
  | incomplete
  /-- A code point that is none. -/
  | improper (written : List Char)
  | none
  deriving DecidableEq, Repr

/-- The digits of a base at the start of a text, as a number, and how many there are. -/
def digitsAhead (base most : Nat) (cs : List Char) : Nat × Nat :=
  let digits := (cs.takeWhile fun c => decide (Text.digitOf c < base)).take most
  (Text.valueIn base digits, digits.length)

/-- The octets that encode a code point. -/
def codePointOctets (n : Nat) : List Char :=
  if n < 0x80 then [Char.ofNat n] else Text.octetsOfCharacter (Char.ofNat n)

/-- Code points that may be written as escapes. -/
def isProperCodePoint (n : Nat) : Bool :=
  (160 ≤ n && !(0xD800 ≤ n && n ≤ 0xDFFF)) || n == 0x24 || n == 0x40 || n == 0x60

/-- An escape of a code point with exactly so many digits. -/
def codePointAhead (letter : Char) (count : Nat) (rest : List Char) : Escape × List Char :=
  let (n, found) := digitsAhead 16 count rest
  if found < count then (.incomplete, rest)
  else if !isProperCodePoint n then
    (.improper ('\\' :: letter :: (rest.take count).map Char.toLower), rest)
  else (.octets (codePointOctets n), rest.drop count)

/-- The escapes of one letter. -/
def letterEscape? (c : Char) : Option Char :=
  [('a', '\x07'), ('b', '\x08'), ('e', '\x1b'), ('f', '\x0c'), ('n', '\n'), ('r', '\r'),
    ('t', '\t'), ('v', '\x0b'), ('\\', '\\')].lookup c

/-- How escapes are read. -/
structure EscapeStyle where
  /-- After a zero there may be three octal digits more. -/
  long : Bool := false
  /-- There are code points, and a hexadecimal escape has to have a digit. -/
  strict : Bool := true

/-- The escape behind a backslash, and what follows. -/
def escapeAhead (style : EscapeStyle) (cs : List Char) : Escape × List Char :=
  match cs with
  | 'c' :: _ => (.halt, [])
  | 'x' :: rest =>
      let (n, count) := digitsAhead 16 2 rest
      if count = 0 then (if style.strict then .incomplete else .none, cs)
      else (.octets [Char.ofNat n], rest.drop count)
  | c :: rest =>
      match letterEscape? c with
      | some c => (.octets [c], rest)
      | none =>
          if style.strict ∧ c = 'u' then codePointAhead c 4 rest
          else if style.strict ∧ c = 'U' then codePointAhead c 8 rest
          else
            let digits := if style.long ∧ c = '0' then rest else cs
            let (n, count) := digitsAhead 8 3 digits
            if count = 0 ∧ digits.length = cs.length then (.none, cs)
            else (.octets [Char.ofNat (n % 256)], digits.drop count)
  | [] => (.none, [])

/-- A text with its escapes replaced, up to the one that ends all output; and whether there is
one. -/
def replaceEscapes (style : EscapeStyle) : Nat → List Char → List Char → List Char × Escape
  | 0, _, done => (done.reverse, .none)
  | _ + 1, [], done => (done.reverse, .none)
  | n + 1, '\\' :: rest, done =>
      match escapeAhead style rest with
      | (.octets cs, rest) => replaceEscapes style n rest (cs.reverse ++ done)
      | (.none, rest) => replaceEscapes style n rest ('\\' :: done)
      | (ending, _) => (done.reverse, ending)
  | n + 1, c :: rest, done => replaceEscapes style n rest (c :: done)

def withEscapes (style : EscapeStyle) (s : String) : String × Escape :=
  let (cs, ending) := replaceEscapes style (s.length + 1) s.toList []
  (String.ofList cs, ending)

/-! ## Echo -/

/-- A word of options; any other word is printed. -/
def isEchoOption (s : String) : Bool :=
  match s.toList with
  | '-' :: c :: cs => (c :: cs).all "neE".toList.contains
  | _ => false

def echo : Utility := fun call => do
  let isPlain := (← Act.setting? "POSIXLY_CORRECT").isSome
  let options :=
    if isPlain ∧ call.arguments.head? ≠ some "-n" then []
    else call.arguments.takeWhile isEchoOption
  let letters := options.flatMap fun o => o.toList.drop 1
  let text := " ".intercalate (call.arguments.drop options.length)
  let escapes := isPlain || (letters.filter (· != 'n')).getLast? == some 'e'
  let (text, ending) :=
    if escapes then withEscapes { long := true, strict := false } text else (text, .none)
  Act.print text
  if ending ≠ .halt ∧ !letters.contains 'n' then Act.print "\n"
  return 0

/-! ## Formats -/

/-- The arguments ahead, and the status so far. -/
structure Supply where
  arguments : List String
  status : Nat := 0

abbrev Writing := StateT Supply Act

def put (s : String) : Writing Unit := StateT.lift (Act.print s)

def nextOperand : Writing String :=
  modifyGet fun s => (s.arguments.headD "", { s with arguments := s.arguments.drop 1 })

def warnInside (call : Call) (message : String) : Writing Unit :=
  StateT.lift (complain call message)

def complainInside (call : Call) (message : String) : Writing Unit := do
  warnInside call message
  modify fun s => { s with status := 1 }

def refuseInside {α : Type} (call : Call) (message : String) : Writing α :=
  StateT.lift (giveUp call 1 message)

/-- Complains about what a number could not be read from. -/
def checkNumber (call : Call) (text : String) (rest : List Char) (inRange : Bool) :
    Writing Unit := do
  if !inRange then complainInside call (quoteText text ++ ": Numerical result out of range")
  else if rest.isEmpty then return
  else if rest.length = text.length then
    complainInside call (quoteText text ++ ": expected a numeric value")
  else complainInside call (quoteText text ++ ": value not completely converted")

/-- The number of the character behind a quote, with which an argument starts. -/
def quotedCharacter (call : Call) (cs : List Char) : Writing Nat := do
  let (n, rest) : Nat × List Char :=
    match charactersIf (← StateT.lift readsUnicode) cs with
    | c :: rest =>
        if Text.isStray c then (c.toNat - Text.strayBase, rest) else (c.toNat, rest)
    | [] => (0, [])
  if !rest.isEmpty then
    warnInside call ("warning: " ++ Text.octetsOfCharacters rest ++
      ": character(s) following character constant have been ignored")
  return n

/-- The whole number at the start of some characters, and what follows it. -/
def wholeNumberAhead? (cs : List Char) : Option (Int × List Char) :=
  let trimmed := cs.dropWhile Text.isWhiteSpace
  let negative := trimmed.head? = some '-'
  let digits := if negative ∨ trimmed.head? = some '+' then trimmed.drop 1 else trimmed
  let sized (base : Nat) (digits : List Char) : Int × List Char :=
    let found := digits.takeWhile fun c => decide (Text.digitOf c < base)
    let n := Text.valueIn base found
    (if negative then -(n : Int) else n, digits.drop found.length)
  match digits with
  | '0' :: x :: d :: rest =>
      if (x = 'x' ∨ x = 'X') ∧ Text.digitOf d < 16 then some (sized 16 (d :: rest))
      else some (sized 8 digits)
  | '0' :: _ => some (sized 8 digits)
  | c :: _ => if c.isDigit then some (sized 10 digits) else none
  | [] => none

def integerIn (call : Call) (signed : Bool) (text : String) : Writing Int := do
  let convert : Writing Int := do
    match wholeNumberAhead? text.toList with
    | none =>
        checkNumber call text text.toList true
        return 0
    | some (n, rest) =>
        let clamped := Directive.clamped signed n
        checkNumber call text rest (clamped == n)
        return clamped
  match text.toList with
  | q :: c :: cs => if q = '"' ∨ q = '\'' then quotedCharacter call (c :: cs) else convert
  | _ => convert

def integerOperand (call : Call) (signed : Bool) : Writing Int := do
  integerIn call signed (← nextOperand)

def numberOperand (call : Call) : Writing (Bool × Magnitude) := do
  let text ← nextOperand
  let convert : Writing (Bool × Magnitude) := do
    match Text.numberAhead? (text.toList.dropWhile Text.isWhiteSpace) with
    | none =>
        checkNumber call text text.toList true
        return (false, .zero)
    | some found =>
        let (magnitude, inRange) := found.magnitude.rounded .extended
        checkNumber call text found.rest inRange
        return (found.negative, magnitude)
  match text.toList with
  | q :: c :: cs =>
      if q = '"' ∨ q = '\'' then
        return (false, .quotient (← quotedCharacter call (c :: cs)) 1)
      convert
  | _ => convert

/-- The largest width. -/
def maxWidth : Nat := 2147483647

/-- The width or the precision at the start of a format: digits, or a star for an argument. -/
def readSize (call : Call) (what : String) (least : Int) (cs : List Char) :
    Writing (Option Int × List Char) := do
  match cs with
  | '*' :: rest =>
      if (← get).arguments.isEmpty then return (some 0, rest)
      let text ← nextOperand
      let n ← integerIn call true text
      if n < least ∨ n > maxWidth then
        refuseInside call ("invalid " ++ what ++ ": " ++ quoteText text)
      return (some n, rest)
  | _ =>
      let digits := cs.takeWhile Char.isDigit
      if digits.isEmpty then return (none, cs)
      return (some (digitsValue digits), cs.drop digits.length)

/-- Whether a conversion goes with the flags of a directive. -/
def isFitting (d : Directive) (grouping : Bool) : Bool :=
  match d.conversion with
  | 'c' => !d.zero && !d.alternate && d.precision.isNone && !grouping
  | 's' => !d.zero && !d.alternate && !grouping
  | 'd' | 'i' | 'u' => !d.alternate
  | 'f' | 'F' | 'g' | 'G' => true
  | c => "aAoxXeE".toList.contains c && !grouping

/-- Writes one value as a directive says. -/
def writeDirective (call : Call) (d : Directive) : Writing Unit := do
  match d.conversion with
  | 'c' => put (d.pad (String.singleton ((← nextOperand).toList.headD '\x00')))
  | 's' => put (d.text (← nextOperand))
  | 'd' | 'i' => put (d.decimal (← integerOperand call true))
  | 'o' | 'u' | 'x' | 'X' => put (d.congruent (← integerOperand call false))
  | _ => do
      let (negative, magnitude) ← numberOperand call
      put (d.float .extended negative magnitude)

/-- Complains about an escape that is none, unless there is nothing to complain about. -/
def checkEscape (call : Call) (e : Escape) : Writing Unit := do
  match e with
  | .incomplete => refuseInside call "missing hexadecimal number in escape"
  | .improper written =>
      refuseInside call ("invalid universal character name " ++ String.ofList written)
  | _ => return

/-- The flags at the start of a directive, and whether digits are to be grouped. -/
def readFlagsWithGrouping : Nat → List Char → Directive → Bool → Directive × Bool × List Char
  | 0, cs, d, grouping => (d, grouping, cs)
  | n + 1, cs, d, grouping =>
      let (d, rest) := Directive.readFlags cs d
      match rest with
      | '\'' :: more | 'I' :: more => readFlagsWithGrouping n more d true
      | _ => (d, grouping, rest)

/-- Writes a format once.  Tells whether something ended all output. -/
def writeOnce (call : Call) : Nat → List Char → Writing Bool
  | 0, _ => return false
  | _ + 1, [] => return false
  | n + 1, '\\' :: '"' :: rest => do
      put "\""
      writeOnce call n rest
  | n + 1, '\\' :: rest => do
      match escapeAhead {} rest with
      | (.octets cs, rest) =>
          put (String.ofList cs)
          writeOnce call n rest
      | (.halt, _) => return true
      | (.none, rest) =>
          put (String.ofList ('\\' :: rest.take 1))
          writeOnce call n (rest.drop 1)
      | (e, _) =>
          checkEscape call e
          return true
  | n + 1, '%' :: '%' :: rest => do
      put "%"
      writeOnce call n rest
  | n + 1, '%' :: 'b' :: rest => do
      let (text, ending) := withEscapes { long := true } (← nextOperand)
      put text
      checkEscape call ending
      if ending = .halt then return true
      writeOnce call n rest
  | n + 1, '%' :: 'q' :: rest => do
      let text ← nextOperand
      put (if needsQuotes text then quoteAlways text else text)
      writeOnce call n rest
  | n + 1, '%' :: start => do
      let (d, grouping, rest) := readFlagsWithGrouping (start.length + 1) start {} false
      let (width, rest) ← readSize call "field width" (-2147483648) rest
      let d := match width with
        | some w => d.withWidth w
        | none => d
      let (d, rest) ←
        match rest with
        | '.' :: rest => do
            let (precision, rest) ← readSize call "precision" Int64.minValue.toInt rest
            pure (d.withPrecision (precision.getD 0), rest)
        | rest => pure (d, rest)
      let rest := rest.dropWhile "lLhjtz".toList.contains
      let d := { d with conversion := rest.headD '\x00' }
      let written := String.ofList (start.take (start.length - (rest.length - 1)))
      if !isFitting d grouping then
        refuseInside call ("%" ++ written ++ ": invalid conversion specification")
      writeDirective call d
      writeOnce call n (rest.drop 1)
  | n + 1, cs => do
      let text := cs.takeWhile fun c => c != '%' && c != '\\'
      put (String.ofList text)
      writeOnce call n (cs.drop text.length)

/-- Writes a format again and again until all arguments are used up. -/
def writeRepeatedly (call : Call) (format : List Char) : Nat → Writing Unit
  | 0 => return
  | n + 1 => do
      let before := (← get).arguments.length
      if ← writeOnce call (format.length + 1) format then return
      match (← get).arguments with
      | [] => return
      | extra :: rest =>
          if rest.length + 1 = before then
            warnInside call
              ("warning: ignoring excess arguments, starting with " ++ quoteText extra)
          else writeRepeatedly call format n

def printf : Utility := fun call => do
  let words := if call.arguments.head? = some "--" then call.arguments.drop 1 else call.arguments
  match words with
  | [] => missingOperand call 1
  | format :: arguments => do
      let ((), s) ←
        (writeRepeatedly call format.toList (arguments.length + 1)).run ⟨arguments, 0⟩
      return s.status

end CompilerDriver.Utility
