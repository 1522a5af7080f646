import CompilerDriver.Posix.Shell.Arithmetic
import CompilerDriver.Posix.Shell.Builtin.Options
import CompilerDriver.Posix.Text.Directive

/-!
# Printing

`echo` and `printf`.  Both know escapes; an escape may end all output.
-/

namespace CompilerDriver.Shell.Builtin

open Kernel
open Text (Directive)

/-! ## Escapes -/

def isOctal (c : Char) : Bool := '0' ≤ c && c ≤ '7'

def octalValue (digits : List Char) : Char :=
  Char.ofNat (digits.foldl (fun n c => n * 8 + (c.toNat - 48)) 0 % 256)

/-- The character of an escape, of which the backslash has been read, and what follows. -/
def escape (cs : List Char) : Char × List Char :=
  match cs with
  | [] => ('\\', [])
  | c :: rest =>
      match c with
      | 'a' => ('\x07', rest)
      | 'b' => ('\x08', rest)
      | 'e' => ('\x1b', rest)
      | 'f' => ('\x0c', rest)
      | 'n' => ('\n', rest)
      | 'r' => ('\r', rest)
      | 't' => ('\t', rest)
      | 'v' => ('\x0b', rest)
      | '\\' => ('\\', rest)
      | _ =>
          if isOctal c then
            let digits := (cs.takeWhile isOctal).take 3
            (octalValue digits, cs.drop digits.length)
          else ('\\', cs)

/-- A text with its escapes replaced, up to the one that ends all output; and whether there is
one. -/
def unescapeUpTo : Nat → List Char → List Char → List Char × Bool
  | 0, _, done => (done.reverse, false)
  | _ + 1, [], done => (done.reverse, false)
  | n + 1, '\\' :: rest, done =>
      match rest with
      | 'c' :: _ => (done.reverse, true)
      | '0' :: more =>
          let digits := (more.takeWhile isOctal).take 3
          unescapeUpTo n (more.drop digits.length) (octalValue digits :: done)
      | _ =>
          let (c, rest) := escape rest
          unescapeUpTo n rest (c :: done)
  | n + 1, c :: rest, done => unescapeUpTo n rest (c :: done)

def unescape (s : String) : String × Bool :=
  let (cs, ended) := unescapeUpTo (s.length + 1) s.toList []
  (String.ofList cs, ended)

/-! ## Echo -/

/-- Prints words until one ends all output; tells whether one did. -/
def echoWords : List String → Act Bool
  | [] => return false
  | word :: rest => do
      let (text, ended) := unescape word
      Act.print text
      if ended then return true
      if !rest.isEmpty then Act.print " "
      echoWords rest

def echo : Builtin := fun arguments => do
  let (words, newline) :=
    match arguments with
    | "-n" :: rest => (rest, false)
    | words => (words, true)
  if !(← echoWords words) ∧ newline then Act.print "\n"
  return 0

/-! ## Formats -/

/-- The arguments ahead, and the status so far. -/
structure Feed where
  arguments : List String
  status : Nat := 0

abbrev Format := StateT Feed Act

def emit (s : String) : Format Unit := StateT.lift (Act.print s)

def nextArgument : Format (Option String) :=
  modifyGet fun s =>
    match s.arguments with
    | [] => (none, s)
    | a :: rest => (some a, { s with arguments := rest })

def complain (message : String) : Format Unit := do
  warn message
  modify fun s => { s with status := 1 }

/-- Complains about what a number could not be read from. -/
def checkConversion (argument : String) (rest : List Char) (inRange : Bool) : Format Unit := do
  if rest.length = argument.length ∧ !argument.isEmpty then
    complain (argument ++ ": expected numeric value")
  else if !rest.isEmpty then complain (argument ++ ": not completely converted")
  else if !inRange then complain (argument ++ ": Numerical result out of range")

/-- The whole number at the start of a text, and what follows it. -/
def readInteger (s : String) : Int × List Char :=
  let cs := s.toList.dropWhile Arithmetic.isSpace
  let (negative, digits) :=
    match cs with
    | '-' :: rest => (true, rest)
    | '+' :: rest => (false, rest)
    | _ => (false, cs)
  if (digits.head?.map Char.isDigit).getD false then
    let (n, rest) := Arithmetic.readNumber digits
    (if negative then -(n : Int) else n, rest)
  else (0, s.toList)

def integerArgument (signed : Bool) : Format Int := do
  match ← nextArgument with
  | none => return 0
  | some argument =>
      match argument.toList with
      | '"' :: rest | '\'' :: rest => return (rest.headD '\x00').toNat
      | _ =>
          let (n, rest) := readInteger argument
          let clamped := Directive.clamped signed n
          checkConversion argument rest (clamped == n)
          return clamped

def floatArgument : Format (Bool × Text.Magnitude) := do
  match ← nextArgument with
  | none => return (false, .zero)
  | some argument =>
      match argument.toList with
      | '"' :: rest | '\'' :: rest =>
          return (false, .quotient (rest.headD '\x00').toNat 1)
      | cs =>
          match Text.numberAhead? (cs.dropWhile Arithmetic.isSpace) with
          | none =>
              checkConversion argument cs true
              return (false, .zero)
          | some found =>
              let (magnitude, inRange) := found.magnitude.rounded .double
              checkConversion argument found.rest inRange
              return (found.negative, magnitude)

/-- The width or the precision at the start of a format: digits, or a star for an argument. -/
def readCount (cs : List Char) : Format (Option Int × List Char) := do
  match cs with
  | '*' :: rest => return (some (← integerArgument true), rest)
  | _ =>
      let digits := cs.takeWhile Char.isDigit
      if digits.isEmpty then return (none, cs)
      return (some ((String.ofList digits).toNat?.getD 0), cs.drop digits.length)

/-- Writes one value as a directive says.  Tells whether it ends all output. -/
def writeValue (d : Directive) (written : String) : Format Bool := do
  match d.conversion with
  | 'b' =>
      let (text, ended) := unescape ((← nextArgument).getD "")
      emit (d.text text)
      return ended
  | 'c' => emit (d.pad (String.singleton (((← nextArgument).getD "").toList.headD '\x00')))
  | 's' => emit (d.text ((← nextArgument).getD ""))
  | 'd' | 'i' => emit (d.decimal (← integerArgument true))
  | 'o' | 'u' | 'x' | 'X' => emit (d.congruent (← integerArgument false))
  | 'a' | 'A' | 'e' | 'E' | 'f' | 'F' | 'g' | 'G' => do
      let (negative, magnitude) ← floatArgument
      emit (d.float .double negative magnitude)
  | _ => fail (written ++ ": invalid directive")
  return false

/-- Writes a format once.  Tells whether something ended all output. -/
def writeFormat : Nat → List Char → Format Bool
  | 0, _ => return false
  | _ + 1, [] => return false
  | n + 1, '\\' :: rest => do
      let (c, rest) := escape rest
      emit (String.singleton c)
      writeFormat n rest
  | n + 1, '%' :: '%' :: rest => do
      emit "%"
      writeFormat n rest
  | n + 1, '%' :: start => do
      let (d, rest) := Directive.readFlags start {}
      let (width, rest) ← readCount rest
      let d := match width with
        | some w => d.withWidth w
        | none => d
      let (d, rest) ←
        match rest with
        | '.' :: rest => do
            let (precision, rest) ← readCount rest
            pure (d.withPrecision (precision.getD 0), rest)
        | rest => pure (d, rest)
      match rest with
      | [] => fail "missing format character"
      | c :: after =>
          let written := "%" ++ String.ofList (start.take (start.length - after.length))
          if ← writeValue { d with conversion := c } written then return true
          writeFormat n after
  | n + 1, c :: rest => do
      emit (String.singleton c)
      writeFormat n rest

/-- Writes a format again and again until all arguments are used up. -/
def writeAll (format : List Char) : Nat → Format Unit
  | 0 => return
  | n + 1 => do
      let before := (← get).arguments.length
      if ← writeFormat (format.length + 1) format then return
      let left := (← get).arguments.length
      if left ≠ before ∧ left ≠ 0 then writeAll format n

def printf : Builtin := fun arguments => do
  match (← parse "" "" arguments).operands with
  | [] => fail "usage: printf format [arg ...]"
  | format :: arguments => do
      let ((), feed) ← (writeAll format.toList (arguments.length + 1)).run ⟨arguments, 0⟩
      return feed.status

end CompilerDriver.Shell.Builtin
