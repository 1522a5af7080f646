/-!
# Modes

The mode of a file holds nine permissions and three more marks.  It is written in octal, or as
clauses that change the present one: whose permissions, an operator and the permissions.
-/

namespace CompilerDriver.Kernel.Mode

/-- All bits of a mode. -/
def all : Nat := 0o7777

/-- The permissions alone. -/
def permissions : Nat := 0o777

def isOctal (c : Char) : Bool := '0' ≤ c && c ≤ '7'

def octalValue (digits : List Char) : Nat :=
  digits.foldl (fun n c => n * 8 + (c.toNat - 48)) 0

/-! ## Changes -/

/-- Where the bits of a change come from. -/
inductive Source where
  | given
  /-- From the present permissions of somebody. -/
  | copied
  /-- As given, and the right to run where there is some already. -/
  | conditional
  deriving DecidableEq, Repr, Inhabited

/-- One operator of a clause. -/
structure Change where
  operator : Char
  source : Source := .given
  /-- The bits of those whom the clause names; 0 for a clause that names nobody. -/
  affected : Nat
  value : Nat
  /-- The bits that the change speaks of, whether it sets them or not. -/
  mentioned : Nat
  deriving Repr, Inhabited

def whoBits : Char → Option Nat
  | 'u' => some 0o4700
  | 'g' => some 0o2070
  | 'o' => some 0o1007
  | 'a' => some all
  | _ => none

def permissionBits : Char → Option Nat
  | 'r' => some 0o444
  | 'w' => some 0o222
  | 'x' => some 0o111
  | 'X' => some 0
  | 's' => some 0o6000
  | 't' => some 0o1000
  | _ => none

def isOperator (c : Char) : Bool := c == '=' || c == '+' || c == '-'

/-- What stands behind an operator, and what is left of the text. -/
def readChange (affected : Nat) (operator : Char) (cs : List Char) : Option (Change × List Char) :=
  let change (source : Source) (value : Nat) : Change :=
    { operator := operator, source := source, affected := affected, value := value
      mentioned := if affected = 0 then value else affected &&& value }
  match cs with
  | 'u' :: rest => some (change .copied 0o700, rest)
  | 'g' :: rest => some (change .copied 0o070, rest)
  | 'o' :: rest => some (change .copied 0o007, rest)
  | cs =>
      let digits := cs.takeWhile isOctal
      if !digits.isEmpty then
        let rest := cs.drop digits.length
        let n := octalValue digits
        if all < n ∨ affected ≠ 0 ∨ (!rest.isEmpty ∧ rest.head? ≠ some ',') then none
        else some ({ operator := operator, affected := all, value := n, mentioned := all }, rest)
      else
        let letters := cs.takeWhile fun c => (permissionBits c).isSome
        let value := letters.foldl (fun n c => n ||| (permissionBits c).getD 0) 0
        let source := if letters.contains 'X' then Source.conditional else .given
        some (change source value, cs.drop letters.length)

/-- The operators of one clause; what is left starts at the comma behind it. -/
def readClause (affected : Nat) : Nat → List Char → List Change → Option (List Change × List Char)
  | n + 1, c :: cs, found =>
      if isOperator c then do
        let (change, rest) ← readChange affected c cs
        readClause affected n rest (change :: found)
      else some (found.reverse, c :: cs)
  | _, cs, found => some (found.reverse, cs)

def readClauses : Nat → List Char → Option (List Change)
  | 0, _ => none
  | n + 1, cs => do
      let letters := cs.takeWhile fun c => (whoBits c).isSome
      let affected := letters.foldl (fun n c => n ||| (whoBits c).getD 0) 0
      let (changes, rest) ← readClause affected (cs.length + 1) (cs.drop letters.length) []
      if changes.isEmpty then none
      match rest with
      | [] => return changes
      | ',' :: rest => return changes ++ (← readClauses n rest)
      | _ => none

/-- The changes that a text asks for. -/
def changes? (text : String) : Option (List Change) :=
  let cs := text.toList
  if cs.head?.any isOctal then
    let n := octalValue cs
    if !cs.all isOctal ∨ all < n then none
    else
      let mentioned := if cs.length < 5 then (n &&& 0o7000) ||| permissions else all
      some [{ operator := '=', affected := all, value := n, mentioned := mentioned }]
  else readClauses (cs.length + 1) cs

/-- The bits that are not in a mode. -/
def complement (mode : Nat) : Nat := all ^^^ (mode &&& all)

/-- The same permissions for everyone as somebody has in a mode. -/
def spread (mode : Nat) : Nat :=
  [0o444, 0o222, 0o111].foldl (fun n bits => if mode &&& bits = 0 then n else n ||| bits) mode

def Change.apply (isDirectory : Bool) (mask mode : Nat) (c : Change) : Nat :=
  let kept := if isDirectory then 0o6000 &&& complement c.mentioned else 0
  let value :=
    match c.source with
    | .given => c.value
    | .copied => spread (c.value &&& mode)
    | .conditional => if mode &&& 0o111 ≠ 0 ∨ isDirectory then c.value ||| 0o111 else c.value
  let reach := if c.affected = 0 then complement mask else c.affected
  let value := value &&& reach &&& complement kept
  match c.operator with
  | '=' =>
      let kept := (if c.affected = 0 then 0 else complement c.affected) ||| kept
      (mode &&& kept) ||| value
  | '+' => mode ||| value
  | _ => mode &&& complement value

/-- The mode that changes make of another one.  A clause that names nobody leaves the bits of the
mask alone. -/
def adjusted (changes : List Change) (isDirectory : Bool) (mask mode : Nat) : Nat :=
  changes.foldl (Change.apply isDirectory mask) (mode &&& all)

/-- The bits that changes speak of, whether they set them or not. -/
def mentioned (changes : List Change) : Nat := changes.foldl (fun n c => n ||| c.mentioned) 0

/-! ## Texts -/

/-- The permissions in letters. -/
def letters (mode : Nat) : String :=
  let three (shift mark : Nat) (set unset : Char) : List Char :=
    let bits := mode >>> shift
    let marked := mode &&& mark ≠ 0
    [if bits &&& 4 ≠ 0 then 'r' else '-', if bits &&& 2 ≠ 0 then 'w' else '-',
      if marked then (if bits &&& 1 ≠ 0 then set else unset)
      else if bits &&& 1 ≠ 0 then 'x' else '-']
  String.ofList (three 6 0o4000 's' 'S' ++ three 3 0o2000 's' 'S' ++ three 0 0o1000 't' 'T')

/-- A mode in octal with at least so many digits. -/
def octalText (digits mode : Nat) : String :=
  let text := Nat.toDigits 8 mode
  String.ofList (List.replicate (digits - text.length) '0' ++ text)

end CompilerDriver.Kernel.Mode
