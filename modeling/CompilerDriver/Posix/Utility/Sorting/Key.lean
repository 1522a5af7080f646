import CompilerDriver.Posix.Text.Magnitude
import CompilerDriver.Posix.Text.Version
import CompilerDriver.Posix.Utility.Sequence

/-!
# Keys of lines

A key is a part of each line and a way to compare it.  The parts are turned into values first, so
that each line is taken apart only once.
-/

namespace CompilerDriver.Utility.Sorting

open Text (Magnitude)

def isBlank (c : Char) : Bool := c == ' ' || c == '\t' || c == '\n'

/-! ## Values -/

/-- A number that may have an exponent, or what stands in for one.  What is none comes first. -/
inductive General where
  | none
  | undefined (negative : Bool)
  | number (negative : Bool) (m : Magnitude)
  deriving DecidableEq, Repr, Inhabited

def compareMagnitudes : Magnitude → Magnitude → Ordering
  | .quotient a b, .quotient c d => compare (a * d) (c * b)
  | .infinite, .infinite => .eq
  | .infinite, _ => .gt
  | _, .infinite => .lt
  | _, _ => .eq

def General.rank : General → Nat
  | none => 0
  | undefined true => 1
  | undefined false => 2
  | number _ _ => 3

def General.compare (a b : General) : Ordering :=
  match a, b with
  | .number m x, .number n y =>
      let m := m && !x.isZero
      let n := n && !y.isZero
      match m, n with
      | true, true => compareMagnitudes y x
      | false, false => compareMagnitudes x y
      | true, false => .lt
      | false, true => .gt
  | _, _ => Ord.compare a.rank b.rank

def General.ofText (cs : List Char) : General :=
  match Text.numberAhead? (cs.dropWhile Text.isWhiteSpace) with
  | .none => .none
  | some ⟨negative, .undefined, _⟩ => .undefined negative
  | some found => .number found.negative found.magnitude

inductive Value where
  | text (s : String)
  | number (d : Decimal)
  /-- A number, of which the power of its suffix counts first. -/
  | scaled (power : Int) (d : Decimal)
  | general (g : General)
  | month (n : Nat)
  | version (cs : List Char)
  deriving Inhabited

def compareDecimals (a b : Decimal) : Ordering :=
  let places := max a.places b.places
  compare (a.mantissaAt places) (b.mantissaAt places)

def Value.compare : Value → Value → Ordering
  | text a, text b => Ord.compare a b
  | number a, number b => compareDecimals a b
  | scaled m a, scaled n b => (Ord.compare m n).then (compareDecimals a b)
  | general a, general b => a.compare b
  | month a, month b => Ord.compare a b
  | version a, version b => Text.Version.compare a b
  | _, _ => .eq

/-- The number at the start of a text, and what follows; no number counts as zero. -/
def decimalAhead (cs : List Char) : Decimal × List Char :=
  let negative := cs.head? == some '-'
  let cs := if negative then cs.drop 1 else cs
  let whole := cs.takeWhile Char.isDigit
  let (part, rest) :=
    match cs.drop whole.length with
    | '.' :: rest =>
        let part := rest.takeWhile Char.isDigit
        (part, rest.drop part.length)
    | rest => ([], rest)
  let n := digitsValue (whole ++ part)
  (⟨if negative then -(n : Int) else n, part.length⟩, rest)

/-- The power of the suffix of a number that is not zero; it has the sign of the number. -/
def suffixPower (d : Decimal) (rest : List Char) : Int :=
  let power : Nat :=
    match rest.head? with
    | some 'k' => 1
    | some c => ("KMGTPEZY".toList.findIdx? (· == c)).elim 0 (· + 1)
    | none => 0
  d.mantissa.sign * power

def monthNames : List String :=
  ["JAN", "FEB", "MAR", "APR", "MAY", "JUN", "JUL", "AUG", "SEP", "OCT", "NOV", "DEC"]

def monthOf (cs : List Char) : Nat :=
  let name := String.ofList (((cs.dropWhile isBlank).take 3).map Char.toUpper)
  (monthNames.findIdx? (· == name)).elim 0 (· + 1)

/-! ## Keys -/

/-- How texts are compared, as letters of options. -/
abbrev Letters := List Char

/-- A part of each line to compare by, and how. -/
structure Key where
  startField : Nat := 0
  startChar : Nat := 0
  /-- The field in which the key ends, counted from zero, and how many characters of it belong to
  the key; none for all of them. -/
  last : Option (Nat × Nat) := none
  startBlanks : Bool := false
  endBlanks : Bool := false
  letters : Letters := []
  deriving Repr, Inhabited

def Key.has (k : Key) (c : Char) : Bool := k.letters.contains c

/-- What is left of a text behind one field.  With a separator the field ends behind it. -/
def behindField (tab : Option Char) (cs : List Char) : List Char :=
  match tab with
  | some t => (cs.dropWhile (· != t)).drop 1
  | none => (cs.dropWhile isBlank).dropWhile fun c => !isBlank c

def behindFields (tab : Option Char) : Nat → List Char → List Char
  | 0, cs => cs
  | _ + 1, [] => []
  | n + 1, cs => behindFields tab n (behindField tab cs)

/-- How much of a line comes before the end of a key. -/
def Key.finish (key : Key) (tab : Option Char) (cs : List Char) : Nat :=
  match key.last with
  | none => cs.length
  | some (field, 0) =>
      let rest := behindFields tab field cs
      let after :=
        match tab with
        | some t => rest.dropWhile (· != t)
        | none => behindField tab rest
      cs.length - after.length
  | some (field, size) =>
      let rest := behindFields tab field cs
      let rest := if key.endBlanks then rest.dropWhile isBlank else rest
      min cs.length (cs.length - rest.length + size)

def Key.text (key : Key) (tab : Option Char) (cs : List Char) : List Char :=
  let rest := behindFields tab key.startField cs
  let rest := if key.startBlanks then rest.dropWhile isBlank else rest
  let start := min cs.length (cs.length - rest.length + key.startChar)
  (cs.take (key.finish tab cs)).drop start

/-- The characters of a text that count, in the case in which they do. -/
def Key.prepared (key : Key) (cs : List Char) : List Char :=
  let keeps (c : Char) : Bool :=
    if key.has 'd' then c.isAlphanum || isBlank c else !key.has 'i' || Text.isPrintable c
  let kept := if key.has 'd' || key.has 'i' then cs.filter keeps else cs
  if key.has 'f' then kept.map Char.toUpper else kept

def Key.value (key : Key) (tab : Option Char) (line : List Char) : Value :=
  let cs := key.prepared (key.text tab line)
  if key.has 'n' then .number (decimalAhead (cs.dropWhile isBlank)).1
  else if key.has 'g' then .general (.ofText cs)
  else if key.has 'h' then
    let (d, rest) := decimalAhead (cs.dropWhile isBlank)
    .scaled (suffixPower d rest) d
  else if key.has 'M' then .month (monthOf cs)
  else if key.has 'V' then .version cs
  else .text (String.ofList cs)

/-! ## Orders -/

structure Order where
  keys : List Key
  tab : Option Char
  /-- Lines with equal keys are not compared any further. -/
  keysOnly : Bool
  reverse : Bool

/-- A line and the values of its keys. -/
structure Row where
  line : String
  values : List Value
  deriving Inhabited

def Order.row (o : Order) (line : List Char) : Row :=
  ⟨String.ofList line, o.keys.map fun key => key.value o.tab line⟩

def compareValues : List Key → List Value → List Value → Ordering
  | key :: keys, a :: as, b :: bs =>
      match a.compare b with
      | .eq => compareValues keys as bs
      | order => if key.has 'r' then order.swap else order
  | _, _, _ => .eq

def Order.compare (o : Order) (a b : Row) : Ordering :=
  match compareValues o.keys a.values b.values with
  | .eq =>
      if o.keysOnly && !o.keys.isEmpty then .eq
      else
        let order := Ord.compare a.line b.line
        if o.reverse then order.swap else order
  | order => order

/-! ## Reading keys -/

def keyLetters : String := "bdfgiMhnRrV"

/-- A number at the start of a text, and what follows. -/
def countAhead (what : String) (cs : List Char) : Except String (Nat × List Char) :=
  let digits := cs.takeWhile Char.isDigit
  if digits.isEmpty then
    .error ("invalid number " ++ what ++ ": invalid count at start of " ++
      quoteText (String.ofList cs))
  else .ok (digitsValue digits, cs.drop digits.length)

def lettersAhead (cs : List Char) : Letters × List Char :=
  let letters := cs.takeWhile keyLetters.toList.contains
  (letters, cs.drop letters.length)

def Key.ofText (text : String) : Except String Key := do
  let refuse (why : String) : String :=
    why ++ ": invalid field specification " ++ quoteText text
  let (field, rest) ← countAhead "at field start" text.toList
  if field = 0 then throw (refuse "field number is zero")
  let (char, rest) ←
    match rest with
    | '.' :: rest => do
        let (n, rest) ← countAhead "after '.'" rest
        if n = 0 then throw (refuse "character offset is zero")
        pure (n - 1, rest)
    | rest => pure (0, rest)
  let (first, rest) := lettersAhead rest
  let key : Key := {
    startField := field - 1, startChar := char, startBlanks := first.contains 'b'
    letters := first }
  match rest with
  | [] => return key
  | ',' :: rest => do
      let (field, rest) ← countAhead "after ','" rest
      if field = 0 then throw (refuse "field number is zero")
      let (size, rest) ←
        match rest with
        | '.' :: rest => countAhead "after '.'" rest
        | rest => pure (0, rest)
      let (second, rest) := lettersAhead rest
      if !rest.isEmpty then throw (refuse "stray character in field spec")
      return { key with
        last := some (field - 1, size), endBlanks := second.contains 'b'
        letters := first ++ second }
  | _ => throw (refuse "stray character in field spec")

/-- A place in a line that is written with counts from zero: the field, the character and the
letters. -/
def placeOf? (sign : Char) (text : String) : Option (Nat × Nat × Letters) :=
  match text.toList with
  | c :: cs => do
      if c ≠ sign then none
      let (field, rest) ← (countAhead "" cs).toOption
      let (char, rest) ←
        match rest with
        | '.' :: rest => (countAhead "" rest).toOption
        | rest => some (0, rest)
      let (letters, rest) := lettersAhead rest
      if rest.isEmpty then some (field, char, letters) else none
  | [] => none

/-- The key that a place stands for, from there up to the end or to another place. -/
def Key.between? (start : String) (finish : Option String) : Option Key := do
  let (field, char, first) ← placeOf? '+' start
  let key : Key := {
    startField := field, startChar := char, startBlanks := first.contains 'b', letters := first }
  match finish with
  | none => some key
  | some finish =>
      let (field, char, second) ← placeOf? '-' finish
      some { key with
        last := some (if char = 0 then field - 1 else field, char)
        endBlanks := second.contains 'b', letters := first ++ second }

/-- The letters of a key that do not go together. -/
def Key.conflict? (key : Key) : Option String :=
  let count (letters : String) : Nat := if letters.toList.any key.has then 1 else 0
  if 1 < count "n" + count "g" + count "h" + count "M" + count "VRdi" then
    let isHidden (c : Char) : Bool := c == 'i' && key.has 'd'
    some (String.ofList ("dfghiMnRV".toList.filter fun c => key.has c && !isHidden c))
  else none

end CompilerDriver.Utility.Sorting
