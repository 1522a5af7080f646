import CompilerDriver.Posix.Text.Classes
import CompilerDriver.Posix.Utility.Input
import CompilerDriver.Posix.Utility.Quantity

/-!
# Translating characters

`tr` maps the octets of one set to those of another, deletes octets, or squeezes runs of one octet.
-/

namespace CompilerDriver.Utility

open Kernel

namespace Characters

/-! ## Sets -/

/-- A part of a set. -/
inductive SetItem where
  | octet (c : Char)
  | range (first last : Char)
  | named (name : String)
  | same (c : Char)
  /-- One octet so often; without a count, as often as needed. -/
  | repeated (c : Char) (count : Option Nat)
  deriving DecidableEq, Repr

def octets : List Char := (List.range 256).map Char.ofNat

/-- The octets of a class, in order. -/
def classOctets (name : String) : List Char := octets.filter (Text.inClass name)

def SetItem.octets : SetItem → List Char
  | octet c | same c => [c]
  | range first last =>
      (List.range (last.toNat + 1 - first.toNat)).map fun i => Char.ofNat (first.toNat + i)
  | named name => classOctets name
  | repeated c count => List.replicate (count.getD 0) c

def SetItem.isCase : SetItem → Bool
  | named name => name == "upper" || name == "lower"
  | _ => false

def SetItem.isClass : SetItem → Bool
  | named _ => true
  | _ => false

def SetItem.isSame : SetItem → Bool
  | same _ => true
  | _ => false

def SetItem.isOpen : SetItem → Bool
  | repeated _ none => true
  | _ => false

/-- An octet of a set as it is written, and whether a backslash stands before it. -/
abbrev SetChar := Char × Bool

def isOctal (c : Char) : Bool := '0' ≤ c && c ≤ '7'

/-- The octets of a set as it is written, and what there is to say about it. -/
def unescape : Nat → List Char → List SetChar → List String → List SetChar × List String
  | 0, _, done, notes => (done.reverse, notes.reverse)
  | _ + 1, [], done, notes => (done.reverse, notes.reverse)
  | _ + 1, ['\\'], done, notes =>
      ((('\\', false) :: done).reverse,
        ("warning: an unescaped backslash at end of string is not portable" :: notes).reverse)
  | n + 1, '\\' :: c :: rest, done, notes =>
      if isOctal c then
        let digits := ((c :: rest).takeWhile isOctal).take 3
        let value := digits.foldl (fun n d => n * 8 + (d.toNat - 48)) 0
        if value < 256 then
          unescape n ((c :: rest).drop digits.length) ((Char.ofNat value, true) :: done) notes
        else
          let text := String.ofList digits
          let start := String.ofList (digits.take 2)
          let note := "warning: the ambiguous octal escape \\" ++ text ++
            " is being\n\tinterpreted as the 2-byte sequence \\0" ++ start ++ ", " ++
            String.ofList (digits.drop 2)
          unescape n ((c :: rest).drop 2) ((Char.ofNat (value / 8), true) :: done) (note :: notes)
      else
        let c := match c with
          | 'a' => '\x07'
          | 'b' => '\x08'
          | 'f' => '\x0c'
          | 'n' => '\n'
          | 'r' => '\r'
          | 't' => '\t'
          | 'v' => '\x0b'
          | c => c
        unescape n rest ((c, true) :: done) notes
  | n + 1, c :: rest, done, notes => unescape n rest ((c, false) :: done) notes

/-- An octet as it is shown in a message. -/
def shownOctet (c : Char) : String :=
  if Text.isPrintable c then String.singleton c else String.ofList ('\\' :: octal c.toNat)

/-- Some octets as they are shown in a message. -/
def shownOctets (cs : List Char) : String :=
  String.join (cs.map fun c =>
    if c = '\\' then "\\\\"
    else if c.toNat < 32 ∨ c.toNat > 126 then String.ofList (escaped c)
    else String.singleton c)

/-- A repetition such as `[c*3]` behind its bracket, and what follows. -/
def repetition? (cs : List SetChar) : Option (Except String (SetItem × List SetChar)) :=
  match cs with
  | (c, _) :: ('*', false) :: rest =>
      let inside := rest.takeWhile fun d => !d.2 && d.1 != ']'
      match rest.drop inside.length with
      | (']', false) :: after =>
          let digits := inside.map (·.1)
          let base := if digits.head? = some '0' then 8 else 10
          let isNumber := digits.all fun d => d.isDigit && (base == 10 || isOctal d)
          let n := digits.foldl (fun n d => n * base + (d.toNat - 48)) 0
          if !isNumber ∨ maxQuantity ≤ n then
            some (.error ("invalid repeat count " ++ quoteText (shownOctets digits) ++
              " in [c*n] construct"))
          else some (.ok (.repeated c (if n = 0 then none else some n), after))
      | _ => none
  | _ => none

/-- Where the end of a class is: a mark and a bracket. -/
def closingMark? (mark : Char) (cs : List SetChar) : Option Nat :=
  (List.range cs.length).find? fun i =>
    cs[i]? == some (mark, false) && cs[i + 1]? == some (']', false)

/-- A class such as `[:alpha:]` or `[=a=]` behind its bracket, and what follows. -/
def class? (cs : List SetChar) : Option (Except String (SetItem × List SetChar)) :=
  match cs with
  | (mark, false) :: rest =>
      if mark ≠ ':' ∧ mark ≠ '=' then none
      else
        (closingMark? mark rest).bind fun i =>
          let inside := (rest.take i).map (·.1)
          let after := rest.drop (i + 2)
          let name := String.ofList inside
          if mark = ':' then
            if inside.isEmpty then some (.error "missing character class name '[::]'")
            else if Text.classNames.contains name then some (.ok (.named name, after))
            else if (repetition? cs).isSome then none
            else some (.error ("invalid character class " ++ quoteText (shownOctets inside)))
          else
            match inside with
            | [] => some (.error "missing equivalence class character '[==]'")
            | [c] => some (.ok (.same c, after))
            | _ =>
                if (repetition? cs).isSome then none
                else some (.error (shownOctets inside ++
                  ": equivalence class operand must be a single character"))
  | _ => none

def setItems : Nat → List SetChar → List SetItem → Except String (List SetItem)
  | 0, _, done => .ok done.reverse
  | _ + 1, [], done => .ok done.reverse
  | n + 1, (a, isEscaped) :: rest, done =>
      let isOpening := a = '[' && !isEscaped && rest.length ≥ 2
      let bracketed? :=
        if isOpening then (class? rest).orElse fun _ => repetition? rest else none
      match bracketed?, rest with
      | some (.error e), _ => .error e
      | some (.ok (item, rest)), _ => setItems n rest (item :: done)
      | none, ('-', false) :: (b, _) :: after =>
          if b < a then
            .error ("range-endpoints of '" ++ shownOctet a ++ "-" ++ shownOctet b ++
              "' are in reverse collating sequence order")
          else setItems n after (.range a b :: done)
      | none, _ => setItems n rest (.octet a :: done)

def readSet (call : Call) (text : String) : Act (List SetItem) := do
  let (cs, notes) := unescape (text.length + 1) text.toList [] []
  for note in notes do
    complain call note
  match setItems (cs.length + 1) cs [] with
  | .ok items => return items
  | .error message => giveUp call 1 message

def octetCount (items : List SetItem) : Nat :=
  items.foldl (fun n item => n + item.octets.length) 0

def allOctets (items : List SetItem) : List Char := items.flatMap SetItem.octets

/-! ## Pairs of sets -/

/-- The octets that a set is made to hold so that it is as large as another one. -/
def extended (size : Nat) (items : List SetItem) : List SetItem :=
  let missing := size - octetCount items
  items.map fun
    | .repeated c none => .repeated c (some missing)
    | item => item

/-- The classes of cases in the second set stand where there are some in the first set too. -/
def casesAreAligned : Nat → List SetItem → List SetItem → Bool
  | 0, _, _ => true
  | n + 1, a :: as, b :: bs =>
      if b.isCase then a.isCase && casesAreAligned n as bs
      else
        let x := a.octets.length
        let y := b.octets.length
        let rest (item : SetItem) (k : Nat) : List SetItem := (item.octets.drop k).map .octet
        if x = 0 then casesAreAligned n as (b :: bs)
        else if y = 0 then casesAreAligned n (a :: as) bs
        else if bs.all fun item => !item.isCase then true
        else
          let k := min x y
          casesAreAligned n (rest a k ++ as) (rest b k ++ bs)
  | _ + 1, _, _ => true

/-- Whether something may be done with two sets, and the octets of the second one. -/
structure Aim where
  translates : Bool
  complements : Bool
  truncates : Bool

/-- The second set with as many octets as needed, or why there is none. -/
def secondSet (aim : Aim) (first second : List SetItem) (size : Nat) :
    Except String (List Char) := do
  let open' := (second.filter SetItem.isOpen).length
  if open' > 1 then throw "only one [c*] repeat construct may appear in string2"
  if !aim.translates then
    if open' > 0 then throw "the [c*] construct may appear in string2 only when translating"
    return allOctets second
  let second := extended size second
  if second.any SetItem.isSame then
    throw "[=c=] expressions may not appear in string2 when translating"
  if second.any fun item => item.isClass && !item.isCase then
    throw ("when translating, the only character classes that may appear in\n" ++
      "string2 are 'upper' and 'lower'")
  if !aim.complements ∧ !casesAreAligned (size + octetCount second + 2) first second then
    throw "misaligned [:upper:] and/or [:lower:] construct"
  let cs := allOctets second
  let full ←
    if size ≤ cs.length ∨ aim.truncates then pure cs
    else
      match cs.getLast? with
      | none => throw "when not truncating set1, string2 must be non-empty"
      | some last =>
          if second.getLast?.any SetItem.isClass then
            throw ("when translating with string1 longer than string2,\n" ++
              "the latter string must not end with a character class")
          else pure (cs ++ List.replicate (size - cs.length) last)
  if aim.complements ∧ first.any SetItem.isClass ∧
      !(full.length = size ∧ full.all (some · == full.head?)) then
    throw ("when translating with complemented character classes,\n" ++
      "string2 must map all characters in the domain to one")
  return full

/-! ## Tables -/

/-- A set of octets as a table. -/
def member (set : List Char) : Char → Bool :=
  let table := set.foldl (fun (t : Array Bool) c => t.setIfInBounds c.toNat true)
    (Array.replicate 256 false)
  fun c => table.getD c.toNat false

/-- A map of octets as a table, in which later pairs count. -/
def mapping (pairs : List (Char × Char)) : Char → Char :=
  let table := pairs.foldl (fun (t : Array Char) (a, b) => t.setIfInBounds a.toNat b) octets.toArray
  fun c => table.getD c.toNat c

/-- Squeezes runs of the octets of a set.  `last` is the octet before the text, if it is in the set;
gives the one at the end. -/
def squeeze (p : Char → Bool) (last : Option Char) (cs : List Char) : List Char × Option Char :=
  let (done, last) := cs.foldl (fun ((done, last) : List Char × Option Char) c =>
    if last == some c then (done, last)
    else (c :: done, if p c then some c else none)) ([], last)
  (done.reverse, last)

/-- What is done with the octets. -/
structure Change where
  deletes : Char → Bool := fun _ => false
  maps : Char → Char := id
  squeezes : Option (Char → Bool) := none

/-- Changes all that can be read, block by block. -/
def changeInput (call : Call) (change : Change) : Nat → Option Char → Act Nat
  | 0, _ => return 0
  | n + 1, last => do
      match ← Act.readBytes 0 inputBlock with
      | .error e =>
          complainOf call "read error" e
          return 1
      | .ok bytes =>
          if bytes.isEmpty then return 0
          let cs := (bytes.data.toList.map Text.octetOf).filter fun c => !change.deletes c
          let cs := cs.map change.maps
          let (cs, last) := match change.squeezes with
            | some p => squeeze p last cs
            | none => (cs, none)
          Act.print (String.ofList cs)
          changeInput call change n last

def table : OptionTable := {
  flags := "AcCdst", stopsEarly := true
  named := [("complement", 'c'), ("delete", 'd'), ("squeeze-repeats", 's'),
    ("truncate-set1", 't')] }

/-- Ends the utility unless there are as many operands as its options ask for. -/
def checkOperands (call : Call) (deletes squeezes : Bool) (operands : List String) : Act Unit := do
  let needed := if deletes == squeezes then 2 else 1
  let most := if deletes && !squeezes then 1 else 2
  if operands.isEmpty then missingOperand call 1
  if operands.length < needed then
    complain call ("missing operand after " ++ quoteText (operands.headD ""))
    Act.printError ((if squeezes
      then "Two strings must be given when both deleting and squeezing repeats.\n"
      else "Two strings must be given when translating.\n") ++ hint call ++ "\n")
    stop 1
  if most < operands.length then
    complain call ("extra operand " ++ quoteText (operands.getD most ""))
    if operands.length = 2 then
      Act.printError "Only one string may be given when deleting without squeezing repeats.\n"
    Act.printError (hint call ++ "\n")
    stop 1

end Characters

open Characters in
def tr : Utility := fun call => do
  let parsed ← table.parse call
  let deletes := parsed.has 'd'
  let squeezes := parsed.has 's'
  checkOperands call deletes squeezes parsed.operands
  let complements := parsed.has 'c' || parsed.has 'C'
  let first ← readSet call (parsed.operands.headD "")
  let second? ← parsed.operands[1]?.mapM (readSet call)
  if first.any SetItem.isOpen then
    giveUp call 1 "the [c*] repeat construct may not appear in string1"
  let written := allOctets first
  let inWritten := member written
  let ordered := if complements then octets.filter fun c => !inWritten c else written
  let translates := !deletes && second?.isSome
  let aim : Aim := { translates, complements, truncates := parsed.has 't' }
  let targets ←
    match second? with
    | none => pure []
    | some second =>
        match secondSet aim first second ordered.length with
        | .ok cs => pure cs
        | .error message => giveUp call 1 message
  let inFirst := member ordered
  changeInput call {
    deletes := if deletes then inFirst else fun _ => false
    maps := if translates then mapping (ordered.zip targets) else id
    squeezes := if squeezes then some (if second?.isSome then member targets else inFirst)
      else none } Act.maxTurns none

end CompilerDriver.Utility
