import CompilerDriver.Posix.Utility.Choice
import CompilerDriver.Posix.Utility.Dumping.Format
import CompilerDriver.Posix.Utility.Input
import CompilerDriver.Posix.Utility.Quantity

/-!
# Dumps

`od` shows the octets of its input line by line, each line in one format or several.
-/

namespace CompilerDriver.Utility

open Kernel

namespace Dumping

inductive AddressStyle where
  | decimal
  | octal
  | hexadecimal
  | none
  deriving DecidableEq, Repr, Inhabited

def AddressStyle.width : AddressStyle → Nat
  | .decimal | .octal => 7
  | .hexadecimal => 6
  | .none => 0

def AddressStyle.text (a : AddressStyle) (n : Nat) : String :=
  match a with
  | .none => ""
  | .decimal => Format.inBase 10 a.width n
  | .octal => Format.inBase 8 a.width n
  | .hexadecimal => Format.inBase 16 a.width n

structure Plan where
  formats : List Format
  address : AddressStyle
  /-- The octets of a line. -/
  line : Nat
  /-- Lines that are equal to the one before are left out. -/
  abbreviates : Bool
  /-- The octet that counts most comes first. -/
  bigEndian : Bool

/-! ## Lines -/

def blanks (n : Nat) : String := String.ofList (List.replicate n ' ')

def chunks (size : Nat) : Nat → List Nat → List (List Nat)
  | 0, _ | _, [] => []
  | n + 1, octets => octets.take size :: chunks size n (octets.drop size)

/-- The columns of a line in a format, without those that make up for other formats. -/
def Plan.columns (p : Plan) (f : Format) : Nat := (f.width + 1) * (p.line / f.size)

/-- The blanks that a line in a format has so that it is as wide as the widest. -/
def Plan.padding (p : Plan) (f : Format) : Nat :=
  let widest := (p.formats.map p.columns).foldl max 0
  widest - f.width * (p.line / f.size)

def trailerText (octets : List Nat) : String :=
  let shown := octets.map fun o =>
    let c := Char.ofNat o
    if Text.isPrintable c then c else '.'
  "  >" ++ String.ofList shown ++ "<"

/-- The groups of a line in a format. -/
def Plan.groups (p : Plan) (f : Format) (octets : List Nat) : String :=
  let fields := p.line / f.size
  let padding := p.padding f
  let missing := (p.line - octets.length) / f.size
  let filled := octets ++ List.replicate ((fields - missing) * f.size - octets.length) 0
  let text (place : Nat) (group : List Nat) : String :=
    let before := padding * (fields - place) / fields
    let after := padding * (fields - place - 1) / fields
    let shown := f.groupText (if p.bigEndian then group.reverse else group)
    blanks (before - after + f.width - shown.length) ++ shown
  let groups := (chunks f.size (filled.length + 1) filled).zipIdx.map fun (g, place) => text place g
  String.join groups ++
    if f.trailer then
      blanks (missing * f.width + padding * missing / fields) ++ trailerText octets
    else ""

def Plan.lineText (p : Plan) (address : Nat) (octets : List Nat) : String :=
  String.join (p.formats.zipIdx.map fun (f, place) =>
    (if place = 0 then p.address.text address else blanks p.address.width) ++
      p.groups f octets ++ "\n")

/-- The lines of a dump that starts at an address. -/
def Plan.lines (p : Plan) : List (List Nat) → Nat → Option (List Nat) → Bool → List String
  | [], _, _, _ => []
  | octets :: rest, address, before, isRepeating =>
      let next := address + octets.length
      if p.abbreviates ∧ octets.length = p.line ∧ before = some octets then
        (if isRepeating then [] else ["*\n"]) ++ p.lines rest next before true
      else p.lineText address octets :: p.lines rest next (some octets) false

/-! ## Texts -/

def escapedText (octets : List Nat) : String :=
  String.join (octets.map fun o =>
    let shown := Format.characterOf o
    shown)

/-- The texts of at least so many characters that end in a zero octet, each with its address. -/
def texts (least : Nat) : List Nat → Nat → List Nat → List (Nat × List Nat)
  | [], _, _ => []
  | o :: rest, address, found =>
      if o = 0 then
        let rest' := texts least rest (address + 1) []
        if least ≤ found.length ∧ !found.isEmpty then
          (address - found.length, found.reverse) :: rest'
        else rest'
      else if Text.isPrintable (Char.ofNat o) ∨ (7 ≤ o ∧ o ≤ 13) then
        texts least rest (address + 1) (o :: found)
      else texts least rest (address + 1) []

/-! ## Arguments -/

/-- The formats of the letters that stand for one. -/
def letterFormat? : Char → Option Format
  | 'a' => some ⟨.named, 1, false⟩
  | 'b' => some ⟨.octal, 1, false⟩
  | 'c' => some ⟨.character, 1, false⟩
  | 'D' => some ⟨.unsigned, 4, false⟩
  | 'd' => some ⟨.unsigned, 2, false⟩
  | 'F' | 'e' => some ⟨.floating, 8, false⟩
  | 'f' => some ⟨.floating, 4, false⟩
  | 'H' | 'X' => some ⟨.hexadecimal, 4, false⟩
  | 'i' => some ⟨.signed, 4, false⟩
  | 'I' | 'L' | 'l' => some ⟨.signed, 8, false⟩
  | 'O' => some ⟨.octal, 4, false⟩
  | 'B' | 'o' => some ⟨.octal, 2, false⟩
  | 's' => some ⟨.signed, 2, false⟩
  | 'h' | 'x' => some ⟨.hexadecimal, 2, false⟩
  | _ => none

def table : OptionTable := {
  flags := "BbcDdeFfHhIiLlOosaXxv", valued := "AjNtS", attached := "w"
  valuedNames := "@", optional := "w0"
  named := [("address-radix", 'A'), ("endian", '@'), ("format", 't'), ("output-duplicates", 'v'),
    ("read-bytes", 'N'), ("skip-bytes", 'j'), ("strings", '0'), ("traditional", '='),
    ("width", 'w')] }

/-- A number in base 8, 10 or 16, as its start tells, with a suffix. -/
def countOf (call : Call) (option text : String) : Act Nat := do
  let refuse {α : Type} (what : String) : Act α :=
    giveUp call 1 ("invalid " ++ what ++ option ++ " argument '" ++ text ++ "'")
  let cs := text.toList
  let (base, cs) :=
    match cs with
    | '0' :: 'x' :: rest | '0' :: 'X' :: rest => (16, rest)
    | '0' :: _ => (8, cs)
    | _ => (10, cs)
  let isDigit (c : Char) : Bool :=
    if base = 16 then c.isDigit || ('a' ≤ c.toLower && c.toLower ≤ 'f')
    else c.isDigit && c.toNat - 48 < base
  let digits := cs.takeWhile isDigit
  let suffix := cs.drop digits.length
  let value (c : Char) : Nat := if c.isDigit then c.toNat - 48 else c.toLower.toNat - 87
  let n := digits.foldl (fun n c => n * base + value c) 0
  if digits.isEmpty then refuse ""
  match factor? "bEGKkMmPTYZ0" suffix with
  | some factor => return n * factor
  | none => refuse "suffix in "

/-- An offset in the old way: octal, or decimal with a point behind it. -/
def oldOffset? (text : String) : Option Nat :=
  let cs := text.toList
  let cs := if cs.head? = some '+' then cs.drop 1 else cs
  let (cs, factor) := match cs.reverse with
    | 'b' :: rest => (rest.reverse, 512)
    | 'B' :: rest => (rest.reverse, 1024)
    | _ => (cs, 1)
  let (base, cs) :=
    match cs, cs.getLast? with
    | '0' :: 'x' :: rest, _ | '0' :: 'X' :: rest, _ => (16, rest)
    | cs, some '.' => (10, cs.dropLast)
    | cs, _ => (8, cs)
  let value? (c : Char) : Option Nat :=
    let n := if c.isDigit then c.toNat - 48
      else if 'a' ≤ c.toLower ∧ c.toLower ≤ 'f' then c.toLower.toNat - 87 else base
    if n < base then some n else none
  if cs.isEmpty then none
  else (cs.foldl (fun n? c => do return (← n?) * base + (← value? c)) (some 0)).map (· * factor)

structure Request where
  formats : List Format := []
  address : AddressStyle := .octal
  skipped : Nat := 0
  limit : Option Nat := none
  width : Option Nat := none
  least : Option Nat := none
  abbreviates : Bool := true
  bigEndian : Bool := false
  /-- Offsets are not given as operands. -/
  modern : Bool := false
  failed : Bool := false

def takeOption (call : Call) (r : Request) (letter : Char) (value : String) : Act Request := do
  let option := "-" ++ String.singleton letter
  match letter with
  | 'A' =>
      let r := { r with modern := true }
      match value.toList.headD '\x00' with
      | 'd' => return { r with address := .decimal }
      | 'o' => return { r with address := .octal }
      | 'x' => return { r with address := .hexadecimal }
      | 'n' => return { r with address := .none }
      | c =>
          complain call ("invalid output address radix '" ++ String.singleton c ++
            "'; it must be one character from [doxn]")
          return { r with failed := true }
  | 'j' => return { r with modern := true, skipped := ← countOf call option value }
  | 'N' => return { r with modern := true, limit := some (← countOf call option value) }
  | 'S' => return { r with modern := true, least := some (← countOf call option value) }
  | '0' =>
      let least ← if value.isEmpty then pure 3 else countOf call "--strings" value
      return { r with modern := true, least := some least }
  | 't' =>
      match readFormats (value.length + 1) value.toList [] with
      | .ok formats => return { r with modern := true, formats := r.formats ++ formats }
      | .error e =>
          complain call (e.message (quoteText value))
          return { r with modern := true, failed := true }
  | 'v' => return { r with modern := true, abbreviates := false }
  | 'w' =>
      let width ← if value.isEmpty then pure 32 else countOf call option value
      return { r with modern := true, width := some width }
  | '@' =>
      let big ←
        choiceOf call 1 "--endian" [("little", false), ("big", true)] value
      return { r with bigEndian := big }
  | c => return { r with formats := r.formats ++ (letterFormat? c).toList }

/-- The offset among the operands, if there is one, and the files. -/
def splitOffset (r : Request) (operands : List String) : Nat × List String :=
  let found? :=
    if r.modern then none
    else
      match operands with
      | [a] => if a.startsWith "+" then (oldOffset? a).map fun n => (n, []) else none
      | [file, a] =>
          if a.startsWith "+" ∨ a.toList.head?.any Char.isDigit then
            (oldOffset? a).map fun n => (n, [file])
          else none
      | _ => none
  found?.getD (r.skipped, operands)

/-- What is in some files one after the other, and whether all could be read. -/
def contentOf (call : Call) (paths : List String) : Act (List String × Nat) :=
  paths.foldlM (fun (texts, status) path => do
    match ← readInput path with
    | .ok text => return (texts ++ [text], status)
    | .error e =>
        complainOf call (quoteName path) e
        return (if e = .isDirectory then texts ++ [""] else texts, 1)) ([], 0)

end Dumping

open Dumping in
def od : Utility := fun call => do
  let parsed ← table.parse call
  let r ← parsed.options.foldlM (fun r (letter, value) => takeOption call r letter value)
    ({} : Request)
  if r.failed then stop 1
  if r.least.isSome ∧ !r.formats.isEmpty then
    giveUp call 1 "no type may be specified when dumping strings"
  let (skipped, files) := splitOffset r parsed.operands
  let formats := if r.formats.isEmpty then [⟨.octal, 2, false⟩] else r.formats
  let unit := (formats.map Format.size).foldl max 1
  let line ← match r.width with
    | none => pure (if unit < 16 then unit * (16 / unit) else unit)
    | some width =>
        if width ≠ 0 ∧ width % unit = 0 then pure width
        else
          complain call ("warning: invalid width " ++ toString width ++ "; using " ++
            toString unit ++ " instead")
          pure unit
  let (texts', status) ← contentOf call (inputsOf files)
  let all := (String.join texts').toList.map Char.toNat
  if texts'.isEmpty then stop status
  if all.length < skipped then
    giveUp call 1 "cannot skip past end of combined input"
  let wanted := all.drop skipped
  let wanted := match r.limit with
    | some n => wanted.take n
    | none => wanted
  match r.least with
  | some least =>
      Act.print (String.join ((texts least wanted skipped []).map fun (address, found) =>
        let shown := r.address.text address
        shown ++ (if shown.isEmpty then "" else " ") ++ escapedText found ++ "\n"))
  | none =>
      let plan : Plan := ⟨formats, r.address, line, r.abbreviates, r.bigEndian⟩
      let rows := chunks line (wanted.length + 1) wanted
      Act.print (String.join (plan.lines rows skipped none false))
      if r.address ≠ .none then
        Act.printLine (r.address.text (skipped + wanted.length))
  return status

end CompilerDriver.Utility
