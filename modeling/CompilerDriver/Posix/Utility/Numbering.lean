import CompilerDriver.Posix.Text.Regex.Reading
import CompilerDriver.Posix.Utility.Input
import CompilerDriver.Posix.Utility.Quantity

/-!
# Numbered lines

`nl` numbers the lines of its input.  A page has a header, a body and a footer, each with a style of
its own, which lines of delimiters announce.
-/

namespace CompilerDriver.Utility

open Kernel

/-- Which lines of a section are numbered. -/
inductive NumberingStyle where
  | all
  | filled
  | none
  | matching (p : Text.Regex.Program)
  deriving Inhabited

/-- Where a number stands in its columns. -/
inductive NumberPlace where
  | left
  | right
  | zeros
  deriving DecidableEq, Repr

structure Numbering where
  header : NumberingStyle
  body : NumberingStyle
  footer : NumberingStyle
  delimiter : String
  first : Int
  increment : Int
  /-- Of so many empty lines in a row, the last one is numbered. -/
  blankJoin : Nat
  continues : Bool
  place : NumberPlace
  between : String
  width : Nat

structure NumberingState where
  style : NumberingStyle
  next : Int
  blanks : Nat := 0

namespace Numbering

def numberText (o : Numbering) (n : Int) : String :=
  let digits := toString n
  let fill (c : Char) : String := String.ofList (List.replicate (o.width - digits.length) c)
  let number :=
    match o.place with
    | .left => digits ++ fill ' '
    | .right => fill ' ' ++ digits
    | .zeros =>
        if n < 0 then "-" ++ fill '0' ++ String.ofList (digits.toList.drop 1)
        else fill '0' ++ digits
  number ++ o.between

def blankText (o : Numbering) : String :=
  String.ofList (List.replicate (o.width + o.between.length) ' ')

/-- The style of the section that a line announces. -/
def section? (o : Numbering) (line : String) : Option NumberingStyle :=
  if line.length < 2 ∨ o.delimiter.length < 2 then none
  else if line = o.delimiter ++ o.delimiter ++ o.delimiter then some o.header
  else if line = o.delimiter ++ o.delimiter then some o.body
  else if line = o.delimiter then some o.footer
  else none

/-- A line as it is shown. -/
def feed (o : Numbering) (s : NumberingState) (line : String) : String × NumberingState :=
  match o.section? line with
  | some style =>
      ("\n", { s with style := style, next := if o.continues then s.next else o.first })
  | none =>
      let numbered : String × NumberingState :=
        (o.numberText s.next ++ line ++ "\n", { s with next := s.next + o.increment })
      let plain : String × NumberingState := (o.blankText ++ line ++ "\n", s)
      match s.style with
      | .all =>
          if o.blankJoin ≤ 1 then numbered
          else if !line.isEmpty ∨ s.blanks + 1 = o.blankJoin then
            (numbered.1, { numbered.2 with blanks := 0 })
          else (plain.1, { s with blanks := s.blanks + 1 })
      | .filled => if line.isEmpty then plain else numbered
      | .none => plain
      | .matching p => if (p.find? line.toList.toArray true 0).isSome then numbered else plain

end Numbering

def nlTable : OptionTable := {
  flags := "p", valued := "bdfhilnsvw"
  named := [("header-numbering", 'h'), ("body-numbering", 'b'), ("footer-numbering", 'f'),
    ("starting-line-number", 'v'), ("line-increment", 'i'), ("no-renumber", 'p'),
    ("join-blank-lines", 'l'), ("number-separator", 's'), ("number-width", 'w'),
    ("number-format", 'n'), ("section-delimiter", 'd')] }

def numberingStyle (call : Call) (what : String) (text : String) :
    Act (Option NumberingStyle) := do
  match text.toList with
  | 'a' :: _ => return some .all
  | 't' :: _ => return some .filled
  | 'n' :: _ => return some .none
  | 'p' :: pattern =>
      match Text.Regex.ofText {} pattern with
      | .ok r => return some (.matching (Text.Regex.compile r { multiline := true }))
      | .error e => giveUp call 1 e.message
  | _ =>
      complain call ("invalid " ++ what ++ " numbering style: " ++ quoteText text)
      return none

def nl : Utility := fun call => do
  let parsed ← nlTable.parse call
  let styleOf (letter : Char) (what usual : String) : Act (Option NumberingStyle) :=
    numberingStyle call what ((parsed.value? letter).getD usual)
  let header? ← styleOf 'h' "header" "n"
  let body? ← styleOf 'b' "body" "t"
  let footer? ← styleOf 'f' "footer" "n"
  let first ← signedOf call 1 "invalid starting line number" ((parsed.value? 'v').getD "1")
  let increment ← signedOf call 1 "invalid line number increment" ((parsed.value? 'i').getD "1")
  let blankJoin ← quantityOf call 1 "" "invalid line number of blank lines"
    ((parsed.value? 'l').getD "1") 1
  let width ← quantityOf call 1 "" "invalid line number field width"
    ((parsed.value? 'w').getD "6") 1 2147483647
  let place? ←
    match parsed.value? 'n' with
    | none | some "rn" => pure (some NumberPlace.right)
    | some "ln" => pure (some .left)
    | some "rz" => pure (some .zeros)
    | some text => do
        complain call ("invalid line numbering format: " ++ quoteText text)
        pure none
  match header?, body?, footer?, place? with
  | some header, some body, some footer, some place =>
      let given := (parsed.value? 'd').getD "\\:"
      let delimiter := if given.length = 1 then given ++ ":" else given
      let o : Numbering := {
        header, body, footer, delimiter, first, increment, blankJoin, place, width
        continues := parsed.has 'p', between := (parsed.value? 's').getD "\t" }
      let (_, status) ← (inputsOf parsed.operands).foldlM (fun (s, status) path => do
        match ← readInput path with
        | .error e =>
            complainOf call (quoteName path) e
            return (s, 1)
        | .ok text =>
            let (shown, s) := (linesOf text).foldl
              (fun ((shown, s) : List String × NumberingState) line =>
                let (text, s) := o.feed s line
                (text :: shown, s)) ([], s)
            Act.print (String.join shown.reverse)
            return (s, status)) (({ style := body, next := first } : NumberingState), 0)
      return status
  | _, _, _, _ =>
      Act.printError (hint call ++ "\n")
      return 1

end CompilerDriver.Utility
