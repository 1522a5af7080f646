import CompilerDriver.Posix.Utility.Edit.Command
import CompilerDriver.Posix.Utility.Locale
import CompilerDriver.Posix.Utility.Quoting

/-!
# Scripts in words

How the commands of a script are shown, one to a line, with what a block holds indented.
-/

namespace CompilerDriver.Utility.Edit

/-- An octet in which everything can be seen. -/
def visibleOctet (c : Char) : String :=
  match c with
  | '\x07' => "\\a"
  | '\x0c' => "\\f"
  | '\n' => "\\n"
  | '\r' => "\\r"
  | '\t' => "\\t"
  | '\x0b' => "\\v"
  | '\\' => "\\\\"
  | c =>
      let n := c.toNat
      if 32 ≤ n ∧ n < 127 then String.singleton c
      else
        /- The number of an octet above 127 is taken for a negative one of 32 bits. -/
        let n := if 128 ≤ n then 4294967040 + n else n
        "\\o" ++ String.ofList (octal n)

def visible (unicode : Bool) (cs : List Char) : String :=
  String.join ((octetsIf unicode cs).toList.map visibleOctet)

section

variable (unicode : Bool)

def Pattern.shown : Option Pattern → String
  | none => "//"
  | some p =>
      let text := p.text.map fun c => if c = '/' then "\\/" else visible unicode [c]
      "/" ++ String.join text ++ "/"

def Pattern.flags (upper : Bool) : Option Pattern → String
  | none => ""
  | some p =>
      let text := (if p.ignoreCase then "i" else "") ++ (if p.multiline then "m" else "")
      if upper then text.map Char.toUpper else text

def Address.shown : Address → String
  | .line n => toString n
  | .every first step => toString first ++ "~" ++ toString step
  | .last => "$"
  | .pattern p => Pattern.shown unicode p ++ Pattern.flags true p

def RangeEnd.shown : RangeEnd → String
  | .address a => a.shown unicode
  | .count n => "+" ++ toString n
  | .multiple n => "~" ++ toString n

def Selector.shown (s : Selector) : String :=
  let first := (s.first.map (Address.shown unicode)).getD ""
  let last := (s.last.map fun e => "," ++ e.shown unicode).getD ""
  first ++ last ++ (if s.negated then "!" else "") ++ if s.first.isSome then " " else ""

/-- A mark stands before each part whose letters are written otherwise than before. -/
def replacementShown (parts : List ReplacementPart) : String :=
  (parts.foldl (fun ((text, before) : String × LetterCase) part =>
    let mark :=
      if part.letters = before then ""
      else
        match part.letters.first, part.letters.all with
        | none, none => "\\E"
        | none, some true => "\\U"
        | none, some false => "\\L"
        | some true, _ => "\\u"
        | some false, _ => "\\l"
    let group := match part.group with
      | none => ""
      | some 0 => "&"
      | some n => "\\" ++ toString n
    (text ++ mark ++ octetsIf unicode part.text ++ group, part.letters)) ("", {})).1

def Substitution.shown (s : Substitution) : String :=
  let flag (has : Bool) (letter : String) : String := if has then letter else ""
  Pattern.shown unicode s.pattern ++ replacementShown unicode s.parts ++ "/" ++
    Pattern.flags false s.pattern ++ flag s.everywhere "g" ++ flag s.runs "e" ++
    flag s.prints "p" ++ ((s.number.map toString).getD "") ++ ((s.file.map ("w" ++ ·)).getD "")

def Action.shown : Action → String
  | .nothing => ""
  | .label name => ":" ++ name
  | .blockStart => "\x7b"
  | .blockEnd => "\x7d"
  | .branch condition name =>
      let letter := match condition with
        | .always => "b"
        | .changed => "t"
        | .unchanged => "T"
      if name.isEmpty then letter else letter ++ " " ++ name
  | .append text => "a\\" ++ text
  | .insert text => "i\\" ++ text
  | .change text => "c\\" ++ text
  | .run command => "e " ++ command ++ if command.isEmpty then "" else "\n"
  | .delete => "d"
  | .deleteFirst => "D"
  | .lineNumber => "="
  | .fileName => "F"
  | .fetch => "g"
  | .fetchMore => "G"
  | .hold => "h"
  | .holdMore => "H"
  | .exchange => "x"
  | .list width => "l" ++ ((width.map fun n => " " ++ toString n).getD "")
  | .next => "n"
  | .nextMore => "N"
  | .print => "p"
  | .printFirst => "P"
  | .quit silent status =>
      (if silent then "Q" else "q") ++ ((status.map fun n => " " ++ toString n).getD "")
  | .readFile path => "r " ++ path
  | .readLine path => "R " ++ path
  | .write path => "w" ++ path
  | .writeFirst path => "W" ++ path
  | .substitute s => "s" ++ s.shown unicode
  | .transliterate pairs =>
      "y/" ++ octetsIf unicode (pairs.map (·.1)) ++ "/" ++ octetsIf unicode (pairs.map (·.2)) ++ "/"
  | .clear => "z"

/-- A command that stands in so many blocks, and how many the next one stands in. -/
def Command.shown (depth : Nat) (c : Command) : String × Nat :=
  let (depth, next) := match c.action with
    | .blockStart => (depth, depth + 1)
    | .blockEnd => (depth - 1, depth - 1)
    | _ => (depth, depth)
  (String.join (List.replicate depth "  ") ++ c.selector.shown unicode ++
    c.action.shown unicode ++ "\n", next)

/-- A whole script. -/
def programShown (commands : Array Command) : String :=
  (commands.foldl (fun ((text, depth) : String × Nat) c =>
    let (line, depth) := c.shown unicode depth
    (text ++ line, depth)) ("SED PROGRAM:\n", 1)).1

end

end CompilerDriver.Utility.Edit
