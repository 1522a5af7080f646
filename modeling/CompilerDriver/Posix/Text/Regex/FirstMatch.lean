import CompilerDriver.Posix.Text.Regex.Basic

/-!
# Expressions whose first match counts

A richer way to write regular expressions, with conditions on what lies ahead and behind, lazy and
greedy repetitions, and flags.  The first of the alternatives that leads to a match is taken, and
not the longest one.
-/

namespace CompilerDriver.Text.Regex.FirstMatch

inductive Fault where
  | openGroup
  | closeGroup
  | openSet
  | intervalOrder
  | intervalSize
  | repetition
  | backslash
  | subpatternName
  | nameStart
  | repeatedName
  | behindLength
  | rangeOrder
  | range
  | className
  | reference
  | groupKind
  | control
  | hexadecimal
  | property
  | namedReference
  | escape
  | collation
  | classOutside
  | comment
  | verb
  | octal
  | caseEscape
  deriving DecidableEq, Repr, Inhabited

def Fault.message : Fault → String
  | openGroup => "missing closing parenthesis"
  | closeGroup => "unmatched closing parenthesis"
  | openSet => "missing terminating ] for character class"
  | intervalOrder => "numbers out of order in \x7b\x7d quantifier"
  | intervalSize => "number too big in \x7b\x7d quantifier"
  | repetition => "quantifier does not follow a repeatable item"
  | backslash => "\\ at end of pattern"
  | subpatternName => "syntax error in subpattern name (missing terminator?)"
  | nameStart => "subpattern name must start with a non-digit"
  | repeatedName => "two named subpatterns have the same name (PCRE2_DUPNAMES not set)"
  | behindLength => "lookbehind assertion is not fixed length"
  | rangeOrder => "range out of order in character class"
  | range => "invalid range in character class"
  | className => "unknown POSIX class name"
  | reference => "reference to non-existent subpattern"
  | groupKind => "unrecognized character after (? or (?-"
  | control => "\\c at end of pattern"
  | hexadecimal => "non-hex character in \\x\x7b\x7d (closing brace missing?)"
  | property => "unknown property after \\P or \\p"
  | namedReference => "\\g is not followed by a braced, angle-bracketed, or quoted name/number " ++
      "or by a plain number"
  | escape => "unrecognized character follows \\"
  | collation => "POSIX collating elements are not supported"
  | classOutside => "POSIX named classes are supported only within a class"
  | comment => "missing ) after (?# comment"
  | verb => "(*VERB) not recognized or malformed"
  | octal => "missing opening brace after \\o"
  | caseEscape => "PCRE2 does not support \\F, \\L, \\l, \\N\x7bname\x7d, \\U, or \\u"

/-! ## Characters -/

abbrev Ranges := List (Char × Char)

def digits : Ranges := [('0', '9')]

def wordRanges : Ranges := [('0', '9'), ('A', 'Z'), ('_', '_'), ('a', 'z')]

def spaces : Ranges := [('\t', '\r'), (' ', ' ')]

def horizontalSpaces : Ranges :=
  [('\t', '\t'), (' ', ' ')] ++
    [(0xA0, 0xA0), (0x1680, 0x1680), (0x180E, 0x180E), (0x2000, 0x200A), (0x202F, 0x202F),
      (0x205F, 0x205F), (0x3000, 0x3000)].map fun r => (Char.ofNat r.1, Char.ofNat r.2)

def verticalSpaces : Ranges :=
  ('\n', '\r') :: [(0x85, 0x85), (0x2028, 0x2029)].map fun r => (Char.ofNat r.1, Char.ofNat r.2)

/-- What is outside of ranges that are in order; no stray octet is. -/
def outside (ranges : Ranges) : Ranges :=
  let limit := strayBase
  let range (low high : Nat) : Ranges :=
    if low < high then [(Char.ofNat low, Char.ofNat (high - 1))] else []
  let (found, start) := ranges.foldl (fun ((found, start) : Ranges × Nat) r =>
    (found ++ range start r.1.toNat, r.2.toNat + 1)) ([], 0)
  found ++ range start limit

/-- The classes of characters by the letters of their escapes. -/
def escapeRanges? : Char → Option Ranges
  | 'd' => some digits
  | 'D' => some (outside digits)
  | 'w' => some wordRanges
  | 'W' => some (outside wordRanges)
  | 's' => some spaces
  | 'S' => some (outside spaces)
  | 'h' => some horizontalSpaces
  | 'H' => some (outside horizontalSpaces)
  | 'v' => some verticalSpaces
  | 'V' => some (outside verticalSpaces)
  | _ => none

/-- The named classes, which hold characters below U+0080 only. -/
def classRanges? : String → Option Ranges
  | "alpha" => some [('A', 'Z'), ('a', 'z')]
  | "lower" => some [('a', 'z')]
  | "upper" => some [('A', 'Z')]
  | "alnum" => some [('0', '9'), ('A', 'Z'), ('a', 'z')]
  | "digit" => some digits
  | "xdigit" => some [('0', '9'), ('A', 'F'), ('a', 'f')]
  | "space" => some spaces
  | "blank" => some [('\t', '\t'), (' ', ' ')]
  | "cntrl" => some [('\x00', '\x1f'), ('\x7f', '\x7f')]
  | "graph" => some [('!', '~')]
  | "print" => some [(' ', '~')]
  | "punct" => some [('!', '/'), (':', '@'), ('[', '\x60'), ('\x7b', '~')]
  | "word" => some wordRanges
  | "ascii" => some [('\x00', '\x7f')]
  | _ => none

/-- The classes that stand for a property. -/
def propertyClasses? : String → Option (List String)
  | "L" => some ["alpha"]
  | "Lu" => some ["upper"]
  | "Ll" => some ["lower"]
  | "N" | "Nd" => some ["digit"]
  | "P" => some ["punct"]
  | "Z" | "Zs" => some ["blank"]
  | "Any" => some ["print", "cntrl"]
  | _ => none

/-- The characters of ranges in both cases. -/
def bothCases (ranges : Ranges) : Ranges :=
  ranges.flatMap fun (low, high) =>
    let shifted (first last : Char) (shift : Int) : Ranges :=
      let low := max low.toNat first.toNat
      let high := min high.toNat last.toNat
      if low ≤ high then
        [(Char.ofNat ((low : Int) + shift).toNat, Char.ofNat ((high : Int) + shift).toNat)]
      else []
    (low, high) :: shifted 'a' 'z' (-32) ++ shifted 'A' 'Z' 32

/-! ## Reading -/

structure Flags where
  ignoreCase : Bool := false
  /-- A newline starts and ends a line. -/
  multiline : Bool := false
  /-- A dot stands for a newline too. -/
  dotAll : Bool := false
  /-- Blanks in the expression mean nothing. -/
  spaced : Bool := false

structure Reader where
  rest : List Char
  flags : Flags := {}
  groups : Nat := 0
  names : List (String × Nat) := []
  /-- The highest group that is referred to. -/
  reference : Nat := 0

def ofRanges (flags : Flags) (ranges : Ranges) : Regex :=
  .set { ranges := if flags.ignoreCase then bothCases ranges else ranges }

def ofChar (flags : Flags) (c : Char) : Regex :=
  if flags.ignoreCase && c.isAlpha then ofRanges flags [(c, c)] else .char c

def wordChar : Regex := .set { ranges := wordRanges }

/-- A word begins or ends here, or does not. -/
def wordEdge (negated : Bool) : Regex :=
  let look (behind absent : Bool) : Regex := .look behind absent wordChar
  .alt (.seq (look true false) (look false (!negated))) (.seq (look true true) (look false negated))

def textEnd : Regex := .assertion .textEnd

def newline : Regex := .char '\n'

/-- The end of the text, or the newline before it. -/
def lastLineEnd : Regex := .alt textEnd (.look false false (.seq newline textEnd))

def hexValue (cs : List Char) : Nat :=
  cs.foldl (fun n c => n * 16 + (if c.isDigit then c.toNat - 48 else c.toLower.toNat - 87)) 0

def octalValue (cs : List Char) : Nat := cs.foldl (fun n c => n * 8 + (c.toNat - 48)) 0

def decimalValue (cs : List Char) : Nat := cs.foldl (fun n c => n * 10 + (c.toNat - 48)) 0

def isHexDigit (c : Char) : Bool :=
  c.isDigit || ('a' ≤ c && c ≤ 'f') || ('A' ≤ c && c ≤ 'F')

def isOctalDigit (c : Char) : Bool := '0' ≤ c && c ≤ '7'

/-- The first characters that satisfy something, at most so many, and what follows them. -/
def spanUpTo (n : Nat) (p : Char → Bool) (cs : List Char) : List Char × List Char :=
  let found := (cs.take n).takeWhile p
  (found, cs.drop found.length)

/-- What stands before a mark, and what follows it. -/
def upTo? (mark : Char) (cs : List Char) : Option (List Char × List Char) :=
  let inside := cs.takeWhile (· != mark)
  if inside.length < cs.length then some (inside, cs.drop (inside.length + 1)) else none

/-- An escape that stands for one character, and what follows it. -/
def escapedChar? (c : Char) (rest : List Char) : Except Fault (Option (Char × List Char)) :=
  match c with
  | 't' => .ok (some ('\t', rest))
  | 'n' => .ok (some ('\n', rest))
  | 'r' => .ok (some ('\r', rest))
  | 'f' => .ok (some ('\x0c', rest))
  | 'a' => .ok (some ('\x07', rest))
  | 'e' => .ok (some ('\x1b', rest))
  | 'c' =>
      match rest with
      | [] => .error .control
      | d :: rest => .ok (some (Char.ofNat (d.toUpper.toNat ^^^ 64), rest))
  | '0' =>
      let (ds, rest) := spanUpTo 2 isOctalDigit rest
      .ok (some (Char.ofNat (octalValue ds), rest))
  | 'o' =>
      match rest with
      | '\x7b' :: rest =>
          match upTo? '\x7d' rest with
          | some (ds, rest) => .ok (some (Char.ofNat (octalValue ds), rest))
          | none => .error .octal
      | _ => .error .octal
  | 'x' =>
      match rest with
      | '\x7b' :: rest =>
          match upTo? '\x7d' rest with
          | some (ds, rest) =>
              if ds.isEmpty ∨ !ds.all isHexDigit then .error .hexadecimal
              else .ok (some (Char.ofNat (hexValue ds), rest))
          | none => .error .hexadecimal
      | rest =>
          let (ds, rest) := spanUpTo 2 isHexDigit rest
          .ok (some (Char.ofNat (hexValue ds), rest))
  | 'F' | 'L' | 'l' | 'U' | 'u' => .error .caseEscape
  | c => if c.isAlphanum then .ok none else .ok (some (c, rest))

/-- A property behind its letter: the classes that stand for it, and whether it is negated. -/
def property (cs : List Char) : Except Fault ((List String × Bool) × List Char) :=
  let found (name : List Char) (rest : List Char) :
      Except Fault ((List String × Bool) × List Char) :=
    let negated := name.head? == some '^'
    let name := if negated then name.drop 1 else name
    match propertyClasses? (String.ofList name) with
    | some classes => .ok ((classes, negated), rest)
    | none => .error .property
  match cs with
  | '\x7b' :: rest =>
      match upTo? '\x7d' rest with
      | some (name, rest) => found name rest
      | none => .error .property
  | c :: rest => found [c] rest
  | [] => .error .property

/-! ### Sets -/

inductive SetElement where
  | char (c : Char)
  | ranges (r : Ranges)
  | classes (names : List String)

/-- An element of a set, and what follows it. -/
def setElement : List Char → Except Fault (SetElement × List Char)
  | '\\' :: c :: rest =>
      match escapeRanges? c with
      | some ranges => .ok (.ranges ranges, rest)
      | none =>
          if c = 'b' then .ok (.char '\x08', rest)
          else if c = 'p' then (property rest).map fun (p, rest) => (.classes p.1, rest)
          else if isOctalDigit c then
            let (ds, rest) := spanUpTo 3 isOctalDigit (c :: rest)
            .ok (.char (Char.ofNat (octalValue ds)), rest)
          else
            match escapedChar? c rest with
            | .ok (some (c, rest)) => .ok (.char c, rest)
            | .ok none => .error .escape
            | .error e => .error e
  | '[' :: mark :: rest =>
      let named? := (upTo? mark rest).filter fun (_, after) => after.head? == some ']'
      match named? with
      | some (name, after) =>
          if mark = ':' then
            let negated := name.head? == some '^'
            match classRanges? (String.ofList (if negated then name.drop 1 else name)) with
            | some ranges =>
                .ok (.ranges (if negated then outside ranges else ranges), after.drop 1)
            | none => .error .className
          else if mark = '.' ∨ mark = '=' then .error .collation
          else .ok (.char '[', mark :: rest)
      | none => .ok (.char '[', mark :: rest)
  | c :: rest => .ok (.char c, rest)
  | [] => .error .openSet

/-- The elements of a set up to its end.  A closing bracket that comes first is one of them. -/
def setElements : Nat → Bool → List Char → CharSet → Except Fault (CharSet × List Char)
  | 0, _, _, _ => .error .openSet
  | _ + 1, _, [], _ => .error .openSet
  | n + 1, isFirst, cs, found => do
      if cs.head? = some ']' ∧ !isFirst then return (found, cs.drop 1)
      let (element, rest) ← setElement cs
      let isRange := rest.head? == some '-' && (rest.drop 1).head? != some ']' && 1 < rest.length
      match element with
      | .classes names => setElements n false rest { found with classes := names ++ found.classes }
      | .ranges ranges =>
          if isRange then throw .range
          setElements n false rest { found with ranges := ranges ++ found.ranges }
      | .char low =>
          if !isRange then
            setElements n false rest { found with ranges := (low, low) :: found.ranges }
          else
            match ← setElement (rest.drop 1) with
            | (.char high, rest) =>
                if high < low then throw .rangeOrder
                setElements n false rest { found with ranges := (low, high) :: found.ranges }
            | _ => throw .range

/-- A set behind its opening bracket. -/
def readSet (flags : Flags) (cs : List Char) : Except Fault (Regex × List Char) := do
  let negated := cs.head? == some '^'
  let inside := if negated then cs.drop 1 else cs
  let (found, rest) ← setElements (inside.length + 1) true inside { negated := negated }
  let ranges := if flags.ignoreCase then bothCases found.ranges else found.ranges
  return (.set { found with ranges := ranges }, rest)

/-- An opening bracket starts a class that stands outside of a set. -/
def isClassOutside (rest : List Char) : Bool :=
  match rest with
  | ':' :: cs => ((upTo? ':' cs).any fun (name, after) =>
      name.all Char.isAlpha && after.head? == some ']')
  | _ => false

/-! ### Repetitions -/

def maxRepeats : Nat := 65535

/-- The bounds of a repetition behind its opening brace; without any, the brace stands for
itself. -/
def interval? (cs : List Char) : Except Fault (Option ((Nat × Option Nat) × List Char)) := do
  let (low, rest) := spanUpTo cs.length Char.isDigit cs
  if low.isEmpty then return none
  let check (least : Nat) (most : Option Nat) (rest : List Char) :
      Except Fault (Option ((Nat × Option Nat) × List Char)) :=
    if maxRepeats < max least (most.getD 0) then .error .intervalSize
    else if most.any (· < least) then .error .intervalOrder
    else .ok (some ((least, most), rest))
  match rest with
  | '\x7d' :: rest => check (decimalValue low) (some (decimalValue low)) rest
  | ',' :: rest =>
      let (high, rest) := spanUpTo rest.length Char.isDigit rest
      match rest with
      | '\x7d' :: rest =>
          check (decimalValue low) (if high.isEmpty then none else some (decimalValue high)) rest
      | _ => return none
  | _ => return none

/-- A repetition of an expression and what follows it, if there is one. -/
def repetition? (r : Regex) (cs : List Char) : Except Fault (Option (Regex × List Char)) := do
  let bounds? ← match cs with
    | '*' :: rest => pure (some ((0, none), rest))
    | '+' :: rest => pure (some ((1, none), rest))
    | '?' :: rest => pure (some ((0, some 1), rest))
    | '\x7b' :: rest => interval? rest
    | _ => pure none
  match bounds? with
  | none => return none
  | some ((least, most), rest) =>
      match rest with
      | '?' :: rest => return some (.repeat r least most true, rest)
      | '+' :: rest => return some (.atomic (.repeat r least most), rest)
      | rest => return some (.repeat r least most, rest)

/-- How many characters an expression matches, if that is always the same. -/
def length? : Regex → Option Nat
  | .empty | .assertion _ | .look _ _ _ | .restart => some 0
  | .char _ | .any | .set _ => some 1
  | .seq a b => return (← length? a) + (← length? b)
  | .alt a b => do
      let n ← length? a
      if n = (← length? b) then some n else none
  | .repeat r least most _ => do if most = some least then some ((← length? r) * least) else none
  | .group _ r | .atomic r => length? r
  | .reference _ => none

/-- The alternatives of an expression. -/
def alternatives : Regex → List Regex
  | .alt a b => alternatives a ++ alternatives b
  | .group _ r => alternatives r
  | r => [r]

/-! ### Groups -/

inductive GroupKind where
  | plain
  | numbered (name : Option String)
  | look (behind negated : Bool)
  | atomic
  /-- Flags from here on. -/
  | flags (f : Flags)
  /-- Flags for what the group holds. -/
  | flagged (f : Flags)
  | reference (name : String)
  | nothing

/-- Flags that letters set or, behind a dash, clear. -/
def readFlags : Nat → Bool → Flags → List Char → Except Fault (GroupKind × List Char)
  | 0, _, _, _ => .error .groupKind
  | n + 1, value, f, cs =>
      match cs with
      | [] => .error .openGroup
      | ')' :: rest => .ok (.flags f, rest)
      | ':' :: rest => .ok (.flagged f, rest)
      | '-' :: rest => readFlags n false f rest
      | 'i' :: rest => readFlags n value { f with ignoreCase := value } rest
      | 'm' :: rest => readFlags n value { f with multiline := value } rest
      | 's' :: rest => readFlags n value { f with dotAll := value } rest
      | 'x' :: rest => readFlags n value { f with spaced := value } rest
      | 'U' :: rest | 'J' :: rest | 'n' :: rest => readFlags n value f rest
      | _ => .error .groupKind

/-- A name up to a mark. -/
def groupName (mark : Char) (cs : List Char) : Except Fault (String × List Char) :=
  let name := cs.takeWhile fun c => c.isAlphanum || c == '_'
  if name.head?.any Char.isDigit then .error .nameStart
  else if name.isEmpty ∨ (cs.drop name.length).head? ≠ some mark then .error .subpatternName
  else .ok (String.ofList name, cs.drop (name.length + 1))

/-- The kind of a group behind its opening parenthesis, and what it holds. -/
def groupKind (flags : Flags) (cs : List Char) : Except Fault (GroupKind × List Char) :=
  let named (mark : Char) (rest : List Char) : Except Fault (GroupKind × List Char) :=
    (groupName mark rest).map fun (name, rest) => (.numbered (some name), rest)
  match cs with
  | '?' :: ':' :: rest | '?' :: '|' :: rest => .ok (.plain, rest)
  | '?' :: '=' :: rest => .ok (.look false false, rest)
  | '?' :: '!' :: rest => .ok (.look false true, rest)
  | '?' :: '<' :: '=' :: rest => .ok (.look true false, rest)
  | '?' :: '<' :: '!' :: rest => .ok (.look true true, rest)
  | '?' :: '>' :: rest => .ok (.atomic, rest)
  | '?' :: '#' :: rest =>
      match upTo? ')' rest with
      | some (_, rest) => .ok (.nothing, rest)
      | none => .error .comment
  | '?' :: '<' :: rest | '?' :: 'P' :: '<' :: rest => named '>' rest
  | '?' :: '\'' :: rest => named '\'' rest
  | '?' :: 'P' :: '=' :: rest =>
      (groupName ')' rest).map fun (name, rest) => (.reference name, rest)
  | '?' :: rest => readFlags (rest.length + 1) true flags rest
  | '*' :: _ => .error .verb
  | cs => .ok (.numbered none, cs)

/-! ### Expressions -/

/-- A reference to a group by its number or, with a dash, by its distance. -/
def numberedReference (s : Reader) (text : List Char) : Except Fault Nat :=
  let value := decimalValue (text.filter Char.isDigit)
  match text with
  | '-' :: _ =>
      if value ≤ s.groups ∧ 0 < value then .ok (s.groups + 1 - value) else .error .reference
  | _ => .ok value

/-- An escape outside of a set: what it stands for, whether it can be repeated, and the reader
behind it. -/
def readEscape (s : Reader) (c : Char) (rest : List Char) :
    Except Fault ((Regex × Bool) × Reader) := do
  let done (r : Regex) (rest : List Char) : Except Fault ((Regex × Bool) × Reader) :=
    .ok ((r, true), { s with rest := rest })
  let mark (r : Regex) : Except Fault ((Regex × Bool) × Reader) :=
    .ok ((r, false), { s with rest := rest })
  let refer (n : Nat) (rest : List Char) : Except Fault ((Regex × Bool) × Reader) :=
    .ok ((.reference n, true), { s with rest := rest, reference := max n s.reference })
  let referTo (name : List Char) (rest : List Char) : Except Fault ((Regex × Bool) × Reader) :=
    match s.names.lookup (String.ofList name) with
    | some n => refer n rest
    | none => .error .reference
  match c with
  | 'A' | 'G' => mark (.assertion .textStart)
  | 'z' => mark textEnd
  | 'Z' => mark lastLineEnd
  | 'b' => mark (wordEdge false)
  | 'B' => mark (wordEdge true)
  | 'K' => mark .restart
  | 'E' => mark .empty
  | 'Q' =>
      let rec literal : List Char → Regex → Regex × List Char
        | '\\' :: 'E' :: rest, r => (r, rest)
        | c :: rest, r => literal rest (.seq r (ofChar s.flags c))
        | [], r => (r, [])
      let (r, rest) := literal rest .empty
      done r rest
  | 'N' =>
      if rest.head? = some '\x7b' then throw .caseEscape
      done (.set { ranges := [('\n', '\n')], negated := true }) rest
  | 'R' =>
      done (.atomic (.alt (.seq (.char '\r') newline) (.set { ranges := verticalSpaces }))) rest
  | 'C' | 'X' => done (.set { negated := true }) rest
  | 'p' | 'P' => do
      let ((classes, negated), rest) ← property rest
      done (.set { classes := classes, negated := negated != (c == 'P') }) rest
  | 'g' =>
      match rest with
      | '\x7b' :: more =>
          match upTo? '\x7d' more with
          | some (name, rest) =>
              if name.all fun c => c.isDigit || c == '-' then
                refer (← numberedReference s name) rest
              else referTo name rest
          | none => throw .namedReference
      | rest =>
          let (ds, after) := spanUpTo rest.length (fun c => c.isDigit || c == '-') rest
          if ds.isEmpty then throw .namedReference
          refer (← numberedReference s ds) after
  | 'k' =>
      let close? : Option Char := match rest.head? with
        | some '<' => some '>'
        | some '\x7b' => some '\x7d'
        | some '\'' => some '\''
        | _ => none
      match close?.bind fun close => upTo? close (rest.drop 1) with
      | some (name, rest) => referTo name rest
      | none => throw .subpatternName
  | c =>
      if '1' ≤ c ∧ c ≤ '9' then
        let (ds, after) := spanUpTo 3 Char.isDigit (c :: rest)
        let n := decimalValue ds
        if n < 10 ∨ n ≤ s.groups then refer n after
        else
          let (ds, after) := spanUpTo 3 isOctalDigit (c :: rest)
          if ds.isEmpty then done (.char c) rest
          else done (ofChar s.flags (Char.ofNat (octalValue ds))) after
      else
        match escapeRanges? c with
        | some ranges => done (ofRanges s.flags ranges) rest
        | none =>
            match ← escapedChar? c rest with
            | some (c, rest) => done (ofChar s.flags c) rest
            | none => throw .escape

def join : Regex → Regex → Regex
  | .empty, r => r
  | a, .empty => a
  | a, b => .seq a b

/-- Reads alternatives up to the end of their group.  `done` holds the alternatives before the
present one, `before` what stands in it so far. -/
def readAlternatives : Nat → Nat → Reader → Option Regex → Regex → Except Fault (Regex × Reader)
  | 0, _, _, _, _ => .error .openGroup
  | n + 1, depth, s, done, before => do
      let whole := match done with
        | some d => Regex.alt d before
        | none => before
      /- Goes on behind an item and the repetitions of it. -/
      let push (s : Reader) (r : Regex) (repeats : Bool) : Except Fault (Regex × Reader) := do
        if repeats then
          if let some (r, rest) ← repetition? r s.rest then
            return ← readAlternatives n depth { s with rest := rest } done (join before r)
        readAlternatives n depth s done (join before r)
      match s.rest with
      | [] => if depth = 0 then return (whole, s) else throw .openGroup
      | '\\' :: [] => throw .backslash
      | '\\' :: c :: rest => do
          let ((r, repeats), s) ← readEscape s c rest
          push s r repeats
      | c :: rest =>
          let s := { s with rest := rest }
          match c with
          | ')' => if depth = 0 then throw .closeGroup else return (whole, s)
          | '|' => readAlternatives n depth s (some whole) .empty
          | '.' =>
              push s (.set { ranges := if s.flags.dotAll then [] else [('\n', '\n')],
                             negated := true }) true
          | '^' =>
              let start : Regex := .assertion .textStart
              let r := if s.flags.multiline then .alt start (.look true false newline) else start
              push s r false
          | '$' =>
              let r := if s.flags.multiline then .alt textEnd (.look false false newline)
                else textEnd
              push s r false
          | '[' => do
              if isClassOutside rest then throw .classOutside
              let (r, rest) ← readSet s.flags rest
              push { s with rest := rest } r true
          | '*' | '+' | '?' => throw .repetition
          | '\x7b' =>
              if (← interval? rest).isSome then throw .repetition
              push s (.char c) true
          | '(' => do
              let (kind, rest) ← groupKind s.flags rest
              let s := { s with rest := rest }
              /- What a group holds, with flags that end with it. -/
              let inside (s : Reader) (f : Flags) : Except Fault (Regex × Reader) := do
                let (r, after) ← readAlternatives n (depth + 1) { s with flags := f } none .empty
                return (r, { after with flags := s.flags })
              match kind with
              | .nothing => readAlternatives n depth s done before
              | .flags f => readAlternatives n depth { s with flags := f } done before
              | .plain => do
                  let (r, s) ← inside s s.flags
                  push s r true
              | .flagged f => do
                  let (r, s) ← inside s f
                  push s r true
              | .atomic => do
                  let (r, s) ← inside s s.flags
                  push s (.atomic r) true
              | .look behind negated => do
                  let (r, s) ← inside s s.flags
                  if behind && (alternatives r).any fun r => (length? r).isNone then
                    throw .behindLength
                  push s (.look behind negated r) true
              | .reference name =>
                  match s.names.lookup name with
                  | some k => push s (.reference k) true
                  | none => throw .reference
              | .numbered name? => do
                  let number := s.groups + 1
                  if name?.any fun name => (s.names.lookup name).isSome then throw .repeatedName
                  let names := name?.toList.map (·, number) ++ s.names
                  let (r, s) ← inside { s with groups := number, names := names } s.flags
                  push s (.group number r) true
          | c =>
              if s.flags.spaced ∧ spaces.any fun r => r.1 ≤ c && c ≤ r.2 then
                readAlternatives n depth s done before
              else if s.flags.spaced ∧ c = '#' then
                readAlternatives n depth { s with rest := rest.dropWhile (· != '\n') } done before
              else push s (ofChar s.flags c) true

/-- Reads an expression. -/
def ofText (cs : List Char) : Except Fault Regex := do
  let (r, s) ← readAlternatives (2 * cs.length + 4) 0 { rest := cs } none .empty
  if s.groups < s.reference then throw .reference
  return r

end CompilerDriver.Text.Regex.FirstMatch
