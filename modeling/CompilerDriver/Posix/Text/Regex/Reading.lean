import CompilerDriver.Posix.Text.Regex.Basic

/-!
# Reading regular expressions

There are two ways to write one.  In the basic way groups, intervals, alternatives and the operators
`+` and `?` have a backslash in front; in the extended way they have none.
-/

namespace CompilerDriver.Text.Regex

inductive ReadError where
  | pattern
  | bracket
  | openGroup
  | closeGroup
  | interval
  | intervalContent
  | operand
  | backslash
  | reference
  | rangeEnd
  | size
  | className
  | collation
  | classSyntax
  deriving DecidableEq, Repr, Inhabited

def ReadError.message : ReadError → String
  | pattern => "Invalid regular expression"
  | bracket => "Unmatched [, [^, [:, [., or [="
  | openGroup => "Unmatched ( or \\("
  | closeGroup => "Unmatched ) or \\)"
  | interval => "Unmatched \\\x7b"
  | intervalContent => "Invalid content of \\\x7b\\\x7d"
  | operand => "Invalid preceding regular expression"
  | backslash => "Trailing backslash"
  | reference => "Invalid back reference"
  | rangeEnd => "Invalid range end"
  | size => "Regular expression too big"
  | className => "Invalid character class name"
  | collation => "Invalid collation character"
  | classSyntax => "character class syntax is [[:space:]], not [:space:]"

/-! ## Sets -/

/-- An element of a set: a character or a class, and what follows. -/
inductive SetElement where
  | char (c : Char)
  | named (name : String)

/-- The text up to a mark and a bracket, and what follows. -/
def upToMark (mark : Char) : List Char → List Char → Option (List Char × List Char)
  | [], _ => none
  | c :: rest, inside =>
      if c = mark ∧ rest.head? = some ']' then some (inside.reverse, rest.drop 1)
      else upToMark mark rest (c :: inside)

def setElement (cs : List Char) : Except ReadError (SetElement × List Char) :=
  match cs with
  | '[' :: mark :: rest =>
      if mark = ':' then
        match upToMark ':' rest [] with
        | none => .error .bracket
        | some (name, rest) =>
            let name := String.ofList name
            if classNames.contains name then .ok (.named name, rest) else .error .className
      else if mark = '.' ∨ mark = '=' then
        match upToMark mark rest [] with
        | some ([c], rest) => .ok (.char c, rest)
        | some _ => .error .collation
        | none => .error .bracket
      else .ok (.char '[', mark :: rest)
  | c :: rest => .ok (.char c, rest)
  | [] => .error .bracket

def setElements : Nat → Bool → List Char → CharSet → Except ReadError (CharSet × List Char)
  | 0, _, _, _ => .error .bracket
  | _ + 1, _, [], _ => .error .bracket
  | n + 1, isFirst, c :: rest, found =>
      if c = ']' ∧ !isFirst then .ok (found, rest)
      else
        match setElement (c :: rest) with
        | .error e => .error e
        | .ok (.named name, rest) =>
            setElements n false rest { found with classes := name :: found.classes }
        | .ok (.char a, '-' :: d :: rest) =>
            if d = ']' then
              setElements n false (d :: rest)
                { found with ranges := (a, a) :: ('-', '-') :: found.ranges }
            else
              match setElement (d :: rest) with
              | .ok (.char b, rest) =>
                  if b < a then .error .rangeEnd
                  else setElements n false rest { found with ranges := (a, b) :: found.ranges }
              | .ok (.named _, _) => .error .rangeEnd
              | .error e => .error e
        | .ok (.char a, rest) =>
            setElements n false rest { found with ranges := (a, a) :: found.ranges }

/-- What stands in a set looks like a class without the brackets that it needs. -/
def looksLikeClass (inside : List Char) (s : CharSet) : Bool :=
  inside.length > 2 && inside.head? == some ':' && inside.getLast? == some ':' &&
    inside.any (· != ':') && s.classes.isEmpty && s.ranges.all fun r => r.1 == r.2

/-- A set behind its opening bracket. -/
def readSet (checksClasses : Bool) (cs : List Char) : Except ReadError (CharSet × List Char) :=
  match cs with
  | [] | ['^'] => .error .pattern
  | _ => do
      let negated := cs.head? == some '^'
      let inside := if negated then cs.drop 1 else cs
      let (found, rest) ← setElements (inside.length + 1) true inside { negated := negated }
      let written := inside.take (inside.length - rest.length - 1)
      if checksClasses ∧ looksLikeClass written found then throw .classSyntax
      return (found, rest)

/-! ## Intervals -/

/-- The most often that an interval may ask for. -/
def maxRepeats : Nat := 32767

/-- The bounds of an interval behind its opening brace. -/
def readInterval (extended : Bool) (cs : List Char) :
    Except ReadError ((Nat × Option Nat) × List Char) :=
  let value (ds : List Char) : Nat := ds.foldl (fun n c => n * 10 + (c.toNat - 48)) 0
  let inside := cs.takeWhile fun c => c != '\x7d'
  let body := if extended then inside else inside.dropLast
  let low := body.takeWhile Char.isDigit
  let bounds? : Option (Nat × Option Nat) :=
    match body.drop low.length with
    | [] => if low.isEmpty then none else some (value low, some (value low))
    | ',' :: high =>
        if !high.all Char.isDigit then none
        else some (value low, if high.isEmpty then none else some (value high))
    | _ => none
  if inside.length = cs.length ∨ (!extended ∧ inside.getLast? ≠ some '\\') then .error .interval
  else
    match bounds? with
    | none => .error .intervalContent
    | some (least, most) =>
        if most.any (· < least) then .error .intervalContent
        else if maxRepeats < max least (most.getD 0) then .error .size
        else .ok ((least, most), cs.drop (inside.length + 1))

/-! ## Expressions -/

/-- The tokens that the two ways of writing share. -/
inductive Token where
  | openGroup
  | closeGroup
  | bar
  | star
  | plus
  | question
  | interval
  | anchorStart
  | anchorEnd
  | atom (r : Regex)
  | openSet
  | finish
  deriving Inhabited

def escapedToken (c : Char) : Token :=
  let set (name : String) (negated : Bool) : Token :=
    .atom (.set { ranges := [], classes := [name], negated := negated })
  match c with
  | 'w' => set "word" false
  | 'W' => set "word" true
  | 's' => set "space" false
  | 'S' => set "space" true
  | '<' => .atom (.assertion .wordStart)
  | '>' => .atom (.assertion .wordEnd)
  | 'b' => .atom (.assertion .wordEdge)
  | 'B' => .atom (.assertion .notWordEdge)
  | '`' => .atom (.assertion .textStart)
  | '\'' => .atom (.assertion .textEnd)
  | c => if '1' ≤ c ∧ c ≤ '9' then .atom (.reference (c.toNat - 48)) else .atom (.char c)

/-- How an expression is written. -/
structure Manner where
  extended : Bool := false
  /-- An operator that makes no sense where it stands is an error, and not a character. -/
  strict : Bool := false
  /-- A set that looks like a class is an error. -/
  checksClasses : Bool := false
  /-- In the basic way, `+` and `?` are operators without a backslash, and there are no intervals. -/
  bareRepeats : Bool := false

/-- The token at the start of a text, and what follows.  `atStart` tells whether an operator would
have nothing before it. -/
def nextToken (manner : Manner) (atStart : Bool) (cs : List Char) :
    Except ReadError (Token × List Char) :=
  let extended := manner.extended
  let operator (t : Token) (rest : List Char) : Except ReadError (Token × List Char) :=
    if atStart ∧ manner.strict then .error .operand else .ok (t, rest)
  match cs with
  | [] => .ok (.finish, [])
  | '\\' :: [] => .error .backslash
  | '\\' :: c :: rest =>
      if extended then .ok (escapedToken c, rest)
      else
        match c with
        | '(' => .ok (.openGroup, rest)
        | ')' => .ok (.closeGroup, rest)
        | '|' => .ok (.bar, rest)
        | '\x7b' =>
            if manner.bareRepeats then .ok (.atom (.char c), rest)
            else if atStart ∧ manner.strict then .error .operand
            else .ok (.interval, rest)
        | '+' => .ok (if atStart ∨ manner.bareRepeats then .atom (.char '+') else .plus, rest)
        | '?' => .ok (if atStart ∨ manner.bareRepeats then .atom (.char '?') else .question, rest)
        | c => .ok (escapedToken c, rest)
  | c :: rest =>
      let plain : Except ReadError (Token × List Char) := .ok (.atom (.char c), rest)
      match c with
      | '.' => .ok (.atom .any, rest)
      | '[' => .ok (.openSet, rest)
      | '*' => if atStart ∧ !extended then plain else operator .star rest
      | '^' => if extended ∨ atStart then .ok (.anchorStart, rest) else plain
      | '$' =>
          let isLast := rest.isEmpty || rest.take 2 == ['\\', ')'] || rest.take 2 == ['\\', '|']
          if extended ∨ isLast then .ok (.anchorEnd, rest) else plain
      | '(' => if extended then .ok (.openGroup, rest) else plain
      | ')' => if extended then .ok (.closeGroup, rest) else plain
      | '|' => if extended then .ok (.bar, rest) else plain
      | '+' =>
          if extended then operator .plus rest
          else if manner.bareRepeats ∧ !atStart then .ok (.plus, rest)
          else plain
      | '?' =>
          if extended then operator .question rest
          else if manner.bareRepeats ∧ !atStart then .ok (.question, rest)
          else plain
      | '\x7b' =>
          if extended ∧ manner.strict then operator .interval rest
          else if extended then
            match readInterval true rest with
            | .error .interval => plain
            | .error .intervalContent =>
                if (rest.head?.any Char.isDigit) then .ok (.interval, rest) else plain
            | _ => .ok (.interval, rest)
          else plain
      | _ => plain

/-- Where the reader is: how deep in groups, how many there have been, and which are closed. -/
structure Reader where
  rest : List Char
  depth : Nat := 0
  groups : Nat := 0
  closed : List Nat := []
  /-- The operators that have stood where nothing was before them, the last one first. -/
  leading : List String := []

def join : Regex → Regex → Regex
  | .empty, r => r
  | a, b => .seq a b

/-- Reads alternatives up to the end of their group.  `done` holds the alternatives before the
present one, `before` what stands before the last atom of it. -/
def readAlternatives (manner : Manner) :
    Nat → Reader → Option Regex → Regex → Option Regex → Except ReadError (Regex × Reader)
  | 0, _, _, _, _ => .error .operand
  | n + 1, s, done, before, last => do
      let sequence := match last with
        | some r => join before r
        | none => before
      let whole := match done with
        | some d => Regex.alt d sequence
        | none => sequence
      let onlyAnchor := match last with
        | some (.assertion .lineStart) => true
        | _ => false
      let atStart := (last.isNone && before == .empty) || (onlyAnchor && before == .empty)
      let (token, rest) ← nextToken manner atStart s.rest
      let s := { s with rest := rest }
      let push (s : Reader) (r : Regex) : Except ReadError (Regex × Reader) :=
        readAlternatives manner n s done sequence (some r)
      let lead (operator : String) (s : Reader) : Reader :=
        if atStart then { s with leading := operator :: s.leading } else s
      let apply (s : Reader) (repeats : Bool) (f : Regex → Regex) :
          Except ReadError (Regex × Reader) :=
        match last with
        | some (.repeat r least most lazy) =>
            if manner.strict ∧ !manner.extended ∧ repeats then .error .operand
            else readAlternatives manner n s done before (some (f (.repeat r least most lazy)))
        | some r => readAlternatives manner n s done before (some (f r))
        | none => readAlternatives manner n s done before none
      match token with
      | .finish => if s.depth = 0 then .ok (whole, s) else .error .openGroup
      | .closeGroup =>
          if s.depth = 0 then
            if manner.extended ∧ !manner.strict then push s (.char ')') else .error .closeGroup
          else .ok (whole, s)
      | .bar => readAlternatives manner n s (some whole) .empty none
      | .star => apply (lead "*" s) true fun r => .repeat r 0 none
      | .plus => apply (lead "+" s) false fun r => .repeat r 1 none
      | .question => apply (lead "?" s) false fun r => .repeat r 0 (some 1)
      | .interval => do
          let ((least, most), rest) ← readInterval manner.extended s.rest
          apply (lead "\x7b...\x7d" { s with rest := rest }) true fun r => .repeat r least most
      | .anchorStart => push s (.assertion .lineStart)
      | .anchorEnd => push s (.assertion .lineEnd)
      | .openSet => do
          let (members, rest) ← readSet manner.checksClasses s.rest
          push { s with rest := rest } (.set members)
      | .atom (.reference k) =>
          if s.closed.contains k then push s (.reference k) else .error .reference
      | .atom r => push s r
      | .openGroup => do
          let number := s.groups + 1
          let (inner, after) ← readAlternatives manner n
            { s with depth := s.depth + 1, groups := number } none .empty none
          push { after with depth := s.depth, closed := number :: after.closed }
            (.group number inner)

/-- Reads a regular expression; gives with it the operators that had nothing before them. -/
def read (manner : Manner) (cs : List Char) : Except ReadError (Regex × List String) :=
  (readAlternatives manner (2 * cs.length + 4) { rest := cs } none .empty none).map
    fun (r, s) => (r, s.leading.reverse)

def ofText (manner : Manner) (cs : List Char) : Except ReadError Regex :=
  (read manner cs).map (·.1)

end CompilerDriver.Text.Regex
