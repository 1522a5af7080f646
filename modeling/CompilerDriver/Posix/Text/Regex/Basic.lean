import CompilerDriver.Posix.Text.WideClasses

/-!
# Regular expressions

A regular expression and the program that matches it.  A program runs on a text from a place on; its
branches are tried in order, and no state is visited twice, so that the first branch that leads to
the longest match is found in bounded time.
-/

namespace CompilerDriver.Text

inductive Assertion where
  | lineStart
  | lineEnd
  | textStart
  | textEnd
  | wordStart
  | wordEnd
  | wordEdge
  | notWordEdge
  | notAfterWord
  | notBeforeWord
  deriving DecidableEq, Repr

/-- A set of characters: single ones, ranges of them, and classes by their predicates. -/
structure CharSet where
  ranges : List (Char × Char) := []
  classes : List String := []
  negated : Bool := false
  deriving DecidableEq, Repr, Inhabited

inductive Regex where
  | empty
  | char (c : Char)
  | any
  | set (s : CharSet)
  | seq (a b : Regex)
  | alt (a b : Regex)
  /-- As often as possible within the bounds or, if lazy, as seldom. -/
  | repeat (r : Regex) (least : Nat) (most : Option Nat) (lazy : Bool := false)
  | group (number : Nat) (r : Regex)
  | reference (number : Nat)
  | assertion (a : Assertion)
  /-- Whether an expression matches what lies ahead or behind. -/
  | look (behind negated : Bool) (r : Regex)
  /-- The first match of an expression and no other one. -/
  | atomic (r : Regex)
  /-- The match counts from here on. -/
  | restart
  deriving DecidableEq, Repr, Inhabited

namespace Regex

/-! ## Characters -/

/-- How the characters of a text are taken. -/
structure Options where
  ignoreCase : Bool := false
  /-- A newline starts and ends a line. -/
  multiline : Bool := false
  /-- Characters above U+007F may be letters. -/
  wide : Bool := false
  /-- The first match is taken, and not the longest one. -/
  takesFirst : Bool := false
  deriving DecidableEq, Repr, Inhabited

/-- Letters, digits and underscores make up words. -/
def isWordChar (wide : Bool) (c : Char) : Bool := isInClass wide "alnum" c || c == '_'

def inRegexClass (wide : Bool) (name : String) (c : Char) : Bool :=
  if name = "word" then isWordChar wide c else isInClass wide name c

/-- A stray octet is in no set that does not name it. -/
def inSet (wide : Bool) (s : CharSet) (c : Char) : Bool :=
  let listed :=
    s.ranges.any (fun r => r.1 ≤ c && c ≤ r.2) || s.classes.any (inRegexClass wide · c)
  if s.negated then !listed && !isStray c else listed

/-! ## Programs -/

inductive Instruction where
  | char (c : Char)
  | any
  | set (s : CharSet)
  /-- Goes on at the first place or, failing that, at the second one. -/
  | split (first second : Nat)
  | jump (place : Nat)
  | save (slot : Nat)
  | reference (number : Nat)
  | assertion (a : Assertion)
  /-- Goes on at a place if the steps that follow match what lies ahead or behind. -/
  | look (behind negated : Bool) (next : Nat)
  /-- Goes on at a place behind the first match of the steps that follow. -/
  | atomic (next : Nat)
  | accept
  deriving DecidableEq, Repr, Inhabited

/-- A choice between going on inside a repetition and leaving it. -/
def choice (lazy : Bool) (inside outside : Nat) : Instruction :=
  if lazy then .split outside inside else .split inside outside

/-- The steps of a repetition that may be left at any time, each copy in turn. -/
def optionalCopies (lazy : Bool) (start : Nat) (body : Nat → List Instruction) :
    Nat → List Instruction
  | 0 => []
  | n + 1 =>
      let here := start + 1
      let inner := body here
      let rest := optionalCopies lazy (here + inner.length) body n
      choice lazy here (here + inner.length + rest.length) :: inner ++ rest

def copies (start : Nat) (body : Nat → List Instruction) : Nat → List Instruction
  | 0 => []
  | n + 1 =>
      let inner := body start
      inner ++ copies (start + inner.length) body n

/-- The steps of an expression, which stand from a place on. -/
def steps : Regex → Nat → List Instruction
  | .empty, _ => []
  | .char c, _ => [.char c]
  | .any, _ => [.any]
  | .set s, _ => [.set s]
  | .assertion a, _ => [.assertion a]
  | .reference n, _ => [.reference n]
  | .seq a b, start =>
      let first := steps a start
      first ++ steps b (start + first.length)
  | .alt a b, start =>
      let first := steps a (start + 1)
      let second := steps b (start + first.length + 2)
      .split (start + 1) (start + first.length + 2) :: first ++
        .jump (start + first.length + second.length + 2) :: second
  | .group n r, start => .save (2 * n) :: steps r (start + 1) ++ [.save (2 * n + 1)]
  | .repeat r least most lazy, start =>
      let needed := copies start (steps r) least
      let here := start + needed.length
      match most with
      | some most => needed ++ optionalCopies lazy here (steps r) (most - least)
      | none =>
          let inner := steps r (here + 1)
          needed ++ choice lazy (here + 1) (here + inner.length + 2) :: inner ++ [.jump here]
  | .look behind negated r, start =>
      let inner := steps r (start + 1)
      .look behind negated (start + inner.length + 2) :: inner ++ [.accept]
  | .atomic r, start =>
      let inner := steps r (start + 1)
      .atomic (start + inner.length + 2) :: inner ++ [.accept]
  | .restart, _ => [.save 0]

def hasReference : Regex → Bool
  | .reference _ => true
  | .seq a b | .alt a b => hasReference a || hasReference b
  | .repeat r _ _ _ | .group _ r | .look _ _ r | .atomic r => hasReference r
  | _ => false

/-- The highest number of a group. -/
def groupCount : Regex → Nat
  | .seq a b | .alt a b => max (groupCount a) (groupCount b)
  | .repeat r _ _ _ | .look _ _ r | .atomic r => groupCount r
  | .group n r => max n (groupCount r)
  | _ => 0

structure Program where
  steps : Array Instruction
  groups : Nat
  hasReference : Bool
  options : Options
  deriving Inhabited

def compile (r : Regex) (options : Options) : Program where
  steps := (steps r 0 ++ [Instruction.accept]).toArray
  groups := groupCount r
  hasReference := hasReference r
  options := options

/-! ## Matching -/

/-- Where the groups of a match start and end; the match itself is the group 0. -/
abbrev Slots := Array (Option Nat)

namespace Program

/-- A letter in lower case, as far as the program tells letters apart. -/
def lower (p : Program) (c : Char) : Char :=
  if p.options.wide then lowerOf c else c.toLower

def upper (p : Program) (c : Char) : Char :=
  if p.options.wide then upperOf c else c.toUpper

def sameChar (p : Program) (a b : Char) : Bool :=
  a == b || (p.options.ignoreCase && p.lower a == p.lower b)

def setHas (p : Program) (s : CharSet) (c : Char) : Bool :=
  let has := inSet p.options.wide s
  if p.options.ignoreCase then
    if s.negated then has (p.lower c) && has (p.upper c) else has (p.lower c) || has (p.upper c)
  else has c

def holds (p : Program) (text : Array Char) (place : Nat) (isStart : Bool) (a : Assertion) : Bool :=
  let before := if place = 0 then none else text[place - 1]?
  let after := text[place]?
  let wordBefore := before.any (isWordChar p.options.wide)
  let wordAfter := after.any (isWordChar p.options.wide)
  match a with
  | .textStart => place == 0
  | .textEnd => place == text.size
  | .lineStart => (place == 0 && isStart) || (p.options.multiline && before == some '\n')
  | .lineEnd => place == text.size || (p.options.multiline && after == some '\n')
  | .wordStart => !wordBefore && wordAfter
  | .wordEnd => wordBefore && !wordAfter
  | .wordEdge => wordBefore != wordAfter
  | .notWordEdge => wordBefore == wordAfter
  | .notAfterWord => !wordBefore
  | .notBeforeWord => !wordAfter

/-- A branch that is still to be tried. -/
structure Branch where
  step : Nat
  place : Nat
  slots : Slots

/-- The end of what a group has matched, if the same text stands at a place. -/
def afterReference (p : Program) (text : Array Char) (slots : Slots) (n place : Nat) :
    Option Nat := do
  let first ← (slots[2 * n]?).join
  let last ← (slots[2 * n + 1]?).join
  let size := last - first
  if (List.range size).all fun i =>
      match text[first + i]?, text[place + i]? with
      | some a, some b => p.sameChar a b
      | _, _ => false
    then return place + size else none

/-- What a step that needs no search makes of a branch: the branches to try next, in order. -/
def advance (p : Program) (text : Array Char) (isStart : Bool) (b : Branch) (s : Instruction) :
    List Branch :=
  let onChar (accepts : Char → Bool) : List Branch :=
    match text[b.place]? with
    | some c => if accepts c then [⟨b.step + 1, b.place + 1, b.slots⟩] else []
    | none => []
  match s with
  | .char c => onChar (p.sameChar c)
  | .any => onChar fun c => !isStray c
  | .set members => onChar (p.setHas members)
  | .split first second => [{ b with step := first }, { b with step := second }]
  | .jump place => [{ b with step := place }]
  | .save slot =>
      [{ b with step := b.step + 1, slots := b.slots.setIfInBounds slot (some b.place) }]
  | .reference n =>
      match p.afterReference text b.slots n b.place with
      | some place => [{ b with step := b.step + 1, place := place }]
      | none => []
  | .assertion a => if p.holds text b.place isStart a then [{ b with step := b.step + 1 }] else []
  | _ => []

/-- The states that have been visited, by their distance from the first place. -/
abbrev Visited := Array Bool

def Visited.mark (v : Visited) (index : Nat) : Visited :=
  if index < v.size then v.setIfInBounds index true
  else (v ++ Array.replicate (index - v.size) false).push true

/-- What a search looks for. -/
structure Aim where
  /-- The first place that counts for the states. -/
  base : Nat
  /-- The only place at which a match may end. -/
  finish : Option Nat := none
  takesFirst : Bool

/-- Tries branches and keeps the first match or the longest one.  States that have been visited
are not tried again. -/
def search (p : Program) (text : Array Char) (isStart : Bool) :
    Nat → Aim → List Branch → Visited → Option (Nat × Slots) → Option (Nat × Slots) × Visited
  | 0, _, _, visited, best => (best, visited)
  | _ + 1, _, [], visited, best => (best, visited)
  | n + 1, aim, b :: rest, visited, best =>
      let index := (b.place - aim.base) * p.steps.size + b.step
      if !p.hasReference && visited.getD index false then
        search p text isStart n aim rest visited best
      else
        let visited := if p.hasReference then visited else visited.mark index
        match p.steps[b.step]? with
        | none => search p text isStart n aim rest visited best
        | some .accept =>
            if aim.finish.any (· != b.place) then search p text isStart n aim rest visited best
            else
              let isLonger := match best with
                | some (place, _) => decide (b.place > place)
                | none => true
              let best := if isLonger then some (b.place, b.slots) else best
              if aim.takesFirst ∨ b.place = text.size ∨ aim.finish.isSome then (best, visited)
              else search p text isStart n aim rest visited best
        | some (.look behind negated next) =>
            let inner (start : Nat) : Bool :=
              let aim : Aim :=
                { base := start, finish := if behind then some b.place else none, takesFirst := true }
              (search p text isStart n aim [⟨b.step + 1, start, b.slots⟩] #[] none).1.isSome
            let found := if behind then (List.range (b.place + 1)).any fun k => inner (b.place - k)
              else inner b.place
            let rest := if found != negated then { b with step := next } :: rest else rest
            search p text isStart n aim rest visited best
        | some (.atomic next) =>
            let inner : Aim := { base := b.place, takesFirst := true }
            match (search p text isStart n inner [{ b with step := b.step + 1 }] #[] none).1 with
            | some (place, slots) =>
                search p text isStart n aim (⟨next, place, slots⟩ :: rest) visited best
            | none => search p text isStart n aim rest visited best
        | some s => search p text isStart n aim (p.advance text isStart b s ++ rest) visited best

/-- The match that starts at a place.  What has been visited in vain counts from `base`. -/
def matchFrom (p : Program) (text : Array Char) (isStart : Bool) (base place : Nat)
    (visited : Visited) : Option Slots × Visited :=
  let states := p.steps.size * (text.size + 1)
  let slots : Slots := (Array.replicate (2 * (p.groups + 1)) none).setIfInBounds 0 (some place)
  let fuel := if p.hasReference then 100000 + 8 * states else 3 * states + 8
  let aim : Aim := { base := base, takesFirst := p.options.takesFirst }
  let (found, visited) := search p text isStart fuel aim [⟨0, place, slots⟩] visited none
  (found.map fun (last, slots) => slots.setIfInBounds 1 (some last), visited)

def matchAt (p : Program) (text : Array Char) (isStart : Bool) (place : Nat) : Option Slots :=
  (p.matchFrom text isStart place place #[]).1

/-- The first step can only take a given character. -/
def firstChar? (p : Program) : Option Char :=
  match p.steps[0]? with
  | some (Instruction.char c) => if p.options.ignoreCase then none else some c
  | _ => none

def findFrom (p : Program) (text : Array Char) (isStart : Bool) (base : Nat) :
    Nat → Nat → Visited → Option Slots
  | 0, _, _ => none
  | n + 1, place, visited =>
      let possible := match p.firstChar? with
        | some c => text[place]? == some c
        | none => true
      if possible then
        match p.matchFrom text isStart base place visited with
        | (some slots, _) => some slots
        | (none, visited) => findFrom p text isStart base n (place + 1) visited
      else findFrom p text isStart base n (place + 1) visited

/-- The first match at a place or behind it.  `isStart` tells whether the text starts a line. -/
def find? (p : Program) (text : Array Char) (isStart : Bool) (place : Nat) : Option Slots :=
  p.findFrom text isStart place (text.size + 1 - place) place #[]

end Program

/-- The text of a group of a match. -/
def groupText (text : Array Char) (slots : Slots) (n : Nat) : List Char :=
  match (slots[2 * n]?).join, (slots[2 * n + 1]?).join with
  | some first, some last => (text.extract first last).toList
  | _, _ => []

def startOf (slots : Slots) : Nat := ((slots[0]?).join).getD 0

def endOf (slots : Slots) : Nat := ((slots[1]?).join).getD 0

end Regex

end CompilerDriver.Text
