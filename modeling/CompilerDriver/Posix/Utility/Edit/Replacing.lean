import CompilerDriver.Posix.Utility.Edit.Command
import CompilerDriver.Posix.Text.Regex.Basic

/-!
# Replaced matches

What a substitution makes of a text: its matches are replaced by texts in which groups of the match
may stand, with their letters in either case.
-/

namespace CompilerDriver.Utility.Edit

open Text (Regex)

section

variable (p : Regex.Program)

def cased (upper : Bool) (c : Char) : Char := if upper then p.upper c else p.lower c

/-- A text with its letters as they are to be written. -/
def LetterCase.write (letters : LetterCase) (cs : List Char) : List Char :=
  let all (c : Char) : Char := (letters.all.map fun upper => cased p upper c).getD c
  match letters.first, cs with
  | some upper, c :: rest => cased p upper c :: rest.map all
  | _, cs => cs.map all

/-- The text that replaces a match.  A mark for the first letter that has found none yet goes over to
what follows. -/
def replacementText (parts : List ReplacementPart) (text : Array Char) (slots : Regex.Slots) :
    List Char :=
  let (found, _) := parts.foldl
    (fun ((found, left) : List (List Char) × Option Bool) part =>
      let letters : LetterCase :=
        if part.letters.first.isSome then part.letters else { part.letters with first := left }
      let before := letters.write p part.text
      let letters := if part.text.isEmpty then letters else { letters with first := none }
      match part.group with
      | none => (before :: found, none)
      | some n =>
          let group := Regex.groupText text slots n
          if group.isEmpty then
            (before :: found, if part.letters.first.isSome then letters.first else none)
          else (letters.write p group :: before :: found, none)) ([], none)
  found.reverse.flatten

/-- Where a text is cut in the course of a substitution: what is done, last first, and whether
something has been replaced. -/
structure Replacing where
  done : List (List Char) := []
  changed : Bool := false

/-- Replaces the matches from a place on, of which so many have been passed.  An empty match right
behind another one is none. -/
def replaceFrom (s : Substitution) (text : Array Char) :
    Nat → Nat → Option Nat → Nat → Replacing → Replacing
  | 0, place, _, _, r => { r with done := (text.extract place text.size).toList :: r.done }
  | n + 1, place, before, count, r =>
      let finish (r : Replacing) (place : Nat) : Replacing :=
        { r with done := (text.extract place text.size).toList :: r.done }
      match p.find? text true place with
      | none => finish r place
      | some slots =>
          let first := Regex.startOf slots
          let last := Regex.endOf slots
          let r := { r with done := (text.extract place first).toList :: r.done }
          /- Goes on behind the match, and behind one more character if it is empty. -/
          let again (count : Nat) (r : Replacing) : Replacing :=
            if first < last then replaceFrom s text n last (some last) count r
            else if text.size ≤ last then r
            else
              replaceFrom s text n (last + 1) none count
                { r with done := (text.extract last (last + 1)).toList :: r.done }
          if first = last ∧ before = some first then again count r
          else if count < s.number.getD 1 then
            again (count + 1) { r with done := (text.extract first last).toList :: r.done }
          else
            let r := { done := replacementText p s.parts text slots :: r.done, changed := true }
            if s.everywhere then again (count + 1) r else finish r last

/-- A text with its matches replaced, if there are any that count. -/
def replaced? (s : Substitution) (text : Array Char) : Option (List Char) :=
  let r := replaceFrom p s text (text.size + 2) 0 none 1 {}
  if r.changed then some r.done.reverse.flatten else none

end

end CompilerDriver.Utility.Edit
