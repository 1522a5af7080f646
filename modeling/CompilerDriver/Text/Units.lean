import CompilerDriver.Text.Utf8

/-!
# Units of sixteen bits

A text measured and cut in units of sixteen bits, of which a character above U+FFFF takes two.
-/

namespace CompilerDriver.Text

def unitsOf (c : Char) : Nat :=
  if c.toNat < 0x10000 then 1 else 2

def units (s : String) : Nat :=
  s.toList.foldl (fun n c => n + unitsOf c) 0

/-- The first units of a text; half a character is shown as U+FFFD. -/
def takeUnits : Nat → List Char → List Char
  | 0, _ => []
  | _ + 1, [] => []
  | n + 1, c :: cs =>
      if unitsOf c = 1 then c :: takeUnits n cs
      else
        match n with
        | 0 => [replacement]
        | n + 1 => c :: takeUnits n cs

@[simp] theorem takeUnits_zero (cs : List Char) : takeUnits 0 cs = [] := by
  cases cs <;> rfl

theorem takeUnits_one_of_small {c : Char} (h : c.toNat < 0x10000) (cs : List Char) :
    takeUnits 1 (c :: cs) = [c] := by
  simp [takeUnits, unitsOf, h]

end CompilerDriver.Text
