import CompilerDriver.Posix.Utility.Basic

/-!
# Choices

An argument that has to be one of some words.  A word may be cut short as long as what is left
stands for only one thing.
-/

namespace CompilerDriver.Utility

open Kernel

/-- The words that are left of some choices, those that stand for the same side by side. -/
def choiceLines {α : Type} [BEq α] (choices : List (String × α)) : String :=
  let (text, _) := choices.foldl (fun ((text, last) : String × Option α) (word, a) =>
    let quoted := quoteText word
    (text ++ (if last == some a then ", " else "\n  - ") ++ quoted, some a)) ("", none)
  "Valid arguments are:" ++ text ++ "\n"

/-- What a word stands for, or the end of the utility with a message, in which `usage` stands before
the hint. -/
def choiceOf {α : Type} [BEq α] (call : Call) (status : Nat) (option : String)
    (choices : List (String × α)) (word : String) (usage : String := "") : Act α := do
  let refuse (kind : String) : Act α := do
    complain call (kind ++ " argument " ++ quoteText word ++ " for " ++ quoteText option)
    explain (choiceLines choices ++ usage ++ hint call ++ "\n")
    stop status
  match choices.lookup word, choices.filter fun c => c.1.startsWith word with
  | some a, _ => return a
  | none, [] => refuse "invalid"
  | none, (_, a) :: others => if others.all fun c => c.2 == a then return a else refuse "ambiguous"

end CompilerDriver.Utility
