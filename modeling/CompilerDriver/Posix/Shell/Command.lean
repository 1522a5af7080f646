/-!
# Commands

The commands of the shell language as the parser hands them to the interpreter.  A word is a list
of pieces; the quote marks in it are pieces of their own, since an expansion behaves differently
between them.
-/

namespace CompilerDriver.Shell

/-- What an expansion of a parameter makes of its value. -/
inductive ParameterOp where
  | plain
  | length
  /-- Another word for a parameter that is unset or, if blank ones count, empty. -/
  | default (orEmpty : Bool)
  | alternative (orEmpty : Bool)
  | assign (orEmpty : Bool)
  | complain (orEmpty : Bool)
  | trimStart (longest : Bool)
  | trimEnd (longest : Bool)
  | malformed
  deriving DecidableEq, Repr, Inhabited

inductive FileMode where
  | read
  | write
  | clobber
  | append
  | readWrite
  deriving DecidableEq, Repr, Inhabited

mutual

inductive Piece where
  | char (c : Char) (escaped : Bool)
  | quoteMark
  | parameter (name : String) (op : ParameterOp) (word : List Piece)
  | substitution (body : Option Command)
  | arithmetic (expression : List Piece)

inductive Redirection where
  | file (descriptor : Nat) (mode : FileMode) (path : List Piece)
  | duplicate (descriptor : Nat) (source : List Piece)
  /-- A here-document, by its number. -/
  | document (descriptor : Nat) (number : Nat) (expanded : Bool)

inductive Command where
  | simple (line : Nat) (assignments words : List (List Piece)) (redirections : List Redirection)
  | redirected (line : Nat) (body : Command) (redirections : List Redirection)
  | subshell (line : Nat) (body : Command) (redirections : List Redirection)
  | background (line : Nat) (body : Command) (redirections : List Redirection)
  | pipeline (stages : List Command) (inBackground : Bool)
  | negation (body : Command)
  | conjunction (first second : Command)
  | disjunction (first second : Command)
  | sequence (first second : Command)
  | conditional (test yes : Command) (no : Option Command)
  | loop (untilTrue : Bool) (test body : Command)
  | forEach (line : Nat) (name : String) (words : List (List Piece)) (body : Command)
  | choice (line : Nat) (subject : List Piece)
      (branches : List (List (List Piece) × Option Command))
  | function (line : Nat) (name : String) (body : Command)

end

abbrev Word := List Piece

instance : Inhabited Piece := ⟨.quoteMark⟩

instance : Inhabited Command := ⟨.simple 0 [] [] []⟩

/-- The text of a word without any quoting or expansion. -/
def Word.plain? : Word → Option String
  | [] => some ""
  | .char c false :: rest => (Word.plain? rest).map fun s => String.singleton c ++ s
  | _ => none

def isNameStart (c : Char) : Bool := c.isAlpha || c == '_'

def isNameChar (c : Char) : Bool := c.isAlphanum || c == '_'

def isName (s : String) : Bool :=
  match s.toList with
  | [] => false
  | c :: cs => isNameStart c && cs.all isNameChar

/-- The name on the left of an assignment. -/
def assignmentName? (w : Word) : Option String :=
  let cs := w.map fun
    | .char c false => some c
    | _ => none
  let name := (cs.takeWhile fun c => c.any isNameChar).filterMap id
  if isName (String.ofList name) ∧ (cs.drop name.length).head? = some (some '=') then
    some (String.ofList name)
  else none

end CompilerDriver.Shell
