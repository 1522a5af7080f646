import CompilerDriver.Posix.Shell.Variables

/-!
# Options of the shell's utilities

Options are letters behind a dash, each with an argument if the table says so.
-/

namespace CompilerDriver.Shell

open Kernel

/-- A utility of the shell: it gets its arguments and gives its status. -/
abbrev Builtin := List String → Act Nat

namespace Builtin

/-- Option letters with their arguments, and the arguments behind the options. -/
structure Parsed where
  options : List (Char × String) := []
  operands : List String := []
  deriving Inhabited

def Parsed.has (p : Parsed) (letter : Char) : Bool := p.options.any fun o => o.1 == letter

/-- Reads the letters of one argument; the last one may take the next argument. -/
def parseLetters (flags valued : String) :
    List Char → List String → Act (List (Char × String) × List String)
  | [], rest => return ([], rest)
  | c :: more, rest => do
      if valued.toList.contains c then
        match more, rest with
        | [], [] => fail ("No arg for -" ++ String.singleton c ++ " option")
        | [], value :: rest => return ([(c, value)], rest)
        | more, rest => return ([(c, String.ofList more)], rest)
      else if flags.toList.contains c then
        let (found, rest) ← parseLetters flags valued more rest
        return ((c, "") :: found, rest)
      else fail ("Illegal option -" ++ String.singleton c)

def parseUpTo (flags valued : String) : Nat → List String → Act Parsed
  | 0, arguments => return ⟨[], arguments⟩
  | _ + 1, [] => return ⟨[], []⟩
  | n + 1, argument :: rest =>
      match argument.toList with
      | ['-', '-'] => return ⟨[], rest⟩
      | '-' :: c :: letters => do
          let (found, rest) ← parseLetters flags valued (c :: letters) rest
          let parsed ← parseUpTo flags valued n rest
          return { parsed with options := found ++ parsed.options }
      | _ => return ⟨[], argument :: rest⟩

/-- Reads the options at the start of a list of arguments.  Those of the second list take an
argument. -/
def parse (flags valued : String) (arguments : List String) : Act Parsed :=
  parseUpTo flags valued arguments.length arguments

end Builtin

end CompilerDriver.Shell
