import CompilerDriver.CommandLine.Item
import CompilerDriver.ResponseFile.Expansion
import CompilerDriver.Text.Units

/-!
# From tokens to items

A token that starts with a dash and has more to it is an option.  Letters after a single dash may
be clustered; a flag with a value takes the rest of its cluster or else the next token, which may
not look like an option.  The first token that asks for help or the version, or that is no option,
ends the scan.
-/

namespace CompilerDriver.CommandLine

open ResponseFile (ExpansionError)

/-- Why a command line is refused. -/
inductive UsageError where
  | expansion (cause : ExpansionError)
  | unrecognizedOption (option : String)
  | missingValue (flag : ValueFlag)
  | missingInput
  | extraOperands (operands : List String)
  deriving DecidableEq, Repr

def UsageError.message : UsageError → String
  | .expansion cause => cause.message
  | .unrecognizedOption option => "unrecognized option '" ++ option ++ "'"
  | .missingValue flag => "option -" ++ flag.letter.toString ++ " expects a value"
  | .missingInput => "the following arguments are required: input_file"
  | .extraOperands operands => "unrecognized arguments: " ++ " ".intercalate operands

/-! ## The form of one token -/

inductive TokenForm where
  | operand
  | endOfOptions
  | long (name : List Char)
  | cluster (letters : List Char)
  deriving DecidableEq, Repr

def TokenForm.of (token : String) : TokenForm :=
  match token.toList with
  | ['-', '-'] => .endOfOptions
  | '-' :: '-' :: name => .long name
  | '-' :: letter :: letters => .cluster (letter :: letters)
  | _ => .operand

/-- A dash alone does not look like an option. -/
def isOptionLike (token : String) : Bool :=
  TokenForm.of token != .operand

/-- What the letters of a cluster say. -/
inductive Cluster where
  | toggles (ts : List Toggle)
  | valued (ts : List Toggle) (flag : ValueFlag) (attached : List Char)
  | help
  | unknown (letter : Char)
  deriving DecidableEq, Repr

def Cluster.cons (t : Toggle) : Cluster → Cluster
  | .toggles ts => .toggles (t :: ts)
  | .valued ts flag attached => .valued (t :: ts) flag attached
  | .help => .help
  | .unknown letter => .unknown letter

def Cluster.read : List Char → Cluster
  | [] => .toggles []
  | letter :: letters =>
      if letter = 'h' then .help
      else
        match Toggle.ofLetter? letter with
        | some t => (Cluster.read letters).cons t
        | none =>
            match ValueFlag.ofLetter? letter with
            | some flag => .valued [] flag letters
            | none => .unknown letter

/-- An unknown letter as an option.  Letters are read in units of sixteen bits, so only the first
half of a letter above U+FFFF is met. -/
def letterOption (letter : Char) : String :=
  String.ofList ('-' :: Text.takeUnits 1 [letter])

/-! ## The scan -/

/-- What ends a scan early. -/
inductive Stop where
  | help
  | version
  | refused (e : UsageError)
  deriving DecidableEq, Repr

def toggleItems (ts : List Toggle) : List Item :=
  ts.map .toggle

def scan : List String → Except Stop (List Item)
  | [] => .ok []
  | token :: rest =>
      match TokenForm.of token with
      | .operand => (scan rest).map (.operand token :: ·)
      | .endOfOptions => .ok (rest.map .operand)
      | .long name =>
          if name = "help".toList then .error .help
          else if name = "version".toList then .error .version
          else .error (.refused (.unrecognizedOption token))
      | .cluster letters =>
          match Cluster.read letters with
          | .help => .error .help
          | .unknown letter => .error (.refused (.unrecognizedOption (letterOption letter)))
          | .toggles ts => (scan rest).map (toggleItems ts ++ ·)
          | .valued ts flag (c :: attached) =>
              (scan rest).map
                ((toggleItems ts ++ [.value flag (String.ofList (c :: attached))]) ++ ·)
          | .valued ts flag [] =>
              match rest with
              | [] => .error (.refused (.missingValue flag))
              | value :: rest =>
                  if isOptionLike value then .error (.refused (.missingValue flag))
                  else (scan rest).map ((toggleItems ts ++ [.value flag value]) ++ ·)

end CompilerDriver.CommandLine
