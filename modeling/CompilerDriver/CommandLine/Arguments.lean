import CompilerDriver.CommandLine.Scan

/-!
# Parsed command lines

The items of a scan are collected into one record; exactly one operand, the input, has to be
there.  Options settle before operands are counted, so a missing or an extra operand is reported
only when nothing else is wrong.
-/

namespace CompilerDriver.CommandLine

structure Arguments where
  /-- The tokens after the expansion of response files. -/
  tokens : List String
  inputPath : String
  outputPath : Option String
  translateOnly : Bool
  rawTranslateOnly : Bool
  verbose : Bool
  debug : Bool
  passes : List String
  compilerSwitches : List String
  machineSwitches : List String
  includeDirs : List String
  libraryDirs : List String
  defines : List String
  optLevels : List String
  deriving DecidableEq, Repr

/-- What a command line asks for. -/
inductive Command where
  | help
  | version
  | compile (args : Arguments)
  deriving DecidableEq, Repr

def defaultOptLevels : List String := ["2"]

namespace Arguments

/-- The record of an input and the items around it. -/
def collect (tokens : List String) (inputPath : String) (items : List Item) : Arguments where
  tokens := tokens
  inputPath := inputPath
  outputPath := (valuesOf .output items).getLast?
  translateOnly := isOn .translateOnly items || isOn .rawTranslateOnly items
  rawTranslateOnly := isOn .rawTranslateOnly items
  verbose := isOn .verbose items
  debug := isOn .debug items
  passes := valuesOf .pass items
  compilerSwitches := valuesOf .compilerSwitch items
  machineSwitches := valuesOf .machineSwitch items
  includeDirs := valuesOf .includeDir items
  libraryDirs := valuesOf .libraryDir items
  defines := valuesOf .define items
  optLevels :=
    match valuesOf .optLevel items with
    | [] => defaultOptLevels
    | levels => levels

def ofItems (tokens : List String) (items : List Item) : Except UsageError Arguments :=
  match operands items with
  | [] => .error .missingInput
  | [input] => .ok (collect tokens input items)
  | _ :: extra => .error (.extraOperands extra)

end Arguments

/-! ## Parsing -/

/-- Reads tokens that hold no references any more. -/
def parseTokens (tokens : List String) : Except UsageError Command :=
  match scan tokens with
  | .error .help => .ok .help
  | .error .version => .ok .version
  | .error (.refused e) => .error e
  | .ok items => (Arguments.ofItems tokens items).map .compile

/-- Expands response files, then reads the tokens. -/
def parse (workDir : Location) (r : Reader) (args : List String) : Except UsageError Command :=
  match ResponseFile.expand workDir r args with
  | .error e => .error (.expansion e)
  | .ok tokens => parseTokens tokens

end CompilerDriver.CommandLine
