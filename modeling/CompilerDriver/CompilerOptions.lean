import CompilerDriver.CommandLine.Arguments
import CompilerDriver.Text.Json

/-!
# Options for the tools

The switches of a command line are sorted into four categories, by the stage that uses them.  A
category with nothing in it is absent, not empty: a backend fills in its own defaults for absent
categories.
-/

namespace CompilerDriver

/-- The switches of a command line by the stage that uses them. -/
structure CompilerOptions where
  /-- Switches for the preprocessor. -/
  preprocessor : Option (List String) := none
  /-- Switches for code generation. -/
  codegen : Option (List String) := none
  /-- Switches for the linker. -/
  linker : Option (List String) := none
  /-- Names of translator passes. -/
  passes : Option (List String) := none
  deriving DecidableEq, Repr

namespace CompilerOptions

/-- A category with some values; without any it is absent. -/
def present (values : List String) : Option (List String) :=
  if values.isEmpty then none else some values

/-- Every value behind the same two characters. -/
def switches (lead : String) (values : List String) : List String :=
  values.map (lead ++ ·)

open CommandLine (Arguments)

def preprocessorSwitches (args : Arguments) : List String :=
  switches "-I" args.includeDirs ++ switches "-D" args.defines

def codegenSwitches (args : Arguments) : List String :=
  switches "-O" args.optLevels ++ switches "-m" args.machineSwitches ++
    switches "-f" args.compilerSwitches ++ if args.debug then ["-g"] else []

/-- Library directories reach the linker behind `-f`. -/
def linkerSwitches (args : Arguments) : List String :=
  switches "-f" args.libraryDirs

/-- Sorts the switches of a command line; within a category they keep their order. -/
def assemble (args : Arguments) : CompilerOptions where
  preprocessor := present (preprocessorSwitches args)
  codegen := present (codegenSwitches args)
  linker := present (linkerSwitches args)
  passes := present args.passes

/-- The options as JSON, without the categories that are absent. -/
def json (options : CompilerOptions) : String :=
  let fields := [("cppflags", options.preprocessor), ("cxxflags", options.codegen),
    ("ldflags", options.linker), ("opts", options.passes)]
  Text.jsonRecord (fields.filterMap fun field =>
    field.2.map fun values => (field.1, Text.jsonStrings values))

@[simp] theorem getD_present (values : List String) : (present values).getD [] = values := by
  cases values <;> rfl

theorem present_ne_some_nil (values : List String) : present values ≠ some [] := by
  cases values <;> simp [present]

end CompilerOptions

end CompilerDriver
