import CompilerDriver.CompilerOptions

/-!
# Writing a command line

The tokens that say what a record of arguments says: the switches of the tools as they will be
passed on, then every other value attached to its letter, then the toggles, and the input behind
`--`, where it is an operand whatever its first character.
-/

namespace CompilerDriver.CommandLine

/-- A flag with its value attached. -/
def attached (flag : ValueFlag) (value : String) : String :=
  String.ofList ['-', flag.letter] ++ value

def toggleToken (t : Toggle) : String :=
  String.ofList ['-', t.letter]

def Arguments.render (args : Arguments) : List String :=
  (CompilerOptions.assemble args).preprocessor.getD [] ++
    (CompilerOptions.assemble args).codegen.getD [] ++
    args.libraryDirs.map (attached .libraryDir) ++ args.passes.map (attached .pass) ++
    (args.outputPath.map (attached .output)).toList ++
    (if args.translateOnly then [toggleToken .translateOnly] else []) ++
    (if args.rawTranslateOnly then [toggleToken .rawTranslateOnly] else []) ++
    (if args.verbose then [toggleToken .verbose] else []) ++ ["--", args.inputPath]

end CompilerDriver.CommandLine
