/-!
# Usage, help and version texts
-/

namespace CompilerDriver

def version : String := "0.4.0"

def usage : String := "usage: pyxc [options] <input_file>"

def versionText : String := "pyxc v" ++ version

def helpLines : List String := [
  "",
  "pyxc - ahead-of-time compiler for Python modules v" ++ version,
  "",
  usage,
  "",
  "ARGUMENTS:",
  "  input_file        Module to compile, either a .py or a .cpp file",
  "",
  "OPTIONS:",
  "  -h, --help        Show help",
  "  --version         Show version",
  "  -o <file>         Path of the generated file",
  "  -E                Only run the translator, do not compile",
  "  -e                Like -E, without the Python binding glue",
  "  -v                Verbose output",
  "  -p <pass>         Optimization pass to run before code generation",
  "  -I <dir>          Include directory for the C++ compiler",
  "  -D <macro>        Preprocessor definition",
  "  -O <level>        C++ optimization level (default: 2)",
  "  -m <flag>         Machine-dependent C++ compiler switch",
  "  -f <flag>         Any other C++ compiler switch",
  "  -L <dir>          Library directory for the linker",
  "  -g                Build with debug information",
  "",
  "Options can also be read from a response file: pyxc @flags.txt mod.py",
  "",
  "EXAMPLES:",
  "  pyxc mod.py",
  "  pyxc -E mod.py -o build/mod.cpp",
  "  pyxc -O3 -march=native -DUSE_BLAS -I/opt/blas/include mod.py",
  "  pyxc mod.cpp -o mod.so"]

/-- The help: a line for each entry, each with its line end. -/
def helpText : String :=
  String.join (helpLines.map (· ++ "\n"))

end CompilerDriver
