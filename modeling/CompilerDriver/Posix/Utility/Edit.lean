import CompilerDriver.Posix.Utility.Children
import CompilerDriver.Posix.Utility.Edit.Running
import CompilerDriver.Posix.Utility.Edit.Script

/-!
# The stream editor

`sed` runs a script on each line of its input.
-/

namespace CompilerDriver.Utility

open Kernel

namespace Edit

def usage : String :=
  "Usage: sed [OPTION]... \x7bscript-only-if-no-other-script\x7d [input-file]...\n" ++
  "\n" ++
  "  -n, --quiet, --silent\n" ++
  "                 suppress automatic printing of pattern space\n" ++
  "      --debug\n" ++
  "                 annotate program execution\n" ++
  "  -e script, --expression=script\n" ++
  "                 add the script to the commands to be executed\n" ++
  "  -f script-file, --file=script-file\n" ++
  "                 add the contents of script-file to the commands to be executed\n" ++
  "  --follow-symlinks\n" ++
  "                 follow symlinks when processing in place\n" ++
  "  -i[SUFFIX], --in-place[=SUFFIX]\n" ++
  "                 edit files in place (makes backup if SUFFIX supplied)\n" ++
  "  -l N, --line-length=N\n" ++
  "                 specify the desired line-wrap length for the \x60l' command\n" ++
  "  --posix\n" ++
  "                 disable all GNU extensions.\n" ++
  "  -E, -r, --regexp-extended\n" ++
  "                 use extended regular expressions in the script\n" ++
  "                 (for portability use POSIX -E).\n" ++
  "  -s, --separate\n" ++
  "                 consider files as separate rather than as a single,\n" ++
  "                 continuous long stream.\n" ++
  "      --sandbox\n" ++
  "                 operate in sandbox mode (disable e/r/w commands).\n" ++
  "  -u, --unbuffered\n" ++
  "                 load minimal amounts of data from the input files and flush\n" ++
  "                 the output buffers more often\n" ++
  "  -z, --null-data\n" ++
  "                 separate lines by NUL characters\n" ++
  "      --help     display this help and exit\n" ++
  "      --version  output version information and exit\n" ++
  "\n" ++
  "If no -e, --expression, -f, or --file option is given, then the first\n" ++
  "non-option argument is taken as the sed script to interpret.  All\n" ++
  "remaining arguments are names of input files; if no input files are\n" ++
  "specified, then the standard input is read.\n" ++
  "\n" ++
  "GNU sed home page: <https://www.gnu.org/software/sed/>.\n" ++
  "General help using GNU software: <https://www.gnu.org/gethelp/>.\n"

def table : OptionTable := {
  flags := "bnErsuz", valued := "efl", attached := "i"
  named := [("binary", 'b'), ("quiet", 'n'), ("silent", 'n'), ("regexp-extended", 'E'),
    ("expression", 'e'), ("file", 'f'), ("separate", 's'), ("unbuffered", 'u'), ("null-data", 'z'),
    ("zero-terminated", 'z'), ("in-place", 'i'), ("line-length", 'l'), ("posix", '='),
    ("debug", '?'), ("sandbox", '!'), ("follow-symlinks", '@'), ("help", 'h')]
  optional := "i", usage, hints := false }

/-- Opens the files that a script writes to. -/
def openOutlets (call : Call) (paths : List String) : Act (List (String × Nat)) :=
  paths.eraseDups.filterMapM fun path => do
    if path = "/dev/stdout" ∨ path = "/dev/stderr" then return none
    match ← Act.openPath path { writable := true, creating := true, truncating := true } with
    | .ok descriptor => return some (path, descriptor)
    | .error e => giveUp call 4 ("couldn't open file " ++ path ++ ": " ++ e.notice)

/-- Puts a text that ends in a backslash together with the next one. -/
def joinParts : List String → List String
  | a :: b :: rest =>
      if (a.toList.reverse.takeWhile (· == '\\')).length % 2 = 1 then
        match joinParts (b :: rest) with
        | c :: more => (a ++ "\n" ++ c) :: more
        | [] => [a]
      else a :: joinParts (b :: rest)
  | parts => parts

/-- The parts of the script, and the files to be edited. -/
def scriptParts (call : Call) (parsed : Parsed) : Act (List (Origin × String) × List String) := do
  let given := parsed.options.filter fun o => o.1 == 'e' || o.1 == 'f'
  if given.isEmpty then
    match parsed.operands with
    | [] =>
        explain usage
        stop 1
    | script :: files => return ([(.argument 1, script)], files)
  if given.all fun o => o.1 == 'e' then
    let parts := (joinParts (given.map (·.2))).zipIdx.map fun (text, i) =>
      (Origin.argument (i + 1), text)
    return (parts, parsed.operands)
  let parts ← given.zipIdx.mapM fun ((letter, value), i) => do
    if letter = 'e' then return (Origin.argument (i + 1), value)
    match ← readInput value with
    | .ok text => return (Origin.file value, text)
    | .error .isDirectory => return (Origin.file value, "")
    | .error e => giveUp call 4 ("couldn't open file " ++ value ++ ": " ++ e.notice)
  return (parts, parsed.operands)

end Edit

open Edit in
def sed (programs : Programs) : Utility := fun call => do
  let parsed ← table.parse call
  if parsed.has 'h' then
    Act.print (Edit.usage ++ "E-mail bug reports to: <bug-sed@gnu.org>.\n")
    return 0
  let (parts, files) ← scriptParts call parsed
  let unicode ← readsUnicode
  let extended := parsed.has 'E' || parsed.has 'r'
  let delimiter := if parsed.has 'z' then '\x00' else '\n'
  match readScript extended unicode (parsed.has '!') delimiter parts with
  | .error (.misplaced message) => giveUp call 1 message
  | .error (.plain message) => giveUp call 4 message
  | .ok (commands, quiet) =>
      if let some name := missingLabel? commands then
        giveUp call 4 ("can't find label for jump to `" ++ name ++ "'")
      let inPlace := parsed.value? 'i'
      if inPlace.isSome ∧ files.isEmpty then giveUp call 4 "no input files"
      let settings : Settings := {
        call, commands, unicode, inPlace
        quiet := quiet || parsed.has 'n'
        separate := parsed.has 's' || inPlace.isSome
        followsLinks := parsed.has '@', zeroEnds := parsed.has 'z', unbuffered := parsed.has 'u'
        width := ((parsed.value? 'l').map fun text =>
          digitsValue (text.toList.takeWhile Char.isDigit)).getD 70
        explains := parsed.has '?', run := captureCommand programs }
      let outlets ← openOutlets call (filesWritten commands)
      if settings.explains then Act.print (programShown unicode commands)
      let start : Editor := {
        paths := inputsOf files, outlets, ranges := rangesFromZero commands }
      let edit : Editing Unit := do
        runCycles settings Act.maxTurns true
        finishFile settings
      let ((), s) ← edit.run start
      let result ← Act.flush
      Act.modifyLocal fun l => { l with outputError := none }
      if let .error e := result then
        if e ≠ .badDescriptor then giveUp call 4 ("couldn't flush stdout: " ++ e.notice)
      if !(← Op.isOpen 1) then
        giveUp call 4 ("couldn't close stdout: " ++ SystemError.badDescriptor.notice)
      return s.status

end CompilerDriver.Utility
