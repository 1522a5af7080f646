import CompilerDriver.Posix.Kernel.Image
import CompilerDriver.Posix.Shell.Interpreter
import CompilerDriver.Text.Quoted
import CompilerDriver.Toolchain.Process

/-!
# Starting tools

A tool is started with an empty input, and what it and its children print on either stream is
gathered and read as UTF-8, until nobody can print any more.  This is one runner for a toolchain,
which takes any: it lets `main` and the scripted runs go, and no law of the driver is about it.
-/

namespace CompilerDriver.Shell

open Kernel Toolchain

/-- More steps than all processes together take. -/
def maxSteps : Nat := 1 <<< 60

/-- Why a call cannot be made: no text in it may hold U+0000, and the program has to have a name. -/
def refusal? (call : ToolCall) : Option String :=
  let refuse (name text why : String) : String :=
    "The argument '" ++ name ++ "' " ++ why ++ ". Received " ++ Text.shown text
  let holdsNull (text : String) : Bool := text.toList.contains '\x00'
  if holdsNull call.program then
    some (refuse "file" call.program "must be a string without null bytes")
  else if call.program = "" then some (refuse "file" "" "cannot be empty")
  else
    (call.arguments.zipIdx.find? fun a => holdsNull a.1).map fun (text, i) =>
      refuse ("args[" ++ toString i ++ "]") text "must be a string without null bytes"

/-- The path on which programs are looked for when the environment gives none. -/
def barePath : String := "/bin:/usr/bin"

/-- Finds a program and runs it until all is done; gives the world that is left. -/
def runTool (environment : List (String × String)) (program : String) (arguments : List String)
    (w : World) : Except SystemError World :=
  let path := (environment.lookup "PATH").getD barePath
  match (Program.find environment path program arguments).run w with
  | (.error e, _) => .error e
  | (.ok (image, call), w) =>
      .ok (Kernel.run maxSteps w [⟨firstPid, programs image call environment, false, none⟩])

def outputOf (w : World) (number : Nat) : String :=
  Text.decodeUtf8 ((w.outputs.getD number ByteArray.empty).extract 0 maxOutputBytes).data.toList

def resultOf (w : World) : ProcessResult :=
  let ending := (w.process firstPid).ending
  { status := match ending with
      | some (.exit status) => some (status % 256 : Nat)
      | _ => none
    signal := match ending with
      | some (.signal n) => some (Signal.reportName n)
      | _ => none
    stdout := outputOf w 0
    stderr := outputOf w 1 }

def errorOf (program code : String) : ProcessError :=
  ⟨some code, "spawnSync " ++ program ++ " " ++ code⟩

def launch (environment : List (String × String)) (call : ToolCall) (files : FileSystem) :
    Reply :=
  match refusal? call with
  | some why => ⟨[], .error ⟨"TypeError", why⟩⟩
  | none =>
      let octets := environment.map fun (k, v) => (Text.toOctets k, Text.toOctets v)
      match runTool octets (Text.toOctets call.program) (call.arguments.map Text.toOctets)
          (World.initial files) with
      | .error e =>
          ⟨[], .ok { status := none, error := some (errorOf call.program e.code) }⟩
      | .ok w =>
          let error := if w.overflowed then some (errorOf call.program "ENOBUFS") else none
          ⟨changesTo files w.volume, .ok { resultOf w with error := error }⟩

/-- A runner whose tools are the programs of the file system. -/
def runner (environment : List (String × String)) : Runner Unit :=
  fun call files _ => (launch environment call files, ())

end CompilerDriver.Shell
