import CompilerDriver.Posix.Kernel.Transfer

/-!
# Programs

A program is a file that may be run.  The installed ones are images, which hold the name of what
they do; any other is a script, whose first line may name an interpreter, itself a program.
-/

namespace CompilerDriver.Kernel

/-- A program as it is started: the name that it is called by, and its arguments. -/
structure Call where
  name : String
  arguments : List String
  deriving DecidableEq, Repr, Inhabited

namespace Program

/-! ## Interpreters -/

def isBlank (b : UInt8) : Bool := b == 32 || b == 9

/-- How much of a script is looked at for its interpreter. -/
def headSize : Nat := 256

/-- The interpreter that a first line names, and the one argument that may follow. -/
def interpreter? (content : ByteArray) : Option (String × Option String) :=
  match (content.extract 0 (headSize - 1)).data.toList with
  | 35 :: 33 :: rest =>
      let line := rest.takeWhile (· != 10)
      let isWhole := line.length < rest.length || content.size < headSize
      let name := (line.dropWhile isBlank).takeWhile fun b => !isBlank b && b != 0
      let after := (line.dropWhile isBlank).drop name.length
      if name.isEmpty || (!isWhole && after.isEmpty) then none
      else
        let argument := ((after.dropWhile isBlank).reverse.dropWhile isBlank).reverse
        let argument := argument.takeWhile (· != 0)
        let given := after.head? != some 0 && !argument.isEmpty
        some (Text.octetsOfBytes name, if given then some (Text.octetsOfBytes argument) else none)
  | _ => none

/-! ## Starting -/

/-- The most octets of an argument or a variable. -/
def maxArgumentSize : Nat := 131071

/-- The most octets of all arguments and variables, with a mark and a reference for each. -/
def maxArgumentsSize : Nat := 2097152

def fits (environment : List (String × String)) (path : String) (call : Call) : Bool :=
  let texts := (call.name :: call.arguments).map String.length ++
    environment.map fun v => v.1.length + v.2.length + 1
  texts.all (· ≤ maxArgumentSize) &&
    decide (texts.foldl (fun n size => n + size + 9) (path.length + 1) ≤ maxArgumentsSize)

/-- How many interpreters may run each other. -/
def maxInterpreters : Nat := 5

/-- What running a path starts: the name in an image, and the call that it gets.  A script is
handed to its interpreter. -/
def load (environment : List (String × String)) :
    Nat → String → Call → Op (Except SystemError (String × Call))
  | 0, _, _ => return .error .tooManyLinks
  | n + 1, path, call => do
      match ← Op.locate path with
      | .error e => return .error e
      | .ok place =>
          match place.target with
          | none => return .error .notFound
          | some target =>
              let status := Op.targetStatus (← get) target
              if status.kind ≠ .file ∨ !status.isExecutable then return .error .accessDenied
              if !fits environment path call then return .error .argumentsTooLong
              match ((← get).volume.node (status.node.getD Volume.root)).content with
              | .program name => return .ok (name, call)
              | .file content =>
                  match interpreter? content with
                  | none => return .error .unknownFormat
                  | some (interpreter, argument) =>
                      load environment n interpreter
                        ⟨interpreter, argument.toList ++ path :: call.arguments⟩
              | _ => return .error .accessDenied

def start (environment : List (String × String)) (path : String) (call : Call) :
    Op (Except SystemError (String × Call)) :=
  load environment (maxInterpreters + 1) path call

/-- The shell that runs a script without an interpreter of its own. -/
def fallbackShell : String := "/bin/sh"

/-- As `start`, but a script that names no interpreter is handed to the shell. -/
def startScript (environment : List (String × String)) (path : String) (call : Call) :
    Op (Except SystemError (String × Call)) := do
  match ← start environment path call with
  | .error .unknownFormat =>
      start environment fallbackShell ⟨fallbackShell, path :: call.arguments⟩
  | result => return result

/-! ## Search -/

def defaultPath : String := "/usr/local/sbin:/usr/local/bin:/usr/sbin:/usr/bin:/sbin:/bin"

/-- The paths under which a name is looked for. -/
def candidates (searchPath name : String) : List String :=
  (Text.splitWhere (· == ':') searchPath.toList).map fun directory =>
    if directory.isEmpty then name else String.ofList directory ++ "/" ++ name

/-- The first of some paths at which there is a program, or why there is none. -/
def firstProgram : List String → SystemError → Op (Except SystemError String)
  | [], reason => return .error reason
  | path :: rest, reason => do
      match ← Op.statusOf path with
      | .ok status =>
          if status.isFile ∧ status.isExecutable then return .ok path
          else firstProgram rest .accessDenied
      | .error .notFound | .error .notDirectory => firstProgram rest reason
      | .error e => firstProgram rest e

/-- Starts the first program of a name that can be started. -/
def startFirst (environment : List (String × String)) (call : Call) :
    List String → Bool → Op (Except SystemError (String × Call))
  | [], denied => return .error (if denied then .accessDenied else .notFound)
  | path :: rest, denied => do
      match ← startScript environment path call with
      | .ok found => return .ok found
      | .error .accessDenied => startFirst environment call rest true
      | .error .notFound | .error .notDirectory => startFirst environment call rest denied
      | .error e => return .error e

/-- Starts a program by its path or, if there is no slash in it, by its name. -/
def find (environment : List (String × String)) (searchPath file : String)
    (arguments : List String) : Op (Except SystemError (String × Call)) := do
  let call : Call := ⟨file, arguments⟩
  if file.toList.contains '/' then startScript environment file call
  else if file = "" then return .error .notFound
  else if Volume.maxNameLength < file.length then return .error .nameTooLong
  else startFirst environment call (candidates searchPath file) false

end Program

/-- What the programs of a system do, by the names in their images. -/
abbrev Programs := String → Call → List (String × String) → Thread

end CompilerDriver.Kernel
