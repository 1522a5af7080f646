import CompilerDriver.Posix.Creation
import CompilerDriver.Posix.Shell.Launch
import CompilerDriver.Posix.Shell.Layout
import CompilerDriver.Session
import CompilerDriver.Toolchain.Build

/-!
# The command

Runs on a snapshot of the working directory, whose tools are scripts for the runner of `Posix`, and
writes back the files that the run made or changed.
-/

namespace CompilerDriver

/-- How deep below the working directory the snapshot goes. -/
def snapshotDepth : Nat := 16

/-- A file that starts with an interpreter line counts as one that may be run. -/
def isScript : List UInt8 → Bool
  | 35 :: 33 :: _ => true
  | _ => false

def snapshot : Nat → Location → IO.FS.DirEntry → IO (List (Location × Entry))
  | 0, _, _ => pure []
  | depth + 1, parent, e => do
      let l := parent ++ [e.fileName]
      if ← e.path.isDir then
        let mut rows := [(l, Entry.directory)]
        for child in ← e.path.readDir do
          rows := rows ++ (← snapshot depth l child)
        return rows
      try
        let content := (← IO.FS.readBinFile e.path).data.toList
        return [(l, .file content (isScript content))]
      catch _ => return []

def currentFiles (tempDir : String) : IO FileSystem := do
  let here ← IO.currentDir
  let workDir := Path.resolve [] here.toString
  let mut rows : List (Location × Entry) := []
  for child in ← here.readDir do
    rows := rows ++ (← snapshot snapshotDepth workDir child)
  let bare := FileSystem.empty workDir tempDir
  let roots := (bare.install (Location.text workDir) .directory).install tempDir .directory
  return Shell.installSystem { roots with entries := roots.entries ++ rows }

def writeBack (before after : FileSystem) : IO Unit := do
  for (l, e) in after.entries do
    if before.entryAt? l ≠ some e then
      match e with
      | .file content _ => IO.FS.writeBinFile (Location.text l) ⟨content.toArray⟩
      | _ => pure ()

def showEnding : Ending → IO UInt32
  | .exit code => return UInt32.ofNat code
  | .escaped (.failure f) => do
      IO.eprintln f.message
      return 1
  | .escaped (.fault f) => do
      IO.eprintln (f.name ++ ": " ++ f.message)
      return 1

end CompilerDriver

open CompilerDriver in
def main (args : List String) : IO UInt32 := do
  let names := ["PYXC_CXX", "CXX", "PYXC_TRANSLATOR", "HOME"]
  let mut environment : List (String × String) := []
  for name in names do
    if let some text ← IO.getEnv name then
      environment := environment ++ [(name, text)]
  let files ← currentFiles ((← IO.getEnv "TMPDIR").getD "/tmp")
  let config := Toolchain.ToolConfig.ofEnvironment fun name => environment.lookup name
  let around : Surroundings := {
    files := files
    reader := Reader.ofFiles files
    format := LogFormat.pick (← IO.getEnv "NO_COLOR").isNone
    nativeSuffix := Toolchain.nativeSuffix "linux" }
  let tools := Toolchain.backend (Shell.runner environment) config
  let (outcome, world) := run around tools args ⟨files, (), []⟩
  for text in outcome.printed do
    IO.println text
  for line in outcome.lines do
    IO.eprintln line
  writeBack files world.files
  showEnding outcome.ending
