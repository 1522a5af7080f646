import CompilerDriver.FileSystem.Access

/-!
# Making what a tree holds

Entries are made one after the other, as a user would make them: what lies on the way is followed
through links, missing directories above are made first, and what is in the way is an error.
-/

namespace CompilerDriver.FileSystem

/-- Puts an entry at the lexical location of a path, with the directories above it. -/
def install (fs : FileSystem) (path : String) (e : Entry) : FileSystem :=
  let l := Path.resolve fs.workDir path
  let above := (List.range l.length).map fun n => l.take n
  let withParents := above.foldl
    (fun (fs : FileSystem) d => if (fs.entryAt? d).isSome then fs else fs.put d .directory) fs
  withParents.put l e

/-- Adds an entry at a path at which there is nothing yet.  Only a directory may be named with
slashes behind it. -/
def addNew (fs : FileSystem) (path : String) (e : Entry) : Except SystemError FileSystem :=
  let bare := Path.withoutEndSlashes path
  if maxPathBytes < path.utf8ByteSize then .error .nameTooLong
  else
    match fs.lookupSelfFrom fs.workDir bare with
    | .error cause => .error cause
    | .ok (.entry _ _) => .error .alreadyExists
    | .ok (.free l) =>
        if e = .directory ∨ bare = path then .ok (fs.put l e) else .error .notFound

/-! ## Directories -/

/-- Makes a directory and those above it that are missing; one that is there will do. -/
def makeDirectories (fs : FileSystem) : Nat → String → Except SystemError FileSystem
  | 0, _ => .error .notFound
  | n + 1, path =>
      match fs.addNew path .directory with
      | .ok fs => .ok fs
      | .error .notFound =>
          let parent := Path.parent path
          if parent = path then .error .alreadyExists
          else
            match makeDirectories fs n parent with
            | .error cause => .error cause
            | .ok fs => fs.addNew path .directory
      | .error .notDirectory => .error .notDirectory
      | .error _ =>
          match fs.lookup path with
          | .ok (.entry _ .directory) => .ok fs
          | .ok (.entry _ _) => .error .alreadyExists
          | .ok (.free _) => .error .notFound
          | .error cause => .error cause

/-- As many directories as a path can have above it. -/
def makeDirectory (fs : FileSystem) (path : String) : Except FileError FileSystem :=
  if holdsNull path then .error (.nullIn "path" path)
  else (makeDirectories fs (path.length + 1) path).mapError (.refused · "mkdir" (some path))

/-! ## Entries -/

def makeFile (fs : FileSystem) (path : String) (content : List UInt8) :
    Except FileError FileSystem :=
  (fs.writeChanges path content).map fs.applyChanges

/-- Lets everyone run a file. -/
def makeExecutable (fs : FileSystem) (path : String) : FileSystem :=
  match fs.lookup path with
  | .ok (.entry l (.file content _)) => fs.put l (.file content true)
  | _ => fs

def makeLink (fs : FileSystem) (path target : String) : Except FileError FileSystem :=
  let refuse (cause : SystemError) : FileError :=
    .refused cause ("symlink '" ++ target ++ "' ->") (some path)
  if holdsNull target then .error (.nullIn "target" target)
  else if holdsNull path then .error (.nullIn "path" path)
  else if target = "" then .error (refuse .notFound)
  else if maxPathBytes < target.utf8ByteSize then .error (refuse .nameTooLong)
  else (fs.addNew path (.link target)).mapError refuse

/-- Makes an entry at a path below the working directory, with the directories above it. -/
def make (fs : FileSystem) (name : String) (e : Entry) : Except FileError FileSystem :=
  let path := Path.join fs.workDir.text name
  match fs.makeDirectory (Path.parent path) with
  | .error why => .error why
  | .ok fs =>
      match e with
      | .file content executable =>
          (fs.makeFile path content).map fun fs =>
            if executable then fs.makeExecutable path else fs
      | .link target => fs.makeLink path target
      | _ => fs.makeDirectory path

def makeAll (fs : FileSystem) (entries : List (String × Entry)) : Except FileError FileSystem :=
  entries.foldlM (fun fs entry => fs.make entry.1 entry.2) fs

end CompilerDriver.FileSystem
