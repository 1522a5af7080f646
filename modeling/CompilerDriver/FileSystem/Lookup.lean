import CompilerDriver.FileSystem.Basic
import CompilerDriver.FileSystem.Error

/-!
# What a path reaches

Opening a path walks its components one by one: every component on the way has to exist, a
symbolic link is replaced by its target, and `..` leads to the parent of the directory reached so
far.  At most `maxLinks` links are followed.
-/

namespace CompilerDriver

/-- Where a path ends: at an entry, or at a free name in an existing directory. -/
inductive Reached where
  | entry (location : Location) (e : Entry)
  | free (location : Location)
  deriving DecidableEq, Repr

namespace FileSystem

def maxLinks : Nat := 40
def maxNameBytes : Nat := 255
def maxPathBytes : Nat := 4095

/-- The components that a walk visits.  A slash at the end asks for a directory. -/
def walkComponents (path : String) : List String :=
  Path.components path ++ if Path.endsInSlash path then ["."] else []

/-- A walk in which `follow` takes over at each link that is met. -/
def walkWith (fs : FileSystem) (follow : Location → List String → Except SystemError Reached) :
    Location → List String → Except SystemError Reached
  | here, [] =>
      match fs.entryAt? here with
      | some e => .ok (.entry here e)
      | none => .error .notFound
  | here, name :: rest =>
      match fs.entryAt? here with
      | some .directory =>
          if name = "." then walkWith fs follow here rest
          else if name = ".." then walkWith fs follow here.dropLast rest
          else if maxNameBytes < name.utf8ByteSize then .error .nameTooLong
          else
            match fs.entryAt? (here ++ [name]) with
            | none => if rest = [] then .ok (.free (here ++ [name])) else .error .notFound
            | some (.link target) =>
                follow (if Path.isAbsolute target then [] else here)
                  (walkComponents target ++ rest)
            | some _ => walkWith fs follow (here ++ [name]) rest
      | some _ => .error .notDirectory
      | none => .error .notFound

/-- A walk that follows at most the given number of links. -/
def walk (fs : FileSystem) : Nat → Location → List String → Except SystemError Reached
  | 0 => walkWith fs fun _ _ => .error .tooManyLinks
  | links + 1 => walkWith fs (walk fs links)

/-- What opening a path as written reaches from a directory. -/
def lookupFrom (fs : FileSystem) (here : Location) (path : String) : Except SystemError Reached :=
  if path = "" ∨ '\x00' ∈ path.toList then .error .notFound
  else if maxPathBytes < path.utf8ByteSize then .error .nameTooLong
  else fs.walk maxLinks (if Path.isAbsolute path then [] else here) (walkComponents path)

def lookup (fs : FileSystem) (path : String) : Except SystemError Reached :=
  fs.lookupFrom fs.workDir path

/-- What a path names itself: a link at its end is not followed. -/
def lookupSelfFrom (fs : FileSystem) (here : Location) (path : String) :
    Except SystemError Reached :=
  let names := Path.components path
  let name := names.getLastD "."
  if Path.endsInSlash path ∨ name = "." ∨ name = ".." ∨ '\x00' ∈ path.toList then
    fs.lookupFrom here path
  else if maxPathBytes < path.utf8ByteSize ∨ maxNameBytes < name.utf8ByteSize then
    .error .nameTooLong
  else
    let start := if Path.isAbsolute path then [] else here
    match fs.walk maxLinks start (names.dropLast ++ ["."]) with
    | .error cause => .error cause
    | .ok (.free _) => .error .notFound
    | .ok (.entry parent _) =>
        match fs.entryAt? (parent ++ [name]) with
        | some e => .ok (.entry (parent ++ [name]) e)
        | none => .ok (.free (parent ++ [name]))

def entryOf? (fs : FileSystem) (path : String) : Option Entry :=
  match fs.lookup path with
  | .ok (.entry _ e) => some e
  | _ => none

def pathExists (fs : FileSystem) (path : String) : Bool :=
  (fs.entryOf? path).isSome

/-- The path opens as a regular file.  Permissions are not part of a file system here: every file
can be read. -/
def isFile (fs : FileSystem) (path : String) : Bool :=
  match fs.entryOf? path with
  | some (.file _ _) | some (.program _) => true
  | _ => false

def isDirectory (fs : FileSystem) (path : String) : Bool :=
  fs.entryOf? path == some .directory

/-! ## Laws -/

theorem lookup_of_too_long {fs : FileSystem} {path : String} {r : Reached}
    (h : fs.lookup path = .ok r) : path.utf8ByteSize ≤ maxPathBytes := by
  unfold lookup lookupFrom at h
  split at h
  · cases h
  · split at h
    · cases h
    · omega

@[simp] theorem lookup_empty (fs : FileSystem) : fs.lookup "" = .error .notFound := by
  simp [lookup, lookupFrom]

theorem pathExists_of_isFile {fs : FileSystem} {path : String} (h : fs.isFile path) :
    fs.pathExists path := by
  unfold isFile at h
  unfold pathExists
  cases he : fs.entryOf? path with
  | none => simp [he] at h
  | some e => rfl

end FileSystem

end CompilerDriver
