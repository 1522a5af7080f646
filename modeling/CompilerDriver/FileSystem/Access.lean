import CompilerDriver.FileSystem.Lookup
import CompilerDriver.Text.Quoted

/-!
# Reading, writing and scratch directories

The operations that a run performs on a file system.  A write changes one entry; a scratch
directory gets a name that no entry bears or lies under, so that dropping it again restores the
table.  A removal is told a path, and takes what the path leads to by then.
-/

namespace CompilerDriver

/-- A failed operation. -/
inductive FileError where
  /-- The message names the path, if there is one. -/
  | refused (cause : SystemError) (operation : String) (path : Option String)
  /-- No operation was tried, since the text of an argument holds U+0000. -/
  | nullIn (argument text : String)
  deriving DecidableEq, Repr

def FileError.message : FileError → String
  | refused cause operation path =>
      cause.code ++ ": " ++ cause.description ++ ", " ++ operation ++
        match path with
        | some path => " '" ++ path ++ "'"
        | none => ""
  | nullIn argument text =>
      "The argument '" ++ argument ++
        "' must be a string, Uint8Array, or URL without null bytes. Received " ++ Text.shown text

namespace FileSystem

/-! ## Files -/

/-- What is read of the image of a program. -/
def imageBytes (name : String) : List UInt8 :=
  [0x7F, 0x45, 0x4C, 0x46, 2, 1, 1, 0, 0, 0, 0, 0, 0, 0, 0, 0] ++ Text.encodeUtf8 name

def holdsNull (path : String) : Bool := path.toList.contains '\x00'

/-- The bytes of a file.  A stream or an endless device has none to give. -/
def readBytes (fs : FileSystem) (path : String) : Except FileError (List UInt8) :=
  if holdsNull path then .error (.nullIn "path" path)
  else
    match fs.lookup path with
    | .ok (.entry _ (.file content _)) => .ok content
    | .ok (.entry _ (.device .null)) => .ok []
    | .ok (.entry _ (.program name)) => .ok (imageBytes name)
    | .ok (.entry _ (.device _)) => .error (.refused .noDevice "open" (some path))
    | .ok (.entry _ _) => .error (.refused .isDirectory "read" none)
    | .ok (.free _) => .error (.refused .notFound "open" (some path))
    | .error cause => .error (.refused cause "open" (some path))

def readText (fs : FileSystem) (path : String) : Except FileError String :=
  (fs.readBytes path).map Text.decodeUtf8

/-- Where a write lands. -/
inductive Target where
  /-- A file, with its present entry if there is one. -/
  | file (location : Location) (executable : Bool)
  | device (kind : Device)
  deriving DecidableEq, Repr

/-- Where a write to a path lands.  A path that ends in a slash can only name a directory. -/
def writeTarget (fs : FileSystem) (here : Location) (path : String) : Except SystemError Target :=
  if Path.endsInSlash path then
    let start := if Path.isAbsolute path then [] else here
    match fs.walk maxLinks start ((Path.components path).dropLast ++ ["."]) with
    | .ok _ => .error .isDirectory
    | .error cause => .error cause
  else
    match fs.lookupFrom here path with
    | .ok (.entry l (.file _ executable)) => .ok (.file l executable)
    | .ok (.entry l (.program _)) => .ok (.file l true)
    | .ok (.entry _ (.device kind)) => .ok (.device kind)
    | .ok (.entry _ _) => .error .isDirectory
    | .ok (.free l) => .ok (.file l false)
    | .error cause => .error cause

/-- The changes by which a path gets a content. -/
def writeChanges (fs : FileSystem) (path : String) (content : List UInt8) :
    Except FileError (List Change) :=
  if holdsNull path then .error (.nullIn "path" path)
  else
    match fs.writeTarget fs.workDir path with
    | .ok (.file l executable) => .ok [.put l (.file content executable)]
    | .ok (.device .full) =>
        if content.isEmpty then .ok [] else .error (.refused .noSpace "write" none)
    | .ok (.device .null) | .ok (.device .zero) => .ok []
    | .ok (.device _) => .error (.refused .noDevice "open" (some path))
    | .error cause => .error (.refused cause "open" (some path))

/-! ## Scratch directories -/

structure Scratch where
  /-- The path by which tools are told of it. -/
  path : String
  location : Location
  deriving DecidableEq, Repr

/-- Six digits, counted up. -/
def scratchSuffix (n : Nat) : String :=
  String.ofList ([100000, 10000, 1000, 100, 10, 1].map fun unit => Nat.digitChar (n / unit % 10))

/-- Makes a directory whose path is the given text and six more characters, with a name that is
still free. -/
def makeScratch (fs : FileSystem) (stem : String) : Except FileError (Scratch × FileSystem) :=
  let fail (cause : SystemError) : Except FileError (Scratch × FileSystem) :=
    .error (.refused cause "mkdtemp" (some (stem ++ "XXXXXX")))
  if holdsNull stem then .error (.nullIn "prefix" stem)
  else if maxPathBytes < (stem ++ "XXXXXX").utf8ByteSize then fail .nameTooLong
  else
    let start := if Path.isAbsolute stem then [] else fs.workDir
    match fs.walk maxLinks start ((Path.components stem).dropLast ++ ["."]) with
    | .error cause => fail cause
    | .ok (.free _) => fail .notFound
    | .ok (.entry parent _) =>
        let location (n : Nat) := parent ++ [Path.baseName stem ++ scratchSuffix n]
        match (List.range (fs.entries.length + 1)).find? fun n => fs.IsFree (location n) with
        | none => fail .alreadyExists
        | some n => .ok (⟨stem ++ scratchSuffix n, location n⟩, fs.put (location n) .directory)

/-- A scratch directory is new, and making it adds nothing else. -/
theorem makeScratch_eq_ok {fs fs' : FileSystem} {stem : String} {s : Scratch}
    (h : fs.makeScratch stem = .ok (s, fs')) :
    fs.IsFree s.location ∧ fs' = fs.put s.location .directory := by
  simp only [makeScratch] at h
  split at h
  · cases h
  · split at h
    · cases h
    · split at h
      · cases h
      · cases h
      · split at h
        · cases h
        · rename_i hfind
          cases h
          exact ⟨by simpa using List.find?_some hfind, rfl⟩

/-- Dropping a scratch directory right after making it leaves what was there before. -/
theorem remove_makeScratch {fs fs' : FileSystem} {stem : String} {s : Scratch}
    (h : fs.makeScratch stem = .ok (s, fs')) : fs'.remove s.location = fs := by
  obtain ⟨hfree, rfl⟩ := makeScratch_eq_ok h
  rw [remove_put_below (by simp), remove_eq_self hfree]

/-! ## Removal -/

/-- The path of what lies below a path. -/
def pathBelow (path : String) (names : List String) : String :=
  "/".intercalate (path :: names)

/-- The order in which locations are met when a directory is emptied: a directory before what lies
in it, and the names in a directory by their bytes. -/
def metBefore : Location → Location → Bool
  | _, [] => false
  | [], _ :: _ => true
  | name :: rest, name' :: rest' =>
      if name = name' then metBefore rest rest' else decide (name < name')

def firstMet : List Location → Option Location
  | [] => none
  | l :: more => some (more.foldl (fun first m => if metBefore m first then m else first) l)

/-- A directory is emptied by way of the paths of what lies in it.  This is where such a path is
first longer than the system takes. -/
def firstOutOfReach (fs : FileSystem) (path : String) (l : Location) : Option Location :=
  firstMet ((fs.entries.map Prod.fst).filter fun m =>
    l.isPrefixOf m && maxPathBytes < (pathBelow path (m.drop l.length)).utf8ByteSize)

/-- Drops what is met before a location when a directory is emptied, and keeps what leads to it. -/
def removeUpTo (fs : FileSystem) (l stop : Location) : FileSystem :=
  { fs with entries := fs.entries.filter fun row =>
      !(l.isPrefixOf row.1 && metBefore row.1 stop && !row.1.isPrefixOf stop) }

/-- Removes what a path leads to by now, a directory with everything in it and a link without what
it stands for.  If there is nothing, nothing is to be done. -/
def removePath (fs : FileSystem) (path : String) : Except FileError Unit × FileSystem :=
  let fail (cause : SystemError) (path : String) : Except FileError Unit :=
    .error (.refused cause "unlink" (some path))
  if holdsNull path then (.error (.nullIn "path" path), fs)
  else
    match fs.lookupSelfFrom fs.workDir path with
    | .error .notFound | .ok (.free _) => (.ok (), fs)
    | .error cause => (fail cause path, fs)
    | .ok (.entry l _) =>
        match fs.firstOutOfReach path l with
        | none => (.ok (), fs.remove l)
        | some m => (fail .nameTooLong (pathBelow path (m.drop l.length)), fs.removeUpTo l m)

/-! ## Listings -/

/-- How many entries a directory has. -/
def countIn (fs : FileSystem) (l : Location) : Nat :=
  (fs.entries.filter fun row => row.1.length == l.length + 1 && l.isPrefixOf row.1).length

/-- One line of a listing: a slash after a directory, the content after a file, a mark after a
link.  A device shows like a file without content. -/
def listingLine (path : String) : Entry → String
  | .directory => path ++ "/"
  | .file content _ => path ++ "=" ++ Text.decodeUtf8 content
  | .program name => path ++ "=" ++ Text.decodeUtf8 (imageBytes name)
  | .link _ => path ++ "@"
  | .device _ => path ++ "="

/-- Everything below a directory, sorted by the bytes of the lines. -/
def listing (fs : FileSystem) (l : Location) : List String :=
  let below := fs.entries.filter fun row => l.length < row.1.length && l.isPrefixOf row.1
  let lines := below.map fun row => listingLine ("/".intercalate (row.1.drop l.length)) row.2
  lines.mergeSort fun a b => decide (a ≤ b)

end FileSystem

end CompilerDriver
