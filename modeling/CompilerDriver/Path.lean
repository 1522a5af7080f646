import CompilerDriver.Text.Split

/-!
# Paths as texts

A path is a text whose components are separated by slashes.  Everything here works on the text
alone: `.` and `..` are removed without a look at the file system, so the result need not be the
file that opening the path reaches.  A `Location` is an absolute path that is already resolved,
as the list of its components.
-/

namespace CompilerDriver

abbrev Location := List String

def Location.text (l : Location) : String :=
  "/" ++ "/".intercalate l

namespace Path

/-- The texts between the slashes, empty ones left out. -/
def components (path : String) : List String :=
  (Text.fields (· == '/') path.toList).map String.ofList

def isAbsolute (path : String) : Bool :=
  path.toList.head? == some '/'

def endsInSlash (path : String) : Bool :=
  path.toList.getLast? == some '/'

/-! ## Names -/

/-- The last component, or nothing if there is none. -/
def baseName (path : String) : String :=
  (components path).getLast?.getD ""

/-- A path without the slashes at its end; that of the root keeps one. -/
def withoutEndSlashes (path : String) : String :=
  let bare := (path.toList.reverse.dropWhile (· == '/')).reverse
  if bare.isEmpty ∧ isAbsolute path then "/" else String.ofList bare

/-- The path of the directory above: what stands before the last component. -/
def parent (path : String) : String :=
  let bare := (withoutEndSlashes path).toList.reverse
  match bare.dropWhile (· != '/') with
  | [] => "."
  | slash :: above =>
      let above := String.ofList (slash :: above).reverse
      withoutEndSlashes above

/-- A file name cut before its last dot.  A name whose only dot comes first has no second part,
and neither has `..`. -/
def cutExtension (name : List Char) : List Char × List Char :=
  let tail := name.reverse.takeWhile (· != '.')
  match name.reverse.dropWhile (· != '.') with
  | [] => (name, [])
  | _ :: before =>
      if before = [] ∨ name = ['.', '.'] then (name, [])
      else (before.reverse, '.' :: tail.reverse)

/-- The extension of the last component with its dot. -/
def extension (path : String) : String :=
  String.ofList (cutExtension (baseName path).toList).2

/-- The last component without its extension. -/
def stem (path : String) : String :=
  String.ofList (cutExtension (baseName path).toList).1

theorem cutExtension_append (name : List Char) :
    (cutExtension name).1 ++ (cutExtension name).2 = name := by
  have hsplit := List.takeWhile_append_dropWhile (p := (· != '.')) (l := name.reverse)
  have hhead := List.head?_dropWhile_not (· != '.') name.reverse
  unfold cutExtension
  cases hd : name.reverse.dropWhile (· != '.') with
  | nil => simp
  | cons dot before =>
      rw [hd] at hsplit hhead
      simp only [List.head?_cons] at hhead
      have hdot : dot = '.' := by simpa using hhead
      simp only
      split
      · simp
      · have := congrArg List.reverse hsplit
        simpa [hdot] using this

theorem stem_append_extension (path : String) : stem path ++ extension path = baseName path := by
  rw [stem, extension, ← String.ofList_append, cutExtension_append, String.ofList_toList]

/-! ## Resolution -/

/-- One step down, or up for `..`; the root is its own parent. -/
def descend (here : Location) (name : String) : Location :=
  if name = "." then here
  else if name = ".." then here.dropLast
  else here ++ [name]

/-- The absolute path that a text names from a working directory, `.` and `..` removed. -/
def resolve (workDir : Location) (path : String) : Location :=
  (components path).foldl descend (if isAbsolute path then [] else workDir)

/-! ## Normal form and joining -/

/-- As `descend`, but a relative path keeps the `..` that lead out of where it starts. -/
def descendNormal (absolute : Bool) (done : List String) (name : String) : List String :=
  if name = "." then done
  else if name = ".." then
    if done.getLast?.any (· != "..") then done.dropLast
    else if absolute then done
    else done ++ [".."]
  else done ++ [name]

/-- The shortest text with the same reading; a slash at the end stays. -/
def normalize (path : String) : String :=
  let absolute := isAbsolute path
  let parts := (components path).foldl (descendNormal absolute) []
  let body := "/".intercalate parts
  let tail := if endsInSlash path then "/" else ""
  if parts.isEmpty then
    if absolute then "/" else "." ++ tail
  else (if absolute then "/" else "") ++ body ++ tail

def join (directory name : String) : String :=
  if directory = "" then normalize name
  else if name = "" then normalize directory
  else normalize (directory ++ "/" ++ name)

end Path

end CompilerDriver
