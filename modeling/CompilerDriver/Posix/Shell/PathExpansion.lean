import CompilerDriver.Posix.Shell.Expansion

/-!
# Expansion to paths

A field with special characters stands for the paths that it matches, in the order of their
octets; if there are none, it stands for itself.  A name that starts with a dot is matched only by
a pattern that does.
-/

namespace CompilerDriver.Shell

open Kernel

/-- The names in a directory, with the two that every directory has. -/
def namesIn (path : String) : Act (List String) := do
  match ← Op.namesIn path with
  | .ok names => return "." :: ".." :: names
  | .error _ => return []

def startsWithDot (segment : List MarkedChar) : Bool :=
  match segment with
  | ('\\', false) :: (c, _) :: _ => c == '.'
  | (c, _) :: _ => c == '.'
  | [] => false

def segmentNames (directory : String) (segment : List MarkedChar) : Act (List String) := do
  let pattern := Pattern.compile segment
  let path := if directory = "" then "." else directory
  let visible (name : String) : Bool := startsWithDot segment || !name.startsWith "."
  return (← namesIn path).filter fun name => visible name && Pattern.accepts pattern name.toList

def literalText (segment : List MarkedChar) : String :=
  String.ofList (Pattern.literal (Pattern.compile segment))

/-- The paths that start with the given text and go on as the segments say. -/
def matchingPaths : Nat → String → List (List MarkedChar) → Act (List String)
  | 0, _, _ => return []
  | n + 1, base, segments => do
      let isFixed (segment : List MarkedChar) : Bool := Pattern.isLiteral (Pattern.compile segment)
      let fixed := segments.takeWhile isFixed
      match segments.drop fixed.length with
      | [] =>
          let path := base ++ "/".intercalate (fixed.map literalText)
          return if (← Op.ownStatus? path).isSome then [path] else []
      | segment :: rest =>
          let directory := base ++ String.join (fixed.map fun s => literalText s ++ "/")
          let names ← segmentNames directory segment
          if rest.isEmpty then return names.map (directory ++ ·)
          let paths ← names.mapM fun name => matchingPaths n (directory ++ name ++ "/") rest
          return paths.flatten

/-- The paths that a field stands for. -/
def fieldPaths (field : List Item) : Act (List String) := do
  let text := Item.toText field
  let special := field.any fun
    | .char c _ => c == '*' || c == '?' || c == '['
    | _ => false
  if !special ∨ (← state).hasOption 'f' then return [text]
  let segments := Text.splitWhere (fun m => m.1 == '/') (Item.marked field)
  if segments.all fun s => Pattern.isLiteral (Pattern.compile s) then return [text]
  match ← matchingPaths (segments.length + 1) "" segments with
  | [] => return [text]
  | paths => return paths.mergeSort fun a b => (compare a b).isLE

/-- The fields that a word stands for. -/
def expandFields (capture : Capture) (word : Word) : Act (List String) := do
  let items ← expand capture { split := true, tilde := true } word
  let fields := cutFields ((← separators?).getD defaultSeparators) items
  return (← fields.mapM fieldPaths).flatten

end CompilerDriver.Shell
