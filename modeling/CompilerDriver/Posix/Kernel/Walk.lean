import CompilerDriver.Posix.Kernel.Volume
import CompilerDriver.Text.Split

/-!
# Walking along a path

A path is walked component by component from a directory.  A link on the way is replaced by its
target; whether one at the end is too, is for the caller to say.
-/

namespace CompilerDriver.Kernel

/-- What is at a place. -/
inductive Target where
  | node (n : Nat)
  /-- What somebody has open already, by its number. -/
  | opened (file : Nat)
  deriving DecidableEq, Repr, Inhabited

/-- A name in a directory, and what it leads to if it is not free. -/
structure Place where
  parent : Nat
  name : String
  target : Option Target
  deriving DecidableEq, Repr, Inhabited

namespace Volume

def maxLinks : Nat := 40
def maxNameLength : Nat := 255
def maxPathLength : Nat := 4095

/-- The components that a walk visits.  A slash at the end asks for a directory. -/
def components (path : String) : List String :=
  (Text.fields (· == '/') path.toList).map String.ofList ++
    if path.endsWith "/" then ["."] else []

def isAbsolute (path : String) : Bool := path.startsWith "/"

/-- What a walk is told: the open files by their descriptors, and whether to follow a link at the
end. -/
structure Walker where
  opened : Nat → Option Nat
  followsLast : Bool

/-- A walk in which `jump` takes over at each link that is followed.  `last` is the name by which
the walk came here, and the directory that holds it. -/
def walkWith (v : Volume) (w : Walker) (jump : Nat → List String → Except SystemError Place) :
    Nat → Nat × String → List String → Except SystemError Place
  | here, last, [] => .ok ⟨last.1, last.2, some (.node here)⟩
  | here, _, name :: rest =>
      let step (parent : Nat) (other : Unit → Except SystemError Place) :
          Except SystemError Place :=
        if name = "." then walkWith v w jump here (here, ".") rest
        else if name = ".." then walkWith v w jump parent (parent, "..") rest
        else other ()
      match (v.node here).content with
      | .directory parent rows =>
          step parent fun _ =>
            if maxNameLength < name.length then .error .nameTooLong
            else
              match rows.lookup name with
              | none => if rest.isEmpty then .ok ⟨here, name, none⟩ else .error .notFound
              | some n =>
                  match (v.node n).content with
                  | .link target =>
                      if rest.isEmpty && !w.followsLast then .ok ⟨here, name, some (.node n)⟩
                      else jump (if isAbsolute target then root else here)
                        (components target ++ rest)
                  | _ => walkWith v w jump n (here, name) rest
      | .descriptors parent =>
          step parent fun _ =>
            match name.toNat?.bind w.opened with
            | none => .error .notFound
            | some file =>
                if rest.isEmpty then .ok ⟨here, name, some (.opened file)⟩
                else .error .notDirectory
      | _ => .error .notDirectory

/-- A walk that follows at most the given number of links. -/
def walk (v : Volume) (w : Walker) : Nat → Nat → List String → Except SystemError Place
  | 0, here => walkWith v w (fun _ _ => .error .tooManyLinks) here (here, ".")
  | links + 1, here => walkWith v w (walk v w links) here (here, ".")

/-- The place that a path leads to from a directory. -/
def find (v : Volume) (w : Walker) (here : Nat) (path : String) : Except SystemError Place :=
  if path.isEmpty then .error .notFound
  else if maxPathLength < path.length then .error .nameTooLong
  else v.walk w maxLinks (if isAbsolute path then root else here) (components path)

end Volume

end CompilerDriver.Kernel
