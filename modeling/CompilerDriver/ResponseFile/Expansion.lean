import CompilerDriver.ResponseFile.Reader
import CompilerDriver.Text.Blank

/-!
# Response files

An argument `@path` stands for the words of a file.  Expansion replaces every such reference, in
place and at every depth, by the words it leads to.  Paths are relative to the working directory,
and a file that is still being expanded higher up, told by its resolved path, may not be referred
to again.
-/

namespace CompilerDriver

namespace ResponseFile

/-- The words of a response file. -/
def tokenize (content : String) : List String :=
  (Text.fields Text.isBlank content.toList).map String.ofList

/-- The path after the sign `@`, if the token is a reference. -/
def reference? (token : String) : Option String :=
  match token.toList with
  | '@' :: path => some (String.ofList path)
  | _ => none

inductive ExpansionError where
  | missingName
  | selfInclusion (path : String)
  | unreadable (path reason : String)
  deriving DecidableEq, Repr

def ExpansionError.message : ExpansionError → String
  | .missingName => "missing response file name after '@'"
  | .selfInclusion path => "response file '" ++ path ++ "' includes itself"
  | .unreadable path reason => "cannot read response file '" ++ path ++ "': " ++ reason

/-! ## Expansion -/

/-- The readable paths whose files are not being expanded. -/
noncomputable def idle (workDir : Location) (r : Reader) (active : List Location) : List String :=
  r.paths.filter fun path => !active.contains (Path.resolve workDir path)

theorem length_idle_cons_lt {workDir : Location} {r : Reader} {active : List Location}
    {path content : String} (hread : r.read path = .ok content)
    (hactive : Path.resolve workDir path ∉ active) :
    (idle workDir r (Path.resolve workDir path :: active)).length <
      (idle workDir r active).length := by
  have hsub : idle workDir r (Path.resolve workDir path :: active) =
      (idle workDir r active).filter fun p =>
        !decide (Path.resolve workDir p = Path.resolve workDir path) := by
    simp only [idle, List.filter_filter]
    congr 1
    funext p
    simp
  rw [hsub]
  refine List.length_filter_lt_length_iff_exists.2 ⟨path, ?_, by simp⟩
  exact List.mem_filter.2 ⟨Reader.mem_paths hread, by simpa using hactive⟩

/-- The expansion of tokens met while the files at `active` are being expanded. -/
def expandWithin (workDir : Location) (r : Reader) (active : List Location) :
    List String → Except ExpansionError (List String)
  | [] => .ok []
  | token :: rest =>
      match reference? token with
      | none => (expandWithin workDir r active rest).map (token :: ·)
      | some path =>
          if path = "" then .error .missingName
          else if _ : Path.resolve workDir path ∈ active then .error (.selfInclusion path)
          else
            match _ : r.read path with
            | .error reason => .error (.unreadable path reason)
            | .ok content =>
                match expandWithin workDir r (Path.resolve workDir path :: active)
                    (tokenize content) with
                | .error e => .error e
                | .ok nested => (expandWithin workDir r active rest).map (nested ++ ·)
termination_by tokens => ((idle workDir r active).length, tokens.length)
decreasing_by
  · exact Prod.Lex.right _ (by simp)
  · exact Prod.Lex.left _ _ (length_idle_cons_lt ‹_› ‹_›)
  · exact Prod.Lex.right _ (by simp)

/-- Replaces every reference among the arguments by the words it leads to. -/
def expand (workDir : Location) (r : Reader) (args : List String) :
    Except ExpansionError (List String) :=
  expandWithin workDir r [] args

/-! ## Equations -/

@[simp] theorem expandWithin_nil (workDir : Location) (r : Reader) (active : List Location) :
    expandWithin workDir r active [] = .ok [] := by
  rw [expandWithin]

theorem expandWithin_cons_of_plain {workDir : Location} {r : Reader} {active : List Location}
    {token : String} (h : reference? token = none) (rest : List String) :
    expandWithin workDir r active (token :: rest) =
      (expandWithin workDir r active rest).map (token :: ·) := by
  rw [expandWithin]
  split
  · rfl
  · simp_all

end ResponseFile

end CompilerDriver
