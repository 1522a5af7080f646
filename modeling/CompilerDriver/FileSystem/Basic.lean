import CompilerDriver.Path

/-!
# A file system as a value

Files, directories, symbolic links and devices, each at its own location.  The entries form a
table in which a location occurs once; the root is always a directory and is not listed.
-/

namespace CompilerDriver

/-- A file that stands for no bytes of its own. -/
inductive Device where
  /-- Takes every write and is empty. -/
  | null
  /-- Takes every write and never ends. -/
  | zero
  /-- Takes no write and never ends. -/
  | full
  /-- The stream that the reader has open under a number. -/
  | stream (number : Nat)
  | terminal
  /-- Hands on what is written to whoever reads. -/
  | queue
  deriving DecidableEq, Repr, Inhabited

inductive Entry where
  | file (content : List UInt8) (executable : Bool)
  /-- The image of an installed program. -/
  | program (name : String)
  | directory
  | link (target : String)
  | device (kind : Device)
  deriving DecidableEq, Repr, Inhabited

structure FileSystem where
  entries : List (Location × Entry)
  /-- Where relative paths start. -/
  workDir : Location
  /-- The path under which scratch directories are made, as a text. -/
  tempDir : String
  deriving DecidableEq, Repr

namespace FileSystem

def empty (workDir : Location) (tempDir : String) : FileSystem :=
  ⟨[], workDir, tempDir⟩

def entryAt? (fs : FileSystem) (l : Location) : Option Entry :=
  if l = [] then some .directory else fs.entries.lookup l

/-! ## Changing the table -/

/-- Replaces the entry at a location, or adds one at the end. -/
def upsert (l : Location) (e : Entry) : List (Location × Entry) → List (Location × Entry)
  | [] => [(l, e)]
  | row :: rows => if row.1 = l then (l, e) :: rows else row :: upsert l e rows

def put (fs : FileSystem) (l : Location) (e : Entry) : FileSystem :=
  { fs with entries := upsert l e fs.entries }

/-- Drops the entry at a location and everything below it. -/
def remove (fs : FileSystem) (l : Location) : FileSystem :=
  { fs with entries := fs.entries.filter fun row => !l.isPrefixOf row.1 }

/-- One change of the table. -/
inductive Change where
  | put (l : Location) (e : Entry)
  | remove (l : Location)
  deriving DecidableEq, Repr, Inhabited

def applyChange (fs : FileSystem) : Change → FileSystem
  | .put l e => fs.put l e
  | .remove l => fs.remove l

def applyChanges (fs : FileSystem) (changes : List Change) : FileSystem :=
  changes.foldl applyChange fs

/-- Nothing exists at the location or below it. -/
def IsFree (fs : FileSystem) (l : Location) : Prop :=
  ∀ row ∈ fs.entries, l.isPrefixOf row.1 = false

instance (fs : FileSystem) (l : Location) : Decidable (fs.IsFree l) :=
  inferInstanceAs (Decidable (∀ row ∈ fs.entries, _))

/-! ## Laws -/

theorem upsert_of_not_mem {l : Location} {rows : List (Location × Entry)} (e : Entry)
    (h : ∀ row ∈ rows, row.1 ≠ l) : upsert l e rows = rows ++ [(l, e)] := by
  induction rows with
  | nil => rfl
  | cons row rows ih =>
      rw [upsert, if_neg (h row (List.mem_cons_self ..)),
        ih fun r hr => h r (List.mem_cons_of_mem _ hr)]
      rfl

theorem remove_eq_self {fs : FileSystem} {l : Location} (h : fs.IsFree l) : fs.remove l = fs := by
  have : fs.entries.filter (fun row => !l.isPrefixOf row.1) = fs.entries :=
    List.filter_eq_self.2 fun row hrow => by simp [h row hrow]
  simp [remove, this]

private theorem filter_upsert_below {l m : Location} (hm : l.isPrefixOf m = true) (e : Entry)
    (rows : List (Location × Entry)) :
    (upsert m e rows).filter (fun row => !l.isPrefixOf row.1) =
      rows.filter (fun row => !l.isPrefixOf row.1) := by
  induction rows with
  | nil => simp [upsert, hm]
  | cons row rows ih =>
      rw [upsert]
      split
      · rename_i heq
        simp [heq, hm]
      · simp [List.filter_cons, ih]

private theorem filter_upsert_outside {l m : Location} (hm : l.isPrefixOf m = false) (e : Entry)
    (rows : List (Location × Entry)) :
    (upsert m e rows).filter (fun row => !l.isPrefixOf row.1) =
      upsert m e (rows.filter (fun row => !l.isPrefixOf row.1)) := by
  induction rows with
  | nil => simp [upsert, hm]
  | cons row rows ih =>
      rw [upsert]
      split
      · rename_i heq
        simp [heq, hm, upsert]
      · rename_i hne
        by_cases hr : l.isPrefixOf row.1 = true
        · simp [hr, ih]
        · simp [hr, upsert, hne, ih]

/-- What is put below a removed location goes with it. -/
theorem remove_put_below {l m : Location} (hm : l.isPrefixOf m = true) (fs : FileSystem)
    (e : Entry) : (fs.put m e).remove l = fs.remove l := by
  simp [remove, put, filter_upsert_below hm]

/-- What is put elsewhere stays. -/
theorem remove_put_outside {l m : Location} (hm : l.isPrefixOf m = false) (fs : FileSystem)
    (e : Entry) : (fs.put m e).remove l = (fs.remove l).put m e := by
  simp [remove, put, filter_upsert_outside hm]

/-- What lies below a removed location goes with it. -/
theorem remove_remove_below {l m : Location} (hm : l.isPrefixOf m = true) (fs : FileSystem) :
    (fs.remove m).remove l = fs.remove l := by
  simp only [remove, List.filter_filter]
  congr 1
  refine List.filter_congr fun row _ => ?_
  by_cases hl : l.isPrefixOf row.1 = true
  · simp [hl]
  · have : m.isPrefixOf row.1 = false := by
      refine Bool.eq_false_iff.2 fun hrow => hl ?_
      rw [List.isPrefixOf_iff_prefix] at hm hrow ⊢
      exact hm.trans hrow
    simp [hl, this]

theorem remove_remove_comm (fs : FileSystem) (l m : Location) :
    (fs.remove m).remove l = (fs.remove l).remove m := by
  simp only [remove, List.filter_filter]
  congr 1
  refine List.filter_congr fun row _ => ?_
  rw [Bool.and_comm]

@[simp] theorem workDir_put (fs : FileSystem) (l : Location) (e : Entry) :
    (fs.put l e).workDir = fs.workDir := rfl

@[simp] theorem tempDir_put (fs : FileSystem) (l : Location) (e : Entry) :
    (fs.put l e).tempDir = fs.tempDir := rfl

@[simp] theorem workDir_remove (fs : FileSystem) (l : Location) :
    (fs.remove l).workDir = fs.workDir := rfl

@[simp] theorem tempDir_remove (fs : FileSystem) (l : Location) :
    (fs.remove l).tempDir = fs.tempDir := rfl

end FileSystem

end CompilerDriver
