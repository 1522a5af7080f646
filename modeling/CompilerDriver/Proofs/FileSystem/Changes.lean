import CompilerDriver.FileSystem.Access
import CompilerDriver.Proofs.FileSystem.Lookup

/-!
# Changes and what they leave alone

Dropping a directory after some changes undoes those inside it and keeps those outside.  A change
that neither makes nor drops an entry right in a directory leaves the number of its entries alone.
A file that is written is in no walk's way.
-/

namespace CompilerDriver.FileSystem

section

variable {fs : FileSystem} {l d : Location} {name : String} {e : Entry} {change : Change}
  {changes : List Change}

/-! ## Inside and outside a directory -/

def Change.location : Change → Location
  | .put l _ | .remove l => l

/-- The changes elsewhere than at a location or below it. -/
def outside (l : Location) (changes : List Change) : List Change :=
  changes.filter fun change => !l.isPrefixOf change.location

@[simp] theorem applyChanges_nil (fs : FileSystem) : fs.applyChanges [] = fs := rfl

@[simp] theorem applyChanges_cons (fs : FileSystem) (change : Change) (changes : List Change) :
    fs.applyChanges (change :: changes) = (fs.applyChange change).applyChanges changes := rfl

theorem applyChanges_append (fs : FileSystem) (first second : List Change) :
    fs.applyChanges (first ++ second) = (fs.applyChanges first).applyChanges second :=
  List.foldl_append

theorem workDir_applyChanges (fs : FileSystem) (changes : List Change) :
    (fs.applyChanges changes).workDir = fs.workDir := by
  induction changes generalizing fs with
  | nil => rfl
  | cons change changes ih =>
      rw [applyChanges_cons, ih]
      cases change <;> rfl

theorem remove_applyChange_of_inside (h : l.isPrefixOf change.location = true) (fs : FileSystem) :
    (fs.applyChange change).remove l = fs.remove l := by
  cases change with
  | put m e => exact remove_put_below h fs e
  | remove m => exact remove_remove_below h fs

theorem remove_applyChange_of_outside (h : l.isPrefixOf change.location = false)
    (fs : FileSystem) : (fs.applyChange change).remove l = (fs.remove l).applyChange change := by
  cases change with
  | put m e => exact remove_put_outside h fs e
  | remove m => exact remove_remove_comm fs l m

/-- Dropping a location afterwards undoes the changes inside it, and no others. -/
theorem remove_applyChanges (fs : FileSystem) (l : Location) (changes : List Change) :
    (fs.applyChanges changes).remove l = (fs.remove l).applyChanges (outside l changes) := by
  induction changes generalizing fs with
  | nil => rfl
  | cons change changes ih =>
      rw [applyChanges_cons, ih]
      cases hinside : l.isPrefixOf change.location with
      | true =>
          rw [remove_applyChange_of_inside hinside]
          simp [outside, hinside]
      | false =>
          rw [remove_applyChange_of_outside hinside]
          simp [outside, hinside]

theorem isFree_remove (fs : FileSystem) (l : Location) : (fs.remove l).IsFree l := by
  intro row hrow
  simpa using (List.mem_filter.1 hrow).2

/-- Nothing is found at a free location or below it. -/
theorem entryAt?_of_isFree {m : Location} (h : fs.IsFree l) (hne : l ≠ []) (hm : l <+: m) :
    fs.entryAt? m = none := by
  have hroot : m ≠ [] := by
    rintro rfl
    exact hne (List.prefix_nil.1 hm)
  rw [entryAt?, if_neg hroot, List.lookup_eq_none_iff]
  intro row hrow
  have hout := h row hrow
  rw [bne_iff_ne]
  rintro rfl
  rw [List.isPrefixOf_iff_prefix.2 hm] at hout
  cases hout

/-! ## New entries -/

theorem lookup_upsert_self (l : Location) (e : Entry) (rows : List (Location × Entry)) :
    (upsert l e rows).lookup l = some e := by
  induction rows with
  | nil => simp [upsert]
  | cons row rows ih =>
      rw [upsert]
      split
      · simp
      · rename_i hne
        rw [List.lookup_cons, beq_false_of_ne (Ne.symm hne), ih]

theorem lookup_upsert_of_ne {l m : Location} (hne : m ≠ l) (e : Entry)
    (rows : List (Location × Entry)) : (upsert l e rows).lookup m = rows.lookup m := by
  have hother : (m == l) = false := beq_false_of_ne hne
  induction rows with
  | nil => rw [upsert, List.lookup_cons, hother]
  | cons row rows ih =>
      rw [upsert]
      split
      · rename_i heq
        rw [List.lookup_cons, List.lookup_cons, heq, hother]
      · rw [List.lookup_cons, List.lookup_cons, ih]

theorem entryAt?_put_self {l : Location} (hne : l ≠ []) (fs : FileSystem) (e : Entry) :
    (fs.put l e).entryAt? l = some e := by
  rw [entryAt?, if_neg hne]
  exact lookup_upsert_self l e fs.entries

theorem entryAt?_put_of_ne {l m : Location} (hne : m ≠ l) (fs : FileSystem) (e : Entry) :
    (fs.put l e).entryAt? m = fs.entryAt? m := by
  rw [entryAt?, entryAt?]
  split
  · rfl
  · exact lookup_upsert_of_ne hne e fs.entries

theorem extends_put {fs : FileSystem} {l : Location} (hfree : fs.IsFree l) (hne : l ≠ []) (e : Entry) :
    fs.Extends (fs.put l e) := by
  intro m found hfound
  have hother : m ≠ l := by
    rintro rfl
    rw [entryAt?_of_isFree hfree hne List.prefix_rfl] at hfound
    cases hfound
  rw [entryAt?_put_of_ne hother, hfound]

/-! ## Written files -/

/-- A write lands at a file, or where nothing is. -/
theorem lookupFrom_of_writeTarget {here : Location} {path : String} {executable : Bool}
    (h : fs.writeTarget here path = .ok (.file l executable)) :
    (∃ found, fs.lookupFrom here path = .ok (.entry l found) ∧ ¬ found.IsWay) ∨
      fs.lookupFrom here path = .ok (.free l) := by
  simp only [writeTarget] at h
  by_cases hend : Path.endsInSlash path = true
  · rw [if_pos hend] at h
    cases hwalk : fs.walk maxLinks (if Path.isAbsolute path then [] else here)
        ((Path.components path).dropLast ++ ["."]) <;> simp [hwalk] at h
  · rw [if_neg hend] at h
    cases hlookup : fs.lookupFrom here path with
    | error cause => simp [hlookup] at h
    | ok r =>
        cases r with
        | free m =>
            simp only [hlookup, Except.ok.injEq, Target.file.injEq] at h
            obtain ⟨rfl, -⟩ := h
            exact .inr rfl
        | entry m e =>
            rw [hlookup] at h
            refine .inl ⟨e, ?_⟩
            cases e <;> cases h <;> exact ⟨rfl, nofun⟩

theorem not_isWay_of_writeTarget {here : Location} {path : String} {executable : Bool}
    (h : fs.writeTarget here path = .ok (.file l executable)) :
    ∀ found, fs.entryAt? l = some found → ¬ found.IsWay := by
  intro found hfound
  rcases lookupFrom_of_writeTarget h with ⟨e, hlookup, hway⟩ | hlookup
  · cases hfound.symm.trans (entryAt?_of_lookupFrom hlookup)
    exact hway
  · cases hfound.symm.trans (entryAt?_of_lookupFrom hlookup)

theorem keepsWays_of_writeChanges {path : String} {content : List UInt8}
    (h : fs.writeChanges path content = .ok changes) : fs.KeepsWays (fs.applyChanges changes) := by
  unfold writeChanges at h
  split at h
  · cases h
  · split at h
    · rename_i l executable htarget
      cases h
      intro m e hentry hway
      have hother : m ≠ l := by
        rintro rfl
        exact not_isWay_of_writeTarget htarget e hentry hway
      exact (entryAt?_put_of_ne hother fs _).trans hentry
    · split at h <;> cases h
      exact KeepsWays.refl fs
    · cases h
      exact KeepsWays.refl fs
    · cases h
      exact KeepsWays.refl fs
    · cases h
    · cases h

/-- Files are written one after the other, each one where its path leads by then. -/
inductive Writes : FileSystem → List Change → Prop
  | nil (fs : FileSystem) : Writes fs []
  | cons {fs : FileSystem} {path : String} {content : List UInt8} {first rest : List Change}
      (hfirst : fs.writeChanges path content = .ok first)
      (hrest : Writes (fs.applyChanges first) rest) : Writes fs (first ++ rest)

theorem Writes.keepsWays (h : fs.Writes changes) : fs.KeepsWays (fs.applyChanges changes) := by
  induction h with
  | nil fs => exact KeepsWays.refl fs
  | cons hfirst _ ih =>
      rw [applyChanges_append]
      exact (keepsWays_of_writeChanges hfirst).trans ih

/-! ## Files right in a directory -/

/-- What is below a location lies right in it, under a name that the system takes, and is no
directory. -/
def Flat (fs : FileSystem) (l : Location) : Prop :=
  ∀ row ∈ fs.entries, l <+: row.1 → row.1 = l ∨
    row.2 ≠ .directory ∧ ∃ name, row.1 = l ++ [name] ∧ name.utf8ByteSize ≤ maxNameBytes

theorem mem_of_mem_upsert {row : Location × Entry} {rows : List (Location × Entry)}
    (h : row ∈ upsert l e rows) : row = (l, e) ∨ row ∈ rows := by
  induction rows with
  | nil => exact .inl (List.mem_singleton.1 h)
  | cons first rows ih =>
      rw [upsert] at h
      split at h
      · exact (List.mem_cons.1 h).imp_right (List.mem_cons_of_mem _)
      · rcases List.mem_cons.1 h with rfl | h
        · exact .inr (List.mem_cons_self ..)
        · exact (ih h).imp_right (List.mem_cons_of_mem _)

theorem mem_of_entryAt? (h : fs.entryAt? l = some e) (hne : l ≠ []) : (l, e) ∈ fs.entries := by
  rw [entryAt?, if_neg hne] at h
  obtain ⟨before, after, hentries, -⟩ := List.lookup_eq_some_iff.1 h
  rw [hentries]
  exact List.mem_append_right _ (List.mem_cons_self ..)

theorem flat_put_self {l : Location} (hfree : fs.IsFree l) (e : Entry) : (fs.put l e).Flat l := by
  intro row hrow hbelow
  rcases mem_of_mem_upsert hrow with rfl | hrow
  · exact .inl rfl
  · have hout := hfree row hrow
    rw [List.isPrefixOf_iff_prefix.2 hbelow] at hout
    cases hout

/-- A write puts nothing below what is right in a flat directory. -/
theorem Flat.of_writeTarget (h : fs.Flat d) (hne : d ≠ []) {here : Location} {path : String}
    {executable : Bool} (htarget : fs.writeTarget here path = .ok (.file l executable))
    (hbelow : d <+: l) :
    l = d ∨ ∃ name, l = d ++ [name] ∧ name.utf8ByteSize ≤ maxNameBytes := by
  have hroot {m : Location} (hm : d <+: m) : m ≠ [] := by
    rintro rfl
    exact hne (List.prefix_nil.1 hm)
  rcases lookupFrom_of_writeTarget htarget with ⟨found, hlookup, -⟩ | hlookup
  · have hrow := mem_of_entryAt? (entryAt?_of_lookupFrom hlookup) (hroot hbelow)
    exact (h _ hrow hbelow).imp_right And.right
  · obtain ⟨parent, name, rfl, hsize, hparent⟩ := hasParent_of_lookupFrom hlookup
    rcases List.prefix_concat_iff.1 hbelow with heq | habove
    · exact .inl heq.symm
    · -- a directory in which a name is free is none of those right in the flat one
      rcases h _ (mem_of_entryAt? hparent (hroot habove)) habove with heq | ⟨hdirectory, -⟩
      · obtain rfl : parent = d := heq
        exact .inr ⟨name, rfl, hsize⟩
      · exact absurd rfl hdirectory

theorem Flat.of_writeChanges (h : fs.Flat d) (hne : d ≠ []) {path : String} {content : List UInt8}
    (hwrite : fs.writeChanges path content = .ok changes) : (fs.applyChanges changes).Flat d := by
  unfold writeChanges at hwrite
  split at hwrite
  · cases hwrite
  · split at hwrite
    · rename_i l executable htarget
      cases hwrite
      intro row hrow hbelow
      rcases mem_of_mem_upsert hrow with rfl | hrow
      · exact (h.of_writeTarget hne htarget hbelow).imp_right fun hname => ⟨nofun, hname⟩
      · exact h row hrow hbelow
    · split at hwrite <;> cases hwrite
      exact h
    · cases hwrite
      exact h
    · cases hwrite
      exact h
    · cases hwrite
    · cases hwrite

theorem Writes.flat (h : fs.Writes changes) (hne : d ≠ []) (hflat : fs.Flat d) :
    (fs.applyChanges changes).Flat d := by
  induction h with
  | nil fs => exact hflat
  | cons hfirst _ ih =>
      rw [applyChanges_append]
      exact ih (hflat.of_writeChanges hne hfirst)

/-! ## The entries of a directory -/

/-- The change makes or drops an entry right in a directory, or the directory itself. -/
def Change.Touches (d : Location) : Change → Prop
  | .put l _ => ∃ name, l = d ++ [name]
  | .remove l => ∃ name, l <+: d ++ [name]

theorem isChild_iff :
    (l.length == d.length + 1 && d.isPrefixOf l) = true ↔ ∃ name, l = d ++ [name] := by
  rw [Bool.and_eq_true, beq_iff_eq, List.isPrefixOf_iff_prefix]
  constructor
  · rintro ⟨hlength, rest, rfl⟩
    obtain ⟨name, rfl⟩ := List.length_eq_one_iff.1 (by simpa using hlength)
    exact ⟨name, rfl⟩
  · rintro ⟨name, rfl⟩
    simp

theorem filter_upsert_of_not {p : Location × Entry → Bool} (hold : ∀ old, p (l, old) = false)
    (e : Entry) (rows : List (Location × Entry)) : (upsert l e rows).filter p = rows.filter p := by
  induction rows with
  | nil => simp [upsert, hold]
  | cons row rows ih =>
      rw [upsert]
      split
      · obtain ⟨m, old⟩ := row
        rename_i heq
        obtain rfl : m = l := heq
        simp [hold]
      · simp [List.filter_cons, ih]

theorem countIn_put_of_not_child (h : ¬ ∃ name, l = d ++ [name]) (e : Entry) (fs : FileSystem) :
    (fs.put l e).countIn d = fs.countIn d := by
  have hchild : (l.length == d.length + 1 && d.isPrefixOf l) = false :=
    Bool.eq_false_iff.2 (mt isChild_iff.1 h)
  rw [countIn, countIn, put, filter_upsert_of_not fun _ => hchild]

theorem countIn_remove_of_no_child (h : ¬ ∃ name, l <+: d ++ [name]) (fs : FileSystem) :
    (fs.remove l).countIn d = fs.countIn d := by
  unfold countIn remove
  rw [List.filter_filter]
  congr 1
  refine List.filter_congr fun row _ => ?_
  cases hchild : (row.1.length == d.length + 1 && d.isPrefixOf row.1) with
  | false => simp
  | true =>
      obtain ⟨name, hname⟩ := isChild_iff.1 hchild
      have : l.isPrefixOf row.1 = false := by
        refine Bool.eq_false_iff.2 fun hprefix => h ⟨name, ?_⟩
        rw [← hname]
        exact List.isPrefixOf_iff_prefix.1 hprefix
      simp [this]

theorem countIn_applyChange (h : ¬ change.Touches d) (fs : FileSystem) :
    (fs.applyChange change).countIn d = fs.countIn d := by
  cases change with
  | put l e => exact countIn_put_of_not_child h e fs
  | remove l => exact countIn_remove_of_no_child h fs

/-- Changes that do not touch a directory keep the number of its entries. -/
theorem countIn_applyChanges (h : ∀ change ∈ changes, ¬ change.Touches d) (fs : FileSystem) :
    (fs.applyChanges changes).countIn d = fs.countIn d := by
  induction changes generalizing fs with
  | nil => rfl
  | cons change changes ih =>
      obtain ⟨hchange, hchanges⟩ := List.forall_mem_cons.1 h
      rw [applyChanges_cons, ih hchanges, countIn_applyChange hchange]

/-- A new entry is one more in its directory. -/
theorem countIn_put_of_isFree (h : fs.IsFree (d ++ [name])) (e : Entry) :
    (fs.put (d ++ [name]) e).countIn d = fs.countIn d + 1 := by
  have hnew : ∀ row ∈ fs.entries, row.1 ≠ d ++ [name] := by
    intro row hrow heq
    have hout := h row hrow
    rw [heq, List.isPrefixOf_iff_prefix.2 List.prefix_rfl] at hout
    cases hout
  rw [countIn, countIn, put, upsert_of_not_mem e hnew, List.filter_append, List.length_append]
  simp

end

end CompilerDriver.FileSystem
