import CompilerDriver.Proofs.FileSystem.Changes

/-!
# Removal by path

A removal takes what its path leads to by then, with all that lies below, unless a path in it is too
long.  If it does not fail, the path leads to nothing any more.
-/

namespace CompilerDriver.FileSystem

section

variable {fs fs' : FileSystem} {l m : Location} {e : Entry} {path : String}

/-- The paths of all that lies at a location or below it are short enough for the system, where
the location is known by this path. -/
def InReach (fs : FileSystem) (path : String) (l : Location) : Prop :=
  ∀ row ∈ fs.entries, l <+: row.1 →
    (pathBelow path (row.1.drop l.length)).utf8ByteSize ≤ maxPathBytes

theorem pathBelow_nil (path : String) : pathBelow path [] = path := rfl

theorem pathBelow_singleton (path name : String) :
    pathBelow path [name] = path ++ "/" ++ name := rfl

theorem Flat.inReach (h : fs.Flat l)
    (hroom : path.utf8ByteSize + maxNameBytes < maxPathBytes) : fs.InReach path l := by
  intro row hrow hbelow
  rcases h row hrow hbelow with hself | ⟨-, name, hname, hsize⟩
  · rw [hself, List.drop_length, pathBelow_nil]
    omega
  · have hslash : "/".utf8ByteSize = 1 := rfl
    rw [hname, List.drop_left, pathBelow_singleton, String.utf8ByteSize_append,
      String.utf8ByteSize_append, hslash]
    omega

/-! ## Dropped entries -/

theorem lookup_filter_key (p : Location → Bool) (m : Location) (rows : List (Location × Entry)) :
    (rows.filter fun row => p row.1).lookup m = if p m then rows.lookup m else none := by
  induction rows with
  | nil => simp
  | cons row rows ih =>
      obtain ⟨l, e⟩ := row
      by_cases hrow : m = l
      · subst hrow
        cases hp : p m <;> simp [hp, ih]
      · have hother : (m == l) = false := beq_false_of_ne hrow
        cases hp : p l <;> simp [hp, ih, List.lookup_cons, hother]

/-- Where rows are dropped by their locations, an entry is still there or is gone. -/
theorem entryAt?_filter (p : Location → Bool) (fs : FileSystem) (m : Location) :
    ({ fs with entries := fs.entries.filter fun row => p row.1 } : FileSystem).entryAt? m =
      if m = [] ∨ p m then fs.entryAt? m else none := by
  unfold entryAt?
  by_cases hm : m = []
  · simp [hm]
  · simp [hm, lookup_filter_key]

theorem extends_remove (fs : FileSystem) (l : Location) : (fs.remove l).Extends fs := by
  intro m e h
  rw [remove, entryAt?_filter fun m => !l.isPrefixOf m] at h
  split at h
  · exact h
  · cases h

theorem entryAt?_removeUpTo (fs : FileSystem) (l stop m : Location) :
    (fs.removeUpTo l stop).entryAt? m = fs.entryAt? m ∨
      l <+: m ∧ (fs.removeUpTo l stop).entryAt? m = none := by
  rw [removeUpTo, entryAt?_filter fun m => !(l.isPrefixOf m && metBefore m stop && !m.isPrefixOf stop)]
  split
  · exact .inl rfl
  · rename_i hout
    simp only [Bool.not_eq_true', Bool.and_eq_false_iff, not_or, Bool.not_eq_false,
      List.isPrefixOf_iff_prefix] at hout
    exact .inr ⟨hout.2.1.1, rfl⟩

theorem entryAt?_removeUpTo_stop (fs : FileSystem) (l stop : Location) :
    (fs.removeUpTo l stop).entryAt? stop = fs.entryAt? stop := by
  rw [removeUpTo, entryAt?_filter fun m => !(l.isPrefixOf m && metBefore m stop && !m.isPrefixOf stop)]
  simp

/-! ## What a removal does -/

theorem firstMet_eq_none_iff {ls : List Location} : firstMet ls = none ↔ ls = [] := by
  cases ls <;> simp [firstMet]

theorem mem_of_firstMet {ls : List Location} (h : firstMet ls = some l) : l ∈ ls := by
  cases ls with
  | nil => cases h
  | cons first more =>
      obtain rfl := Option.some.inj h
      clear h
      induction more generalizing first with
      | nil => simp
      | cons m more ih =>
          rw [List.foldl_cons]
          -- the one that is met before goes on, and stands among all of them
          split
          · exact List.mem_cons_of_mem _ (ih m)
          · have hmem := ih first
            rw [List.mem_cons] at hmem ⊢
            exact hmem.imp_right (List.mem_cons_of_mem m)

theorem firstOutOfReach_eq_none_iff : fs.firstOutOfReach path l = none ↔ fs.InReach path l := by
  simp only [firstOutOfReach, firstMet_eq_none_iff, List.filter_eq_nil_iff, List.mem_map,
    Bool.and_eq_true, List.isPrefixOf_iff_prefix, decide_eq_true_eq]
  constructor
  · intro h row hrow hbelow
    exact Nat.not_lt.1 fun hlong => h row.1 ⟨row, hrow, rfl⟩ ⟨hbelow, hlong⟩
  · rintro h m ⟨row, hrow, rfl⟩ ⟨hbelow, hlong⟩
    exact absurd hlong (Nat.not_lt.2 (h row hrow hbelow))

theorem row_of_firstOutOfReach (h : fs.firstOutOfReach path l = some m) :
    ∃ row ∈ fs.entries, row.1 = m ∧ l <+: m ∧
      maxPathBytes < (pathBelow path (m.drop l.length)).utf8ByteSize := by
  have hmem := mem_of_firstMet h
  simp only [List.mem_filter, List.mem_map, Bool.and_eq_true, List.isPrefixOf_iff_prefix,
    decide_eq_true_eq] at hmem
  obtain ⟨⟨row, hrow, rfl⟩, hbelow, hlong⟩ := hmem
  exact ⟨row, hrow, rfl, hbelow, hlong⟩

theorem removePath_of_nothing (hnull : holdsNull path = false)
    (hnothing : fs.lookupSelfFrom fs.workDir path = .error .notFound ∨
      ∃ l, fs.lookupSelfFrom fs.workDir path = .ok (.free l)) :
    fs.removePath path = (.ok (), fs) := by
  rcases hnothing with hnothing | ⟨l, hnothing⟩ <;> simp [removePath, hnull, hnothing]

theorem removePath_of_refused (hnull : holdsNull path = false) {cause : SystemError}
    (hrefused : fs.lookupSelfFrom fs.workDir path = .error cause) (hcause : cause ≠ .notFound) :
    fs.removePath path = (.error (.refused cause "unlink" (some path)), fs) := by
  simp [removePath, hnull, hrefused]

theorem removePath_of_outOfReach (hnull : holdsNull path = false)
    (hleads : fs.lookupSelfFrom fs.workDir path = .ok (.entry l e))
    (hreach : fs.firstOutOfReach path l = some m) :
    fs.removePath path =
      (.error (.refused .nameTooLong "unlink" (some (pathBelow path (m.drop l.length)))),
        fs.removeUpTo l m) := by
  simp [removePath, hnull, hleads, hreach]

/-- All of what the path leads to is removed if none of it is out of reach. -/
theorem removePath_of_inReach (hnull : holdsNull path = false)
    (hleads : fs.lookupSelfFrom fs.workDir path = .ok (.entry l e)) (hreach : fs.InReach path l) :
    fs.removePath path = (.ok (), fs.remove l) := by
  simp [removePath, hnull, hleads, firstOutOfReach_eq_none_iff.2 hreach]

/-- Once a removal did not fail, its path leads to nothing, unless it is one of the root. -/
theorem eq_root_of_removePath (h : fs.removePath path = (.ok (), fs'))
    (hleads : fs'.lookupSelfFrom fs'.workDir path = .ok (.entry l e)) : l = [] := by
  simp only [removePath] at h
  split at h
  · cases h
  · split at h
    · rename_i hnothing
      cases h
      rw [hnothing] at hleads
      cases hleads
    · rename_i hnothing
      cases h
      rw [hnothing] at hleads
      cases hleads
    · cases h
    · rename_i m found hfound
      split at h
      · cases h
        have hentry := entryAt?_of_lookupSelfFrom hleads
        -- what is reached now was reached before, so it is what was removed
        have hbefore := lookupSelfFrom_of_keepsWays (extends_remove fs m).keepsWays
          (extends_remove fs m l e hentry) hleads
        rw [workDir_remove, hfound] at hbefore
        obtain ⟨rfl, -⟩ := Reached.entry.inj (Except.ok.inj hbefore)
        by_cases hroot : m = []
        · exact hroot
        · have hgone := entryAt?_of_isFree (isFree_remove fs m) hroot List.prefix_rfl
          cases hentry.symm.trans hgone
      · cases h

end

end CompilerDriver.FileSystem
