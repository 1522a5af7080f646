import CompilerDriver.FileSystem.Lookup

/-!
# Walks and what they reach

What a walk reaches is there.  A walk whose last component is `.` reaches a directory or nothing,
whatever links it meets, so a path that ends in a slash names no file.  All that a walk needs on its
way are directories and links: where they are kept, it reaches the same entry as before.
-/

namespace CompilerDriver

namespace Reached

def location : Reached → Location
  | entry l _ | free l => l

def entry? : Reached → Option Entry
  | entry _ e => some e
  | free _ => none

end Reached

namespace FileSystem

/-! ## What is reached is there -/

section

variable {fs : FileSystem} {here : Location} {names : List String} {r : Reached}

theorem entryAt?_of_walkWith {follow : Location → List String → Except SystemError Reached}
    (hfollow : ∀ {here names}, follow here names = .ok r → fs.entryAt? r.location = r.entry?)
    (h : fs.walkWith follow here names = .ok r) : fs.entryAt? r.location = r.entry? := by
  fun_induction walkWith fs follow here names with
  | case1 here found hhere =>
      cases h
      exact hhere
  | case3 here rest hhere ih | case4 here rest hhere _ ih => exact ih h
  | case6 here name hhere hdot hup hsize hbelow =>
      cases h
      exact hbelow
  | case8 here name rest hhere hdot hup hsize target hbelow => exact hfollow h
  | case9 here name rest hhere hdot hup hsize below hlink hbelow ih => exact ih h
  | _ => cases h

theorem entryAt?_of_walk {links : Nat} (h : fs.walk links here names = .ok r) :
    fs.entryAt? r.location = r.entry? := by
  induction links generalizing here names with
  | zero => exact entryAt?_of_walkWith (fun h => by cases h) h
  | succ links ih => exact entryAt?_of_walkWith ih h

/-- There is a directory in which this would be the location of a name. -/
def HasParent (fs : FileSystem) (l : Location) : Prop :=
  ∃ parent name, l = parent ++ [name] ∧ name.utf8ByteSize ≤ maxNameBytes ∧
    fs.entryAt? parent = some .directory

theorem hasParent_of_walkWith {follow : Location → List String → Except SystemError Reached}
    {l : Location} (hfollow : ∀ {here names}, follow here names = .ok (.free l) → fs.HasParent l)
    (h : fs.walkWith follow here names = .ok (.free l)) : fs.HasParent l := by
  fun_induction walkWith fs follow here names with
  | case3 here rest hhere ih | case4 here rest hhere _ ih => exact ih h
  | case6 here name hhere hdot hup hsize hbelow =>
      cases h
      exact ⟨here, name, rfl, Nat.not_lt.1 hsize, hhere⟩
  | case8 here name rest hhere hdot hup hsize target hbelow => exact hfollow h
  | case9 here name rest hhere hdot hup hsize below hlink hbelow ih => exact ih h
  | _ => cases h

theorem hasParent_of_walk {links : Nat} {l : Location}
    (h : fs.walk links here names = .ok (.free l)) : fs.HasParent l := by
  induction links generalizing here names with
  | zero => exact hasParent_of_walkWith (fun h => by cases h) h
  | succ links ih => exact hasParent_of_walkWith ih h

end

/-! ## Walks to a directory -/

section

variable {fs : FileSystem} {here l : Location} {names : List String} {e : Entry}

/-- A walk to `.` ends at a directory if the walks that take over at links do. -/
theorem walkWith_dot {follow : Location → List String → Except SystemError Reached}
    (hfollow : ∀ {here names}, follow here (names ++ ["."]) = .ok (.entry l e) → e = .directory)
    (h : fs.walkWith follow here (names ++ ["."]) = .ok (.entry l e)) : e = .directory := by
  induction names generalizing here with
  | nil =>
      cases hhere : fs.entryAt? here with
      | none => simp [walkWith, hhere] at h
      | some found =>
          cases found <;> simp [walkWith, hhere] at h
          exact h.2.symm
  | cons name names ih =>
      rw [List.cons_append, walkWith] at h
      cases hhere : fs.entryAt? here with
      | none => simp [hhere] at h
      | some found =>
          cases found with
          | directory =>
              simp only [hhere] at h
              split at h
              · exact ih h
              · split at h
                · exact ih h
                · split at h
                  · cases h
                  · split at h
                    · simp at h
                    · -- the rest of the walk is handed on behind the link's target
                      rw [← List.append_assoc] at h
                      exact hfollow h
                    · exact ih h
          | _ => simp [hhere] at h

theorem walk_dot {links : Nat} (h : fs.walk links here (names ++ ["."]) = .ok (.entry l e)) :
    e = .directory := by
  induction links generalizing here names with
  | zero => exact walkWith_dot (fun h => by cases h) h
  | succ links ih => exact walkWith_dot ih h

/-- Where a walk stays in a directory, one more `.` changes nothing. -/
theorem walk_dot_dot {links : Nat} (h : fs.walk links here ["."] = .ok (.entry l e)) :
    fs.walk links here [".", "."] = .ok (.entry l e) := by
  have hstep {follow : Location → List String → Except SystemError Reached}
      (h : fs.walkWith follow here ["."] = .ok (.entry l e)) :
      fs.walkWith follow here [".", "."] = .ok (.entry l e) := by
    rw [walkWith]
    cases hhere : fs.entryAt? here with
    | none => simp [walkWith, hhere] at h
    | some found =>
        cases found with
        | directory => simpa using h
        | _ => simp [walkWith, hhere] at h
  cases links with
  | zero => exact hstep h
  | succ links => exact hstep h

end

theorem entryOf?_of_endsInSlash {fs : FileSystem} {path : String} {e : Entry}
    (hend : Path.endsInSlash path = true) (h : fs.entryOf? path = some e) : e = .directory := by
  unfold entryOf? at h
  split at h
  · rename_i hlookup
    cases h
    unfold lookup lookupFrom at hlookup
    split at hlookup
    · cases hlookup
    · split at hlookup
      · cases hlookup
      · rw [walkComponents, if_pos hend] at hlookup
        exact walk_dot hlookup
  · cases h

/-- A path that names a file does not end in a slash. -/
theorem endsInSlash_of_isFile {fs : FileSystem} {path : String} (h : fs.isFile path = true) :
    Path.endsInSlash path = false := by
  refine Bool.eq_false_iff.2 fun hend => ?_
  unfold isFile at h
  cases he : fs.entryOf? path with
  | none => simp [he] at h
  | some e =>
      obtain rfl := entryOf?_of_endsInSlash hend he
      simp [he] at h

theorem entryAt?_of_lookupFrom {fs : FileSystem} {here : Location} {path : String} {r : Reached}
    (h : fs.lookupFrom here path = .ok r) : fs.entryAt? r.location = r.entry? := by
  unfold lookupFrom at h
  split at h
  · cases h
  · split at h
    · cases h
    · exact entryAt?_of_walk h

theorem hasParent_of_lookupFrom {fs : FileSystem} {here l : Location} {path : String}
    (h : fs.lookupFrom here path = .ok (.free l)) : fs.HasParent l := by
  unfold lookupFrom at h
  split at h
  · cases h
  · split at h
    · cases h
    · exact hasParent_of_walk h

theorem entryAt?_of_lookupSelfFrom {fs : FileSystem} {here : Location} {path : String}
    {r : Reached} (h : fs.lookupSelfFrom here path = .ok r) :
    fs.entryAt? r.location = r.entry? := by
  simp only [lookupSelfFrom] at h
  split at h
  · exact entryAt?_of_lookupFrom h
  · split at h
    · cases h
    · split at h
      · cases h
      · cases h
      · split at h <;> cases h <;> assumption

/-! ## Other entries -/

end FileSystem

/-- A walk can go on from a directory, and by way of a link. -/
inductive Entry.IsWay : Entry → Prop
  | directory : IsWay .directory
  | link (target : String) : IsWay (.link target)

namespace FileSystem

/-- All entries of the first file system are in the second. -/
def Extends (fs fs' : FileSystem) : Prop :=
  ∀ l e, fs.entryAt? l = some e → fs'.entryAt? l = some e

/-- All directories and links of the first file system are in the second. -/
def KeepsWays (fs fs' : FileSystem) : Prop :=
  ∀ l e, fs.entryAt? l = some e → e.IsWay → fs'.entryAt? l = some e

section

variable {fs fs' : FileSystem} {links : Nat} {here l : Location} {names : List String} {e : Entry}
  {path : String}

theorem Extends.keepsWays (h : fs.Extends fs') : fs.KeepsWays fs' :=
  fun l e hentry _ => h l e hentry

theorem KeepsWays.refl (fs : FileSystem) : fs.KeepsWays fs :=
  fun _ _ hentry _ => hentry

theorem KeepsWays.trans {fs'' : FileSystem} (h : fs.KeepsWays fs') (h' : fs'.KeepsWays fs'') :
    fs.KeepsWays fs'' :=
  fun l e hentry hway => h' l e (h l e hentry hway) hway

/-- From anything but a directory a walk can go no further. -/
theorem eq_nil_of_walkWith {follow : Location → List String → Except SystemError Reached}
    {r : Reached} (hhere : fs.entryAt? here = some e)
    (h : fs.walkWith follow here names = .ok r) :
    e = .directory ∨ names = [] ∧ r = .entry here e := by
  cases names with
  | nil =>
      simp only [walkWith, hhere, Except.ok.injEq] at h
      exact .inr ⟨rfl, h.symm⟩
  | cons name names =>
      cases e with
      | directory => exact .inl rfl
      | _ => simp [walkWith, hhere] at h

/-- Where all ways are kept, and the entry that a walk reached, it is reached again if this is so
after links. -/
theorem walkWith_of_keepsWays {follow follow' : Location → List String → Except SystemError Reached}
    (hkeeps : fs.KeepsWays fs') (hend : fs'.entryAt? l = some e)
    (hfollow : ∀ {here names}, follow here names = .ok (.entry l e) →
      follow' here names = .ok (.entry l e))
    (h : fs.walkWith follow here names = .ok (.entry l e)) :
    fs'.walkWith follow' here names = .ok (.entry l e) := by
  fun_induction walkWith fs follow here names with
  | case1 here found hhere =>
      cases h
      rw [walkWith, hend]
  | case3 here rest hhere ih | case4 here rest hhere _ ih =>
      rw [walkWith, hkeeps _ _ hhere .directory]
      exact ih h
  | case8 here name rest hhere hdot hup hsize target hbelow =>
      rw [walkWith, hkeeps _ _ hhere .directory]
      simp only [hdot, hup, hsize, if_false, hkeeps _ _ hbelow (.link target)]
      exact hfollow h
  | case9 here name rest hhere hdot hup hsize below hlink hbelow ih =>
      rw [walkWith, hkeeps _ _ hhere .directory]
      simp only [hdot, hup, hsize, if_false]
      -- what is no directory can only be the entry that is reached
      rcases eq_nil_of_walkWith hbelow h with rfl | ⟨rfl, hlast⟩
      · rw [hkeeps _ _ hbelow .directory]
        exact ih h
      · cases hlast
        rw [hend]
        cases e with
        | link target => exact absurd rfl (hlink target)
        | _ => rw [walkWith, hend]
  | _ => cases h

theorem walk_of_keepsWays (hkeeps : fs.KeepsWays fs') (hend : fs'.entryAt? l = some e)
    (h : fs.walk links here names = .ok (.entry l e)) :
    fs'.walk links here names = .ok (.entry l e) := by
  induction links generalizing here names with
  | zero => exact walkWith_of_keepsWays hkeeps hend (fun h => by cases h) h
  | succ links ih => exact walkWith_of_keepsWays hkeeps hend ih h

/-- Entries that are added are in no walk's way that reached an entry without them. -/
theorem walk_of_extends (hextends : fs.Extends fs')
    (h : fs.walk links here names = .ok (.entry l e)) :
    fs'.walk links here names = .ok (.entry l e) :=
  walk_of_keepsWays hextends.keepsWays (hextends l e (entryAt?_of_walk h)) h

theorem lookupFrom_of_keepsWays (hkeeps : fs.KeepsWays fs') (hend : fs'.entryAt? l = some e)
    (h : fs.lookupFrom here path = .ok (.entry l e)) :
    fs'.lookupFrom here path = .ok (.entry l e) := by
  unfold lookupFrom at h ⊢
  split at h
  · cases h
  · rename_i hpath
    rw [if_neg hpath]
    split at h
    · cases h
    · rename_i hsize
      rw [if_neg hsize]
      exact walk_of_keepsWays hkeeps hend h

theorem lookupSelfFrom_of_keepsWays (hkeeps : fs.KeepsWays fs') (hend : fs'.entryAt? l = some e)
    (h : fs.lookupSelfFrom here path = .ok (.entry l e)) :
    fs'.lookupSelfFrom here path = .ok (.entry l e) := by
  simp only [lookupSelfFrom] at h ⊢
  split at h
  · rename_i hplain
    rw [if_pos hplain]
    exact lookupFrom_of_keepsWays hkeeps hend h
  · rename_i hplain
    rw [if_neg hplain]
    split at h
    · cases h
    · rename_i hsize
      rw [if_neg hsize]
      split at h
      · cases h
      · cases h
      · rename_i parent found hwalk
        obtain rfl := walk_dot hwalk
        have hparent := hkeeps parent .directory (entryAt?_of_walk hwalk) .directory
        rw [walk_of_keepsWays hkeeps hparent hwalk]
        split at h
        · cases h
          simp only [hend]
        · cases h

end

end FileSystem

end CompilerDriver
