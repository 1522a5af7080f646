import CompilerDriver.Proofs.FileSystem.Lookup
import CompilerDriver.Proofs.Path
import Mathlib.Data.List.Induction

/-!
# Texts and walks

A path that is resolved on its text alone and a path that is opened can lead to different places,
since a walk follows links, and needs what it passes to exist.  They part only at steps up: where
each `..` leaves a directory that is no link, opening a path reaches what its resolved text says.
-/

namespace CompilerDriver

namespace FileSystem

/-! ## Paths that keep to their text -/

/-- All that is passed on the way down to a location, the location included, is a directory. -/
inductive Anchored (fs : FileSystem) : Location → Prop
  | root : Anchored fs []
  | inside {l : Location} {name : String} (habove : Anchored fs l) (hname : Path.IsOrdinary name)
      (hnull : '\x00' ∉ name.toList) (hsize : name.utf8ByteSize ≤ maxNameBytes)
      (hentry : fs.entryAt? (l ++ [name]) = some .directory) : Anchored fs (l ++ [name])

def start (fs : FileSystem) (path : String) : Location :=
  if Path.isAbsolute path then [] else fs.workDir

/-- The location that the text of some components leads to. -/
def place (fs : FileSystem) (path : String) (names : List String) : Location :=
  names.foldl Path.descend (fs.start path)

/-- Each step up in the path leaves a directory.  A link does not count as one, but there may be
links above the directory. -/
def Straight (fs : FileSystem) (path : String) : Prop :=
  ∀ before after, Path.components path = before ++ ".." :: after →
    ∃ l, fs.lookupSelfFrom [] (Location.text (fs.place path before)) = .ok (.entry l .directory)

/-- The names lead to a directory, and this many links may still be followed from there. -/
structure Leads (fs : FileSystem) (links : Nat) (here : Location) (names : List String)
    (left : Nat) (l : Location) : Prop where
  directory : fs.entryAt? l = some .directory
  walk_eq : ∀ more, fs.walk links here (names ++ more) = fs.walk left l more

section

variable {fs : FileSystem} {links left : Nat} {here l : Location} {names before rest : List String}
  {name path : String} {e : Entry} {r : Reached}

/-! ## Steps of a walk -/

theorem walk_eq_walkWith (fs : FileSystem) (links : Nat) :
    ∃ follow, fs.walk links = fs.walkWith follow := by
  cases links with
  | zero => exact ⟨_, rfl⟩
  | succ links => exact ⟨_, rfl⟩

theorem walk_nil_of_directory (hhere : fs.entryAt? here = some .directory) :
    fs.walk links here [] = .ok (.entry here .directory) := by
  obtain ⟨follow, hwalk⟩ := fs.walk_eq_walkWith links
  simp [hwalk, walkWith, hhere]

theorem walk_dot_cons (hhere : fs.entryAt? here = some .directory) :
    fs.walk links here ("." :: rest) = fs.walk links here rest := by
  obtain ⟨follow, hwalk⟩ := fs.walk_eq_walkWith links
  simp [hwalk, walkWith, hhere]

theorem walk_up_cons (hhere : fs.entryAt? here = some .directory) :
    fs.walk links here (".." :: rest) = fs.walk links here.dropLast rest := by
  obtain ⟨follow, hwalk⟩ := fs.walk_eq_walkWith links
  simp [hwalk, walkWith, hhere]

theorem walk_down_cons (hhere : fs.entryAt? here = some .directory) (hdot : name ≠ ".")
    (hup : name ≠ "..") (hsize : name.utf8ByteSize ≤ maxNameBytes)
    (hbelow : fs.entryAt? (here ++ [name]) = some e) (hlink : ∀ target, e ≠ .link target) :
    fs.walk links here (name :: rest) = fs.walk links (here ++ [name]) rest := by
  obtain ⟨follow, hwalk⟩ := fs.walk_eq_walkWith links
  rw [hwalk, walkWith, hhere]
  simp only [if_neg hdot, if_neg hup, if_neg (Nat.not_lt.2 hsize), hbelow]

theorem walk_too_long (hhere : fs.entryAt? here = some .directory) (hname : Path.IsOrdinary name)
    (hsize : maxNameBytes < name.utf8ByteSize) :
    fs.walk links here (name :: rest) = .error .nameTooLong := by
  obtain ⟨follow, hwalk⟩ := fs.walk_eq_walkWith links
  simp [hwalk, walkWith, hhere, hname.ne_dot, hname.ne_up, hsize]

/-- A walk to a name that is not there ends at the free name. -/
theorem walk_last_of_none (hhere : fs.entryAt? here = some .directory)
    (hname : Path.IsOrdinary name) (hnone : fs.entryAt? (here ++ [name]) = none) :
    fs.walk links here [name] = .ok r ↔
      name.utf8ByteSize ≤ maxNameBytes ∧ r = .free (here ++ [name]) := by
  by_cases hsize : maxNameBytes < name.utf8ByteSize
  · rw [walk_too_long hhere hname hsize]
    constructor
    · intro h
      cases h
    · rintro ⟨hle, -⟩
      omega
  · obtain ⟨follow, hwalk⟩ := fs.walk_eq_walkWith links
    have hreached : fs.walk links here [name] = .ok (.free (here ++ [name])) := by
      simp [hwalk, walkWith, hhere, hname.ne_dot, hname.ne_up, hsize, hnone]
    rw [hreached, Except.ok.injEq, eq_comm, and_iff_right (Nat.not_lt.1 hsize)]

/-! ## Where a walk goes on -/

theorem Leads.cons {first : String} {next : Location} (h : fs.Leads links next names left l)
    (hstep : ∀ more, fs.walk links here (first :: more) = fs.walk links next more) :
    fs.Leads links here (first :: names) left l where
  directory := h.directory
  walk_eq more := by rw [List.cons_append, hstep, h.walk_eq]

/-- A walk goes on behind some names, or it ends there in a directory. -/
def GoesOn (rest : List String) (r : Reached) : Prop :=
  rest = [] → ∃ l, r = .entry l .directory

theorem directory_of_walk (h : fs.walk links here rest = .ok r) (hon : GoesOn rest r) :
    fs.entryAt? here = some .directory := by
  obtain ⟨follow, hwalk⟩ := fs.walk_eq_walkWith links
  rw [hwalk] at h
  cases rest with
  | nil =>
      obtain ⟨l, rfl⟩ := hon rfl
      cases hhere : fs.entryAt? here with
      | none => simp [walkWith, hhere] at h
      | some found =>
          simp only [walkWith, hhere, Except.ok.injEq, Reached.entry.injEq] at h
          rw [h.2]
  | cons name rest =>
      rw [walkWith] at h
      cases hhere : fs.entryAt? here with
      | none => simp [hhere] at h
      | some found =>
          cases found with
          | directory => rfl
          | _ => simp [hhere] at h

/-- A step of a walk that goes on leads to another place, or hands the walk on at a link. -/
theorem step_of_goesOn {follow : Location → List String → Except SystemError Reached}
    (hwalk : fs.walk links = fs.walkWith follow) (hon : GoesOn rest r)
    (h : fs.walk links here (name :: rest) = .ok r) :
    (∃ next, ∀ more, fs.walk links here (name :: more) = fs.walk links next more) ∨
      ∃ next names, ∀ more, fs.walk links here (name :: more) = follow next (names ++ more) := by
  have hhere : fs.entryAt? here = some .directory := directory_of_walk h (by simp [GoesOn])
  by_cases hdot : name = "."
  · subst hdot
    exact .inl ⟨here, fun more => walk_dot_cons hhere⟩
  by_cases hup : name = ".."
  · subst hup
    exact .inl ⟨here.dropLast, fun more => walk_up_cons hhere⟩
  by_cases hsize : maxNameBytes < name.utf8ByteSize
  · simp [hwalk, walkWith, hhere, hdot, hup, hsize] at h
  cases hbelow : fs.entryAt? (here ++ [name]) with
  | none =>
      simp only [hwalk, walkWith, hhere, hdot, hup, hsize, hbelow, if_false] at h
      split at h
      · rename_i hnil
        obtain ⟨l, rfl⟩ := hon hnil
        cases h
      · cases h
  | some found =>
      cases found with
      | link target =>
          refine .inr ⟨if Path.isAbsolute target then [] else here, walkComponents target, ?_⟩
          intro more
          simp [hwalk, walkWith, hhere, hdot, hup, hsize, hbelow]
      | _ =>
          exact .inl ⟨here ++ [name], fun more =>
            walk_down_cons hhere hdot hup (Nat.not_lt.1 hsize) hbelow (by simp)⟩

/-- Names lead to a directory if the walk goes on behind them, provided that this is so after
links. -/
theorem exists_leads_of_follow {follow : Location → List String → Except SystemError Reached}
    (hwalk : fs.walk links = fs.walkWith follow) (hon : GoesOn rest r)
    (hfollow : ∀ {here names}, follow here (names ++ rest) = .ok r →
      ∃ left l, fs.entryAt? l = some .directory ∧
        ∀ more, follow here (names ++ more) = fs.walk left l more)
    (h : fs.walk links here (names ++ rest) = .ok r) :
    ∃ left l, fs.Leads links here names left l := by
  induction names generalizing here with
  | nil => exact ⟨links, here, directory_of_walk h hon, fun more => rfl⟩
  | cons first names ih =>
      have hon' : GoesOn (names ++ rest) r := fun hnil => hon (List.append_eq_nil_iff.1 hnil).2
      rcases step_of_goesOn hwalk hon' h with ⟨next, hstep⟩ | ⟨next, target, hstep⟩
      · rw [List.cons_append, hstep] at h
        obtain ⟨left, l, hleads⟩ := ih h
        exact ⟨left, l, hleads.cons hstep⟩
      · rw [List.cons_append, hstep, ← List.append_assoc] at h
        obtain ⟨left, l, hdirectory, hmore⟩ := hfollow h
        refine ⟨left, l, hdirectory, fun more => ?_⟩
        rw [List.cons_append, hstep, ← List.append_assoc, hmore]

theorem exists_leads (hon : GoesOn rest r) (h : fs.walk links here (names ++ rest) = .ok r) :
    ∃ left l, fs.Leads links here names left l := by
  induction links generalizing here names with
  | zero => exact exists_leads_of_follow rfl hon (fun h => by cases h) h
  | succ links ih =>
      refine exists_leads_of_follow rfl hon (fun h => ?_) h
      obtain ⟨left, l, hleads⟩ := ih h
      exact ⟨left, l, hleads.directory, hleads.walk_eq⟩

/-- A walk to `.` that reaches an entry leads to the directory that it reaches. -/
theorem exists_leads_of_dot (h : fs.walk links here (names ++ ["."]) = .ok (.entry l e)) :
    ∃ left, fs.Leads links here names left l := by
  obtain ⟨left, d, hleads⟩ := exists_leads (by simp [GoesOn]) h
  rw [hleads.walk_eq, walk_dot_cons hleads.directory, walk_nil_of_directory hleads.directory] at h
  obtain ⟨rfl, -⟩ := Reached.entry.inj (Except.ok.inj h)
  exact ⟨left, hleads⟩

theorem walk_insert_dot (hon : GoesOn rest r) (h : fs.walk links here (names ++ rest) = .ok r) :
    fs.walk links here (names ++ "." :: rest) = .ok r := by
  obtain ⟨left, l, hleads⟩ := exists_leads hon h
  rwa [hleads.walk_eq, walk_dot_cons hleads.directory, ← hleads.walk_eq]

theorem walk_drop_dot (h : fs.walk links here (names ++ "." :: rest) = .ok r) :
    fs.walk links here (names ++ rest) = .ok r := by
  obtain ⟨left, l, hleads⟩ := exists_leads (by simp [GoesOn]) h
  rwa [hleads.walk_eq, walk_dot_cons hleads.directory, ← hleads.walk_eq] at h

/-! ## Lexical locations -/

theorem Anchored.directory (h : fs.Anchored l) : fs.entryAt? l = some .directory := by
  cases h with
  | root => rfl
  | inside _ _ _ _ hentry => exact hentry

theorem Anchored.isOrdinary_and_no_null (h : fs.Anchored l) :
    ∀ name ∈ l, Path.IsOrdinary name ∧ '\x00' ∉ name.toList := by
  induction h with
  | root => simp
  | inside _ hname hnull _ _ ih =>
      intro other hother
      rcases List.mem_append.1 hother with hother | hother
      · exact ih other hother
      · rw [List.mem_singleton.1 hother]
        exact ⟨hname, hnull⟩

theorem Anchored.walk_eq (h : fs.Anchored l) (links : Nat) (rest : List String) :
    fs.walk links [] (l ++ rest) = fs.walk links l rest := by
  induction h generalizing rest with
  | root => rfl
  | inside habove hname _ hsize hentry ih =>
      rw [List.append_assoc, List.singleton_append, ih,
        walk_down_cons habove.directory hname.ne_dot hname.ne_up hsize hentry (by simp)]

theorem anchored_start (hwork : fs.Anchored fs.workDir) (path : String) :
    fs.Anchored (fs.start path) := by
  unfold start
  split
  · exact .root
  · exact hwork

theorem place_dot (fs : FileSystem) (path : String) (before : List String) :
    fs.place path (before ++ ["."]) = fs.place path before := by
  simp [place, Path.descend]

theorem place_up (fs : FileSystem) (path : String) (before : List String) :
    fs.place path (before ++ [".."]) = (fs.place path before).dropLast := by
  simp [place, Path.descend]

theorem place_down (hdot : name ≠ ".") (hup : name ≠ "..") :
    fs.place path (before ++ [name]) = fs.place path before ++ [name] := by
  simp [place, Path.descend, hdot, hup]

/-- Names are walked one after the other: the last one stays, goes up or goes down. -/
@[elab_as_elim]
theorem steps_induction {motive : List String → Prop} (nil : motive [])
    (dot : ∀ before, motive before → motive (before ++ ["."]))
    (up : ∀ before, motive before → motive (before ++ [".."]))
    (down : ∀ before name, name ≠ "." → name ≠ ".." → motive before → motive (before ++ [name]))
    (names : List String) : motive names := by
  induction names using List.reverseRecOn with
  | nil => exact nil
  | append_singleton before name ih =>
      by_cases hdot : name = "."
      · exact hdot ▸ dot before ih
      · by_cases hup : name = ".."
        · exact hup ▸ up before ih
        · exact down before name hdot hup ih

theorem isOrdinary_place (hwork : fs.Anchored fs.workDir) {after : List String}
    (hsplit : Path.components path = before ++ after) :
    ∀ name ∈ fs.place path before, Path.IsOrdinary name := by
  induction before using steps_induction generalizing after with
  | nil => exact fun name hname => ((anchored_start hwork path).isOrdinary_and_no_null name hname).1
  | dot before ih =>
      rw [place_dot]
      exact ih (by rw [hsplit, List.append_assoc])
  | up before ih =>
      rw [place_up]
      intro name hname
      exact ih (by rw [hsplit, List.append_assoc]) name (List.dropLast_subset _ hname)
  | down before last hdot hup ih =>
      rw [place_down hdot hup]
      intro name hname
      rcases List.mem_append.1 hname with hname | hname
      · exact ih (by rw [hsplit, List.append_assoc]) name hname
      · have hmem : last ∈ Path.components path := by simp [hsplit]
        rw [List.mem_singleton.1 hname]
        exact ⟨Path.isName_of_mem_components hmem, hdot, hup⟩

/-! ## Steps up -/

theorem text_eq_written (l : Location) : l.text = Path.written true l := rfl

theorem components_text (hnames : ∀ name ∈ l, Path.IsName name) : Path.components l.text = l := by
  rw [text_eq_written, Path.components_written hnames]

theorem endsInSlash_text_concat (hname : Path.IsName name) :
    Path.endsInSlash (Location.text (l ++ [name])) = false :=
  Path.endsInSlash_written hname true l

theorem walk_of_lookupSelfFrom_text {m : Location}
    (hnames : ∀ part ∈ l ++ [name], Path.IsOrdinary part)
    (h : fs.lookupSelfFrom [] (Location.text (l ++ [name])) = .ok (.entry m .directory)) :
    '\x00' ∉ (Location.text (l ++ [name])).toList ∧ name.utf8ByteSize ≤ maxNameBytes ∧
      ∃ parent e, fs.walk maxLinks [] (l ++ ["."]) = .ok (.entry parent e) ∧
        fs.entryAt? (parent ++ [name]) = some .directory := by
  have hname : Path.IsOrdinary name := hnames name (by simp)
  have hcomponents : Path.components (Location.text (l ++ [name])) = l ++ [name] :=
    components_text fun part hpart => (hnames part hpart).toIsName
  have hlast : (l ++ [name]).getLastD "." = name := by simp
  unfold lookupSelfFrom at h
  simp only [hcomponents, hlast, hname.ne_dot, hname.ne_up, endsInSlash_text_concat hname.toIsName,
    List.dropLast_concat, Bool.false_eq_true, false_or] at h
  split at h
  · rename_i hnull
    simp [lookupFrom, hnull] at h
  · rename_i hnull
    refine ⟨hnull, ?_⟩
    split at h
    · cases h
    · rename_i hsizes
      refine ⟨by omega, ?_⟩
      have habsolute : Path.isAbsolute (Location.text (l ++ [name])) = true := by
        simp [Location.text, Path.isAbsolute]
      rw [if_pos habsolute] at h
      split at h
      · cases h
      · cases h
      · rename_i parent e hwalk
        refine ⟨parent, e, hwalk, ?_⟩
        split at h
        · rename_i found hfound
          cases h
          exact hfound
        · cases h

/-- A step up from a directory leads back to where the directory stands. -/
theorem walk_concat_up {m : Location} (hnames : ∀ part ∈ l, Path.IsOrdinary part)
    (h : fs.lookupSelfFrom [] (Location.text l) = .ok (.entry m .directory))
    (rest : List String) :
    fs.walk maxLinks [] (l ++ ".." :: rest) = fs.walk maxLinks [] (l.dropLast ++ rest) := by
  rcases List.eq_nil_or_concat l with rfl | ⟨above, name, rfl⟩
  · exact walk_up_cons rfl
  · rw [List.concat_eq_append] at hnames h ⊢
    obtain ⟨-, hsize, parent, e, hwalk, hentry⟩ := walk_of_lookupSelfFrom_text hnames h
    have hname : Path.IsOrdinary name := hnames name (by simp)
    obtain ⟨left, hleads⟩ := exists_leads_of_dot hwalk
    calc fs.walk maxLinks [] (above ++ [name] ++ ".." :: rest)
      _ = fs.walk left parent (name :: ".." :: rest) := by
          rw [List.append_assoc, List.singleton_append, hleads.walk_eq]
      _ = fs.walk left (parent ++ [name]) (".." :: rest) :=
          walk_down_cons hleads.directory hname.ne_dot hname.ne_up hsize hentry (by simp)
      _ = fs.walk left parent rest := by
          rw [walk_up_cons hentry, List.dropLast_concat]
      _ = fs.walk maxLinks [] ((above ++ [name]).dropLast ++ rest) := by
          rw [List.dropLast_concat, hleads.walk_eq]

theorem Straight.of_single {after : List String}
    (hsplit : Path.components path = before ++ ".." :: after) (hbefore : ".." ∉ before)
    (hafter : ".." ∉ after)
    (h : fs.lookupSelfFrom [] (Location.text (fs.place path before)) = .ok (.entry l .directory)) :
    fs.Straight path := by
  intro before' after' hsplit'
  rw [hsplit, List.append_cons_inj_of_notMem hbefore hafter] at hsplit'
  obtain ⟨rfl, -, -⟩ := hsplit'
  exact ⟨l, h⟩

/-! ## Agreement -/

/-- What the walk of a straight path reaches is reached from where its text leads. -/
theorem walk_place_of_walk (hwork : fs.Anchored fs.workDir) (hstraight : fs.Straight path)
    {after : List String} (hsplit : Path.components path = before ++ after)
    (h : fs.walk maxLinks (fs.start path) (before ++ rest) = .ok r) :
    fs.walk maxLinks [] (fs.place path before ++ rest) = .ok r := by
  -- what is left of the walk grows as the induction goes to the front of the path
  induction before using steps_induction generalizing after rest with
  | nil =>
      rw [place, List.foldl_nil, (anchored_start hwork path).walk_eq]
      exact h
  | dot before ih =>
      rw [List.append_assoc, List.singleton_append] at hsplit h
      rw [place_dot]
      exact walk_drop_dot (ih hsplit h)
  | up before ih =>
      rw [List.append_assoc, List.singleton_append] at hsplit h
      have hplace := ih hsplit h
      obtain ⟨m, hdirectory⟩ := hstraight before after hsplit
      rwa [walk_concat_up (isOrdinary_place hwork hsplit) hdirectory, ← place_up] at hplace
  | down before name hdot hup ih =>
      rw [List.append_assoc, List.singleton_append] at hsplit h
      rw [place_down hdot hup, List.append_assoc, List.singleton_append]
      exact ih hsplit h

/-- What is reached from where the text of a straight path leads is what its walk reaches, but a
`.` at the end asks for a directory. -/
theorem walk_of_walk_place (hwork : fs.Anchored fs.workDir) (hstraight : fs.Straight path)
    {after : List String} (hsplit : Path.components path = before ++ after)
    (hon : before.getLast? = some "." → GoesOn rest r)
    (h : fs.walk maxLinks [] (fs.place path before ++ rest) = .ok r) :
    fs.walk maxLinks (fs.start path) (before ++ rest) = .ok r := by
  induction before using steps_induction generalizing after rest with
  | nil =>
      rwa [place, List.foldl_nil, (anchored_start hwork path).walk_eq] at h
  | dot before ih =>
      rw [List.append_assoc, List.singleton_append] at hsplit ⊢
      rw [place_dot] at h
      exact ih hsplit (fun _ => by simp [GoesOn]) (walk_insert_dot (hon (by simp)) h)
  | up before ih =>
      rw [List.append_assoc, List.singleton_append] at hsplit ⊢
      obtain ⟨m, hdirectory⟩ := hstraight before after hsplit
      rw [place_up, ← walk_concat_up (isOrdinary_place hwork hsplit) hdirectory] at h
      exact ih hsplit (fun _ => by simp [GoesOn]) h
  | down before name hdot hup ih =>
      rw [List.append_assoc, List.singleton_append] at hsplit ⊢
      rw [place_down hdot hup, List.append_assoc, List.singleton_append] at h
      exact ih hsplit (fun _ => by simp [GoesOn]) h

/-! ## Characters -/

theorem mem_text_iff {c : Char} (hc : c ≠ '/') :
    c ∈ (Location.text l).toList ↔ ∃ name ∈ l, c ∈ name.toList := by
  have hintercalate : c ∈ ("/".intercalate l).toList ↔ ∃ name ∈ l, c ∈ name.toList := by
    induction l with
    | nil => simp
    | cons name rest ih =>
        by_cases hrest : rest = []
        · subst hrest
          simp
        · rw [String.intercalate_cons_of_ne_nil hrest, String.toList_append, String.toList_append,
            List.mem_append, List.mem_append, ih]
          simp [hc]
  simpa [Location.text, hc] using hintercalate

theorem mem_place (fs : FileSystem) (path : String) :
    ∀ name ∈ fs.place path before, name ∈ fs.start path ∨ name ∈ before := by
  induction before using steps_induction with
  | nil => exact fun name hname => .inl hname
  | dot before ih =>
      rw [place_dot]
      exact fun name hname => (ih name hname).imp_right (List.mem_append_left _)
  | up before ih =>
      rw [place_up]
      intro name hname
      exact (ih name (List.dropLast_subset _ hname)).imp_right (List.mem_append_left _)
  | down before last hdot hup ih =>
      rw [place_down hdot hup]
      intro name hname
      rcases List.mem_append.1 hname with hname | hname
      · exact (ih name hname).imp_right (List.mem_append_left _)
      · exact .inr (List.mem_append_right _ hname)

theorem exists_null_mem_place (hwork : fs.Anchored fs.workDir) (hstraight : fs.Straight path)
    {after : List String} (hsplit : Path.components path = before ++ after)
    (hnull : ∃ name ∈ before, '\x00' ∈ name.toList) :
    ∃ name ∈ fs.place path before, '\x00' ∈ name.toList := by
  induction before using steps_induction generalizing after with
  | nil => simp at hnull
  | dot before ih =>
      rw [List.append_assoc] at hsplit
      rw [place_dot]
      exact ih hsplit (by simpa using hnull)
  | up before ih =>
      rw [List.append_assoc, List.singleton_append] at hsplit
      -- no directory has U+0000 in its path, so no step up can take it away
      obtain ⟨part, hpart, hzero⟩ := ih hsplit (by simpa using hnull)
      obtain ⟨m, hdirectory⟩ := hstraight before after hsplit
      have hordinary : ∀ name ∈ fs.place path before, Path.IsOrdinary name :=
        isOrdinary_place hwork hsplit
      have htext : '\x00' ∈ (Location.text (fs.place path before)).toList :=
        (mem_text_iff (by decide)).2 ⟨part, hpart, hzero⟩
      obtain ⟨above, last, habove⟩ :=
        (List.eq_nil_or_concat _).resolve_left (List.ne_nil_of_mem hpart)
      rw [habove, List.concat_eq_append] at hdirectory hordinary htext
      exact absurd htext (walk_of_lookupSelfFrom_text hordinary hdirectory).1
  | down before last hdot hup ih =>
      rw [List.append_assoc] at hsplit
      rw [place_down hdot hup]
      obtain ⟨name, hname, hmem⟩ := hnull
      rcases List.mem_append.1 hname with hname | hname
      · obtain ⟨part, hpart, hzero⟩ := ih hsplit ⟨name, hname, hmem⟩
        exact ⟨part, List.mem_append_left _ hpart, hzero⟩
      · exact ⟨name, List.mem_append_right _ hname, hmem⟩

end

/-! ## Opening a path -/

structure IsPath (path : String) : Prop where
  ne_empty : path ≠ ""
  no_null : '\x00' ∉ path.toList
  size_le : path.utf8ByteSize ≤ maxPathBytes

section

variable {fs : FileSystem} {l : Location} {path : String} {r : Reached}

theorem lookup_eq_ok_iff :
    fs.lookup path = .ok r ↔
      IsPath path ∧ fs.walk maxLinks (fs.start path) (walkComponents path) = .ok r := by
  unfold lookup lookupFrom
  by_cases hpath : path = "" ∨ '\x00' ∈ path.toList
  · rw [if_pos hpath]
    constructor
    · intro h
      cases h
    · rintro ⟨⟨hne, hnull, -⟩, -⟩
      exact absurd hpath (not_or.2 ⟨hne, hnull⟩)
  · rw [if_neg hpath]
    by_cases hsize : maxPathBytes < path.utf8ByteSize
    · rw [if_pos hsize]
      constructor
      · intro h
        cases h
      · rintro ⟨⟨-, -, hle⟩, -⟩
        omega
    · rw [if_neg hsize]
      obtain ⟨hne, hnull⟩ := not_or.1 hpath
      exact (and_iff_right ⟨hne, hnull, Nat.not_lt.1 hsize⟩).symm

theorem walk_resolve_of_lookup (hwork : fs.Anchored fs.workDir) (hstraight : fs.Straight path)
    (h : fs.lookup path = .ok r) :
    fs.walk maxLinks [] (Path.resolve fs.workDir path) = .ok r := by
  obtain ⟨-, hwalk⟩ := lookup_eq_ok_iff.1 h
  have hplace := walk_place_of_walk hwork hstraight (List.append_nil _).symm hwalk
  rw [← List.append_nil (Path.resolve fs.workDir path)]
  split at hplace
  · exact walk_drop_dot hplace
  · exact hplace

theorem lookup_of_walk_resolve (hwork : fs.Anchored fs.workDir) (hstraight : fs.Straight path)
    (hpath : IsPath path) (hon : (walkComponents path).getLast? = some "." → GoesOn [] r)
    (h : fs.walk maxLinks [] (Path.resolve fs.workDir path) = .ok r) :
    fs.lookup path = .ok r := by
  refine lookup_eq_ok_iff.2 ⟨hpath, ?_⟩
  rw [← List.append_nil (Path.resolve fs.workDir path)] at h
  unfold walkComponents at hon ⊢
  split
  · rename_i hend
    rw [if_pos hend] at hon
    have hdirectory : GoesOn [] r := hon (by simp)
    exact walk_of_walk_place hwork hstraight (List.append_nil _).symm (fun _ => by simp [GoesOn])
      (walk_insert_dot hdirectory h)
  · rename_i hend
    rw [if_neg hend, List.append_nil] at hon
    exact walk_of_walk_place hwork hstraight (List.append_nil _).symm hon h

/-! ## Directories -/

theorem isDirectory_iff : fs.isDirectory path = true ↔
    ∃ l, fs.lookup path = .ok (.entry l .directory) := by
  unfold isDirectory entryOf?
  cases h : fs.lookup path with
  | error cause => simp
  | ok r => cases r <;> simp

theorem lookup_text_eq_ok_iff (hnames : ∀ name ∈ l, Path.IsName name) :
    fs.lookup (Location.text l) = .ok r ↔
      IsPath (Location.text l) ∧ fs.walk maxLinks [] l = .ok r := by
  have hstart : fs.start (Location.text l) = [] := by
    simp [start, Location.text, Path.isAbsolute]
  rw [lookup_eq_ok_iff, hstart, walkComponents, components_text hnames]
  rcases List.eq_nil_or_concat l with rfl | ⟨above, name, rfl⟩
  · have hroot : Path.endsInSlash (Location.text []) = true := by decide
    rw [if_pos hroot, List.nil_append, walk_dot_cons rfl]
  · rw [List.concat_eq_append] at hnames ⊢
    rw [endsInSlash_text_concat (hnames name (by simp))]
    simp

/-- Whether a straight path leads to a directory can be told by where its text leads. -/
theorem isDirectory_text_resolve_iff (hwork : fs.Anchored fs.workDir)
    (hstraight : fs.Straight path) (hne : path ≠ "") (hsize : path.utf8ByteSize ≤ maxPathBytes)
    (hsize' : (Location.text (Path.resolve fs.workDir path)).utf8ByteSize ≤ maxPathBytes) :
    fs.isDirectory (Location.text (Path.resolve fs.workDir path)) = true ↔
      fs.isDirectory path = true := by
  have hnames : ∀ name ∈ Path.resolve fs.workDir path, Path.IsOrdinary name :=
    isOrdinary_place hwork (List.append_nil _).symm
  simp only [isDirectory_iff, lookup_text_eq_ok_iff fun name hname => (hnames name hname).toIsName]
  constructor
  · rintro ⟨l, ⟨-, hnull, -⟩, hwalk⟩
    have hpath : IsPath path := by
      refine ⟨hne, fun hmem => hnull ?_, hsize⟩
      rw [← Path.mem_components_iff (by decide)] at hmem
      exact (mem_text_iff (by decide)).2
        (exists_null_mem_place hwork hstraight (List.append_nil _).symm hmem)
    exact ⟨l, lookup_of_walk_resolve hwork hstraight hpath (fun _ _ => ⟨l, rfl⟩) hwalk⟩
  · rintro ⟨l, hlookup⟩
    refine ⟨l, ⟨by simp [Location.text], ?_, hsize'⟩,
      walk_resolve_of_lookup hwork hstraight hlookup⟩
    rw [mem_text_iff (by decide)]
    rintro ⟨name, hname, hmem⟩
    obtain ⟨⟨-, hnull, -⟩, -⟩ := lookup_eq_ok_iff.1 hlookup
    rcases mem_place fs path name hname with hstart | hcomponent
    · exact ((anchored_start hwork path).isOrdinary_and_no_null name hstart).2 hmem
    · exact hnull ((Path.mem_components_iff (by decide)).1 ⟨name, hcomponent, hmem⟩)

end

end FileSystem

end CompilerDriver
