import CompilerDriver.Path
import Mathlib.Data.List.Basic

/-!
# Names and normal forms

What the components of a text are, where its name stands in it, and what joining a name to a
directory writes.  A text is in normal form when `..` occurs at its start only, and in an absolute
one not at all; then joining a name adds a slash and the name, and the result is a child of the
directory.
-/

namespace CompilerDriver

namespace Text

variable {α : Type} {p : α → Bool}

theorem fields_append_cons {a : α} (h : p a) (before after : List α) :
    fields p (before ++ a :: after) = fields p before ++ fields p after := by
  rw [fields, splitWhere_append_cons h, List.filter_append]
  rfl

theorem fields_of_none {as : List α} (hne : as ≠ []) (h : ∀ a ∈ as, p a = false) :
    fields p as = [as] := by
  simp [fields, splitWhere_of_none h, hne]

theorem fields_of_all {as : List α} (h : ∀ a ∈ as, p a = true) : fields p as = [] := by
  induction as with
  | nil => rfl
  | cons a as ih =>
      obtain ⟨ha, has⟩ := List.forall_mem_cons.1 h
      have hfirst := fields_append_cons ha [] as
      rw [List.nil_append, ih has] at hfirst
      exact hfirst

theorem fields_append_of_all {after : List α} (h : ∀ a ∈ after, p a = true) (before : List α) :
    fields p (before ++ after) = fields p before := by
  cases after with
  | nil => rw [List.append_nil]
  | cons a after =>
      obtain ⟨ha, hafter⟩ := List.forall_mem_cons.1 h
      rw [fields_append_cons ha, fields_of_all hafter, List.append_nil]

/-- The pieces hold everything but the separators. -/
theorem flatten_splitWhere (as : List α) :
    (splitWhere p as).flatten = as.filter fun a => !p a := by
  induction as with
  | nil => rfl
  | cons a rest ih =>
      rw [splitWhere]
      split
      · rename_i ha
        simp [ih, ha]
      · rename_i ha
        cases hs : splitWhere p rest with
        | nil => exact absurd hs (splitWhere_ne_nil p rest)
        | cons piece pieces =>
            rw [hs] at ih
            simp [← ih, ha]

theorem flatten_fields (as : List α) : (fields p as).flatten = as.filter fun a => !p a := by
  rw [← flatten_splitWhere, fields]
  exact List.flatten_filter_not_isEmpty

/-- A list that does not end at a separator ends with its last piece. -/
theorem getLast?_fields {as : List α} {last : α} (hlast : as.getLast? = some last)
    (hp : p last = false) :
    ∃ piece, (fields p as).getLast? = some piece ∧ piece <:+ as := by
  by_cases hnone : ∀ a ∈ as, p a = false
  · have hne : as ≠ [] := by
      rintro rfl
      cases hlast
    exact ⟨as, by rw [fields_of_none hne hnone]; rfl, List.suffix_rfl⟩
  · obtain ⟨sep, hmem, hsep⟩ : ∃ sep ∈ as, p sep = true := by simpa using hnone
    obtain ⟨before, after, rfl⟩ := List.append_of_mem hmem
    -- the separator is not the last element, so the piece lies behind it
    have hafter : after.getLast? = some last := by
      cases after with
      | nil =>
          obtain rfl : sep = last := by simpa using hlast
          rw [hsep] at hp
          cases hp
      | cons a after => simpa using hlast
    obtain ⟨piece, hpiece, hsuffix⟩ := getLast?_fields hafter hp
    refine ⟨piece, ?_, hsuffix.trans ⟨before ++ [sep], by simp⟩⟩
    rw [fields_append_cons hsep, List.getLast?_append, hpiece]
    rfl
termination_by as.length

end Text

namespace Path

/-! ## Names -/

/-- A text that can be one component. -/
structure IsName (name : String) : Prop where
  ne_empty : name ≠ ""
  no_slash : '/' ∉ name.toList

theorem IsName.length_pos {name : String} (h : IsName name) : 0 < name.toList.length :=
  List.length_pos_iff.2 (mt String.toList_eq_nil_iff.1 h.ne_empty)

/-- A name that stands for itself, neither `.` nor `..`. -/
structure IsOrdinary (name : String) : Prop extends IsName name where
  ne_dot : name ≠ "."
  ne_up : name ≠ ".."

theorem isOrdinary_of_length {name : String} (hslash : '/' ∉ name.toList)
    (hlength : 2 < name.toList.length) : IsOrdinary name where
  ne_empty := by
    rintro rfl
    simp at hlength
  no_slash := hslash
  ne_dot := by
    rintro rfl
    simp at hlength
  ne_up := by
    rintro rfl
    simp at hlength

theorem isOrdinary_append {name ending : String} (hname : '/' ∉ name.toList)
    (hending : '/' ∉ ending.toList) (hlength : 2 < name.toList.length + ending.toList.length) :
    IsOrdinary (name ++ ending) := by
  refine isOrdinary_of_length ?_ ?_
  · rw [String.toList_append, List.mem_append]
    rintro (hslash | hslash)
    · exact hname hslash
    · exact hending hslash
  · rwa [String.toList_append, List.length_append]

theorem isName_of_mem_components {path name : String} (h : name ∈ components path) :
    IsName name := by
  obtain ⟨piece, hpiece, rfl⟩ := List.mem_map.1 h
  obtain ⟨hmem, hne⟩ := Text.mem_fields.1 hpiece
  refine ⟨by simpa using hne, ?_⟩
  intro hslash
  have := Text.not_sep_of_mem_splitWhere hmem '/' (by simpa using hslash)
  simp at this

theorem stem_no_slash (path : String) : '/' ∉ (stem path).toList := by
  intro hslash
  have hbase : '/' ∈ (baseName path).toList := by
    rw [← stem_append_extension, String.toList_append]
    exact List.mem_append_left _ hslash
  unfold baseName at hbase
  cases hlast : (components path).getLast? with
  | none => simp [hlast] at hbase
  | some name =>
      rw [hlast] at hbase
      exact (isName_of_mem_components (List.mem_of_getLast? hlast)).no_slash hbase

theorem cutExtension_fst_ne_nil {name : List Char} (h : (cutExtension name).2 ≠ []) :
    (cutExtension name).1 ≠ [] := by
  unfold cutExtension at h ⊢
  split at h
  · exact absurd rfl h
  · rename_i dot before hcut
    split at h
    · exact absurd rfl h
    · rename_i hwhole
      have hbefore : before ≠ [] := fun hnil => hwhole (.inl hnil)
      simpa [hcut, hwhole] using hbefore

theorem stem_ne_empty {path : String} (h : extension path ≠ "") : stem path ≠ "" := by
  have hcut : (cutExtension (baseName path).toList).2 ≠ [] := by
    simpa [extension] using h
  simpa [stem] using cutExtension_fst_ne_nil hcut

theorem getLast?_components {path : String} (h : baseName path ≠ "") :
    (components path).getLast? = some (baseName path) := by
  unfold baseName at h ⊢
  cases hlast : (components path).getLast? with
  | none => simp [hlast] at h
  | some name => rfl

theorem components_of_isName {name : String} (h : IsName name) : components name = [name] := by
  have hnone : ∀ c ∈ name.toList, (c == '/') = false := by
    intro c hc
    have : c ≠ '/' := fun heq => h.no_slash (heq ▸ hc)
    simpa using this
  rw [components, Text.fields_of_none (mt String.toList_eq_nil_iff.1 h.ne_empty) hnone]
  simp

@[simp] theorem components_append_slash (before after : String) :
    components (before ++ "/" ++ after) = components before ++ components after := by
  simp [components, Text.fields_append_cons]

theorem components_child {name : String} (hname : IsName name) (directory : String) :
    components (directory ++ "/" ++ name) = components directory ++ [name] := by
  rw [components_append_slash, components_of_isName hname]

@[simp] theorem components_end_slash (path : String) :
    components (path ++ "/") = components path := by
  have hslash := components_append_slash path ""
  rw [String.append_empty] at hslash
  rw [hslash]
  exact List.append_nil _

theorem mem_components_iff {path : String} {c : Char} (hc : c ≠ '/') :
    (∃ name ∈ components path, c ∈ name.toList) ↔ c ∈ path.toList := by
  have hflatten : (Text.fields (· == '/') path.toList).flatten =
      path.toList.filter fun c => !(c == '/') := Text.flatten_fields _
  have hmem := congrArg (c ∈ ·) hflatten
  simpa [components, hc] using hmem

/-- The name of a path stands at its end. -/
theorem baseName_suffix {path : String} (h : endsInSlash path = false) :
    (baseName path).toList <:+ path.toList := by
  unfold baseName components
  cases hlast : path.toList.getLast? with
  | none =>
      rw [List.getLast?_eq_none_iff.1 hlast]
      simp [Text.fields]
  | some last =>
      have hslash : (last == '/') = false := by simpa [endsInSlash, hlast] using h
      obtain ⟨piece, hpiece, hsuffix⟩ := Text.getLast?_fields (p := (· == '/')) hlast hslash
      simpa [List.getLast?_map, hpiece] using hsuffix

theorem extension_suffix {path : String} (h : endsInSlash path = false) :
    (extension path).toList <:+ path.toList := by
  refine List.IsSuffix.trans ?_ (baseName_suffix h)
  rw [← stem_append_extension, String.toList_append]
  exact List.suffix_append ..

/-! ## Resolution -/

theorem descend_ordinary {name : String} (hname : IsOrdinary name) (here : Location) :
    descend here name = here ++ [name] := by
  rw [descend, if_neg hname.ne_dot, if_neg hname.ne_up]

/-- An ordinary name at the end of a path stays there when the path is resolved. -/
theorem getLast?_resolve {path name : String} (hlast : (components path).getLast? = some name)
    (hname : IsOrdinary name) (here : Location) : (resolve here path).getLast? = some name := by
  obtain ⟨above, habove⟩ := List.getLast?_eq_some_iff.1 hlast
  rw [resolve, habove, List.foldl_append, List.foldl_cons, List.foldl_nil, descend_ordinary hname,
    List.getLast?_concat]

theorem resolve_ne_of_last {path path' name name' : String}
    (hlast : (components path).getLast? = some name) (hname : IsOrdinary name)
    (hlast' : (components path').getLast? = some name') (hname' : IsOrdinary name')
    (hne : name ≠ name') (here : Location) : resolve here path ≠ resolve here path' := by
  intro heq
  have hsame : some name = some name' := by
    rw [← getLast?_resolve hlast hname here, heq, getLast?_resolve hlast' hname' here]
  exact hne (Option.some.inj hsame)

/-! ## Normal forms -/

/-- Components of a path in normal form: steps up come first, and an absolute path has none. -/
def Normal (absolute : Bool) (parts : List String) : Prop :=
  ∃ up names, parts = List.replicate up ".." ++ names ∧
    (∀ name ∈ names, name ≠ "." ∧ name ≠ "..") ∧ (absolute = true → up = 0)

theorem Normal.descendNormal {absolute : Bool} {parts : List String} (h : Normal absolute parts)
    (name : String) : Normal absolute (descendNormal absolute parts name) := by
  obtain ⟨up, names, rfl, hnames, hup⟩ := h
  unfold Path.descendNormal
  split
  · exact ⟨up, names, rfl, hnames, hup⟩
  · split
    · rcases List.eq_nil_or_concat names with rfl | ⟨names, last, rfl⟩
      · -- only steps up so far: one more, unless at the root
        have hlast : (List.replicate up "..").getLast?.any (· != "..") = false := by
          cases up <;> simp [List.getLast?_replicate]
        simp only [List.append_nil, hlast, Bool.false_eq_true, if_false]
        split
        · exact ⟨up, [], by simp, by simp, hup⟩
        · refine ⟨up + 1, [], by simp [List.replicate_succ'], by simp, ?_⟩
          intro habsolute
          contradiction
      · have hlast := hnames last (by simp)
        simp only [List.concat_eq_append, ← List.append_assoc, List.getLast?_concat, Option.any_some,
          bne_iff_ne, ne_eq, hlast.2, not_false_eq_true, if_true, List.dropLast_concat]
        exact ⟨up, names, rfl, fun name hname => hnames name (by simp [hname]), hup⟩
    · refine ⟨up, names ++ [name], by simp, ?_, hup⟩
      intro other hother
      rcases List.mem_append.1 hother with hother | hother
      · exact hnames other hother
      · rw [List.mem_singleton.1 hother]
        exact ⟨by assumption, by assumption⟩

theorem normal_foldl {absolute : Bool} {done : List String} (h : Normal absolute done)
    (names : List String) : Normal absolute (names.foldl (descendNormal absolute) done) := by
  induction names generalizing done with
  | nil => exact h
  | cons name names ih => exact ih (h.descendNormal name)

theorem normal_nil (absolute : Bool) : Normal absolute [] :=
  ⟨0, [], by simp, by simp, fun _ => rfl⟩

theorem descendNormal_ordinary {absolute : Bool} {name : String} (hname : IsOrdinary name)
    (done : List String) : descendNormal absolute done name = done ++ [name] := by
  rw [descendNormal, if_neg hname.ne_dot, if_neg hname.ne_up]

theorem Normal.concat {absolute : Bool} {parts : List String} {name : String}
    (h : Normal absolute parts) (hname : IsOrdinary name) : Normal absolute (parts ++ [name]) := by
  rw [← descendNormal_ordinary hname]
  exact h.descendNormal name

theorem isName_foldl {absolute : Bool} {names done : List String}
    (hnames : ∀ name ∈ names, IsName name) (hdone : ∀ part ∈ done, IsName part) :
    ∀ part ∈ names.foldl (Path.descendNormal absolute) done, IsName part := by
  induction names generalizing done with
  | nil => exact hdone
  | cons name names ih =>
      obtain ⟨hname, hnames⟩ := List.forall_mem_cons.1 hnames
      refine ih hnames ?_
      intro part hpart
      unfold Path.descendNormal at hpart
      split at hpart
      · exact hdone part hpart
      · split at hpart
        · rename_i hup
          split at hpart
          · exact hdone part (List.dropLast_subset _ hpart)
          · split at hpart
            · exact hdone part hpart
            · rcases List.mem_append.1 hpart with hpart | hpart
              · exact hdone part hpart
              · rw [List.mem_singleton.1 hpart, ← hup]
                exact hname
        · rcases List.mem_append.1 hpart with hpart | hpart
          · exact hdone part hpart
          · rw [List.mem_singleton.1 hpart]
            exact hname

theorem foldl_names {absolute : Bool} {names : List String}
    (hnames : ∀ name ∈ names, name ≠ "." ∧ name ≠ "..") (done : List String) :
    names.foldl (descendNormal absolute) done = done ++ names := by
  induction names generalizing done with
  | nil => simp
  | cons name names ih =>
      obtain ⟨⟨hdot, hup⟩, hnames⟩ := List.forall_mem_cons.1 hnames
      rw [List.foldl_cons, ih hnames, descendNormal, if_neg hdot, if_neg hup]
      simp

theorem foldl_steps_up (up : Nat) :
    (List.replicate up "..").foldl (descendNormal false) [] = List.replicate up ".." := by
  induction up with
  | zero => rfl
  | succ up ih =>
      have hlast : (List.replicate up "..").getLast?.any (· != "..") = false := by
        cases up <;> simp [List.getLast?_replicate]
      rw [List.replicate_succ', List.foldl_append, ih, List.foldl_cons, List.foldl_nil,
        descendNormal, if_neg (by decide), if_pos rfl, hlast]
      simp

theorem Normal.foldl {absolute : Bool} {parts : List String} (h : Normal absolute parts) :
    parts.foldl (Path.descendNormal absolute) [] = parts := by
  obtain ⟨up, names, rfl, hnames, hup⟩ := h
  rw [List.foldl_append, foldl_names hnames]
  cases absolute with
  | true => simp [hup rfl]
  | false => rw [foldl_steps_up]

/-! ## Joining -/

/-- The text of components. -/
def written (absolute : Bool) (parts : List String) : String :=
  (if absolute then "/" else "") ++ "/".intercalate parts

theorem written_concat {absolute : Bool} {parts : List String} (hne : parts ≠ []) (name : String) :
    written absolute (parts ++ [name]) = written absolute parts ++ "/" ++ name := by
  rw [written, String.intercalate_append_of_ne_nil hne (by simp), String.intercalate_singleton,
    written, String.append_assoc, String.append_assoc, String.append_assoc]

/-- Characters behind the last component lengthen it. -/
theorem written_append (absolute : Bool) (parts : List String) (name more : String) :
    written absolute (parts ++ [name]) ++ more = written absolute (parts ++ [name ++ more]) := by
  by_cases hne : parts = []
  · subst hne
    simp [written, String.append_assoc]
  · rw [written_concat hne, written_concat hne, String.append_assoc]

theorem components_intercalate {parts : List String} (hparts : ∀ name ∈ parts, IsName name) :
    components ("/".intercalate parts) = parts := by
  induction parts with
  | nil => rfl
  | cons name parts ih =>
      obtain ⟨hname, hparts⟩ := List.forall_mem_cons.1 hparts
      by_cases hne : parts = []
      · subst hne
        rw [String.intercalate_singleton, components_of_isName hname]
      · rw [String.intercalate_cons_of_ne_nil hne, components_append_slash,
          components_of_isName hname, ih hparts]
        rfl

theorem components_written {absolute : Bool} {parts : List String}
    (hparts : ∀ name ∈ parts, IsName name) : components (written absolute parts) = parts := by
  cases absolute with
  | false => simpa [written] using components_intercalate hparts
  | true =>
      have hslash := components_append_slash "" ("/".intercalate parts)
      rw [components_intercalate hparts] at hslash
      simpa [written, components, Text.fields] using hslash

theorem written_ne_empty {absolute : Bool} {parts : List String} (hne : parts ≠ [])
    (hparts : ∀ name ∈ parts, IsName name) : written absolute parts ≠ "" := by
  intro hempty
  have hcomponents : components (written absolute parts) = parts := components_written hparts
  rw [hempty] at hcomponents
  exact hne (hcomponents.symm.trans (by simp [components, Text.fields]))

theorem isAbsolute_append {path : String} (hne : path ≠ "") (more : String) :
    isAbsolute (path ++ more) = isAbsolute path := by
  obtain ⟨c, cs, hcs⟩ := List.exists_cons_of_ne_nil (mt String.toList_eq_nil_iff.1 hne)
  simp [isAbsolute, hcs]

theorem isAbsolute_of_isName {name : String} (h : IsName name) : isAbsolute name = false := by
  obtain ⟨c, cs, hcs⟩ := List.exists_cons_of_ne_nil (mt String.toList_eq_nil_iff.1 h.ne_empty)
  have hc : c ≠ '/' := by
    rintro rfl
    exact h.no_slash (hcs ▸ List.mem_cons_self ..)
  simp [isAbsolute, hcs, hc]

theorem isAbsolute_written {absolute : Bool} {parts : List String} (hne : parts ≠ [])
    (hparts : ∀ name ∈ parts, IsName name) : isAbsolute (written absolute parts) = absolute := by
  cases absolute with
  | true => simp [written, isAbsolute]
  | false =>
      obtain ⟨name, parts, rfl⟩ := List.exists_cons_of_ne_nil hne
      obtain ⟨hname, -⟩ := List.forall_mem_cons.1 hparts
      cases parts with
      | nil => simpa [written] using isAbsolute_of_isName hname
      | cons other parts =>
          rw [written, String.intercalate_cons_cons, String.append_assoc, if_neg (by decide),
            String.empty_append, isAbsolute_append hname.ne_empty, isAbsolute_of_isName hname]

theorem endsInSlash_append {name : String} (h : IsName name) (before : String) :
    endsInSlash (before ++ name) = false := by
  obtain ⟨init, last, hlast⟩ := (List.eq_nil_or_concat name.toList).resolve_left
    (mt String.toList_eq_nil_iff.1 h.ne_empty)
  have hslash : last ≠ '/' := by
    rintro rfl
    exact h.no_slash (by simp [hlast])
  simp [endsInSlash, hlast, hslash]

theorem endsInSlash_written {name : String} (h : IsName name) (absolute : Bool)
    (parts : List String) : endsInSlash (written absolute (parts ++ [name])) = false := by
  have hlast := written_append absolute parts "" name
  rw [String.empty_append] at hlast
  rw [← hlast, endsInSlash_append h]

theorem normalize_of_last {path name : String} {before : List String}
    (hcomponents : components path = before ++ [name]) (hname : IsOrdinary name)
    (hend : endsInSlash path = false) :
    normalize path = written (isAbsolute path)
      (before.foldl (descendNormal (isAbsolute path)) [] ++ [name]) := by
  have hparts : (components path).foldl (descendNormal (isAbsolute path)) [] =
      before.foldl (descendNormal (isAbsolute path)) [] ++ [name] := by
    rw [hcomponents, List.foldl_append, List.foldl_cons, List.foldl_nil,
      descendNormal_ordinary hname]
  simp [normalize, hparts, hend, written]

/-- The components of a normal form are those that it was written from, or `.` if there are
none. -/
theorem components_normalize {path : String} {parts : List String}
    (hfold : (components path).foldl (descendNormal (isAbsolute path)) [] = parts) :
    components (normalize path) =
      if parts = [] ∧ isAbsolute path = false then ["."] else parts := by
  have hnames : ∀ part ∈ parts, IsName part := by
    rw [← hfold]
    exact isName_foldl (fun _ => isName_of_mem_components) (by simp)
  have hdot : components "." = ["."] := components_of_isName ⟨by decide, by decide⟩
  have hwritten : components (written (isAbsolute path) parts) = parts :=
    components_written hnames
  have hroot : components "/" = [] := by
    have hnil : components (written true []) = [] := components_written (by simp)
    simpa [written] using hnil
  unfold normalize
  simp only [hfold]
  cases parts with
  | nil =>
      cases isAbsolute path with
      | true => exact hroot
      | false =>
          cases endsInSlash path with
          | true => exact (components_end_slash ".").trans hdot
          | false => exact hdot
  | cons part parts =>
      rw [written] at hwritten
      cases endsInSlash path with
      | true => simpa using hwritten
      | false => simpa using hwritten

/-- Joining a name to a directory adds it to the directory's normal form. -/
theorem join_name {name : String} (hname : IsOrdinary name) (directory : String) :
    join directory name = written (isAbsolute directory)
      ((components directory).foldl (descendNormal (isAbsolute directory)) [] ++ [name]) := by
  unfold join
  split
  · rename_i hempty
    subst hempty
    have hend : endsInSlash name = false := by
      simpa using endsInSlash_append hname.toIsName ""
    have hcomponents : components name = [] ++ [name] := components_of_isName hname.toIsName
    rw [normalize_of_last hcomponents hname hend, isAbsolute_of_isName hname.toIsName]
    rfl
  · rename_i hne
    rw [if_neg hname.ne_empty, normalize_of_last (components_child hname.toIsName _) hname
      (endsInSlash_append hname.toIsName _), String.append_assoc, isAbsolute_append hne]

/-- Joining a name to a text in normal form adds a slash and the name. -/
theorem join_written {absolute : Bool} {parts : List String} {name : String}
    (hname : IsOrdinary name) (hnormal : Normal absolute parts) (hne : parts ≠ [])
    (hparts : ∀ part ∈ parts, IsName part) :
    join (written absolute parts) name = written absolute parts ++ "/" ++ name := by
  rw [join_name hname, isAbsolute_written hne hparts, components_written hparts, hnormal.foldl,
    written_concat hne]

/-! ## Parents -/

/-- What is dropped at the end of a list, and the element that it stands behind. -/
theorem dropEnd_cases {α : Type} (p : α → Bool) (as : List α) :
    (as.reverse.dropWhile p = [] ∧ ∀ a ∈ as, p a = true) ∨
      ∃ before a after, as.reverse.dropWhile p = a :: before.reverse ∧ p a = false ∧
        (∀ b ∈ after, p b = true) ∧ as = before ++ a :: after := by
  have hsplit : (as.reverse.dropWhile p).reverse ++ (as.reverse.takeWhile p).reverse = as := by
    rw [← List.reverse_append, List.takeWhile_append_dropWhile, List.reverse_reverse]
  have hafter : ∀ b ∈ (as.reverse.takeWhile p).reverse, p b = true := by
    intro b hb
    exact List.all_eq_true.1 List.all_takeWhile b (List.mem_reverse.1 hb)
  cases hdrop : as.reverse.dropWhile p with
  | nil =>
      rw [hdrop, List.reverse_nil, List.nil_append] at hsplit
      rw [hsplit] at hafter
      exact .inl ⟨rfl, hafter⟩
  | cons a before =>
      rw [hdrop] at hsplit
      have ha : p a = false := by
        have hhead := List.head?_dropWhile_not p as.reverse
        rw [hdrop] at hhead
        exact hhead
      exact .inr ⟨before.reverse, a, _, by rw [List.reverse_reverse], ha, hafter,
        by simpa using hsplit.symm⟩

/-- All slashes at the end are taken away, but for the one of the root. -/
theorem withoutEndSlashes_cases (path : String) :
    ∃ slashes : List Char, (∀ c ∈ slashes, c = '/') ∧
      path.toList = (withoutEndSlashes path).toList ++ slashes ∧
      (withoutEndSlashes path = "/" ∨ endsInSlash (withoutEndSlashes path) = false ∧
        isAbsolute (withoutEndSlashes path) = isAbsolute path) := by
  obtain ⟨hnil, hslashes⟩ | ⟨before, c, slashes, hcons, hc, hslashes, hpath⟩ :=
    dropEnd_cases (· == '/') path.toList
  · have hbare : withoutEndSlashes path = if isAbsolute path then "/" else "" := by
      simp [withoutEndSlashes, hnil]
    rw [hbare]
    cases hpath : path.toList with
    | nil => exact ⟨[], by simp [isAbsolute, hpath, endsInSlash]⟩
    | cons c rest =>
        rw [hpath] at hslashes
        obtain ⟨hc, hrest⟩ := List.forall_mem_cons.1 hslashes
        obtain rfl : c = '/' := by simpa using hc
        exact ⟨rest, fun c hc => by simpa using hrest c hc, by simp [isAbsolute, hpath],
          .inl (by simp [isAbsolute, hpath])⟩
  · have hbare : withoutEndSlashes path = String.ofList (before ++ [c]) := by
      simp [withoutEndSlashes, hcons]
    rw [hbare]
    refine ⟨slashes, fun c hc => by simpa using hslashes c hc, by simp [hpath], .inr ⟨?_, ?_⟩⟩
    · simpa [endsInSlash] using hc
    · rw [isAbsolute, isAbsolute, hpath]
      cases before <;> simp

theorem components_withoutEndSlashes (path : String) :
    components (withoutEndSlashes path) = components path := by
  obtain ⟨slashes, hslashes, hpath, -⟩ := withoutEndSlashes_cases path
  rw [components, components, hpath,
    Text.fields_append_of_all fun c hc => beq_iff_eq.2 (hslashes c hc)]

theorem isAbsolute_withoutEndSlashes (path : String) :
    isAbsolute (withoutEndSlashes path) = isAbsolute path := by
  obtain ⟨slashes, hslashes, hpath, hroot | ⟨-, habsolute⟩⟩ := withoutEndSlashes_cases path
  · rw [isAbsolute, isAbsolute, hpath, hroot]
    rfl
  · exact habsolute

theorem withoutEndSlashes_ne_empty {path : String} (h : path ≠ "") :
    withoutEndSlashes path ≠ "" := by
  intro hempty
  obtain ⟨slashes, hslashes, hpath, -⟩ := withoutEndSlashes_cases path
  have habsolute := isAbsolute_withoutEndSlashes path
  rw [hempty, String.toList_empty, List.nil_append] at hpath
  cases slashes with
  | nil => exact h (String.toList_eq_nil_iff.1 hpath)
  | cons c slashes =>
      rw [hempty, isAbsolute, isAbsolute, hpath, hslashes c (List.mem_cons_self ..)] at habsolute
      cases habsolute

/-- The parent of a path with an ordinary name is what stands before the name. -/
theorem parent_cases {path : String} (hname : IsOrdinary (baseName path)) :
    (parent path = "." ∧ isAbsolute path = false ∧ components path = [baseName path]) ∨
      (parent path ≠ "" ∧ isAbsolute (parent path) = isAbsolute path ∧
        components path = components (parent path) ++ [baseName path]) := by
  -- an ordinary name is not that of the root
  have hcomponents : components (withoutEndSlashes path) ≠ [] := by
    rw [components_withoutEndSlashes]
    intro hnone
    exact hname.ne_empty (by simp [baseName, hnone])
  have hbase {names : List String} {last : String}
      (hsplit : components (withoutEndSlashes path) = names ++ [last]) : baseName path = last := by
    simp [baseName, ← components_withoutEndSlashes path, hsplit]
  rw [← isAbsolute_withoutEndSlashes path, ← components_withoutEndSlashes path]
  obtain ⟨hnil, hlast⟩ | ⟨before, c, last, hcons, hc, hlast, hbare⟩ :=
    dropEnd_cases (· != '/') (withoutEndSlashes path).toList
  · have hparent : parent path = "." := by simp only [parent, hnil]
    have hisName : IsName (withoutEndSlashes path) := by
      refine ⟨?_, fun hslash => by simpa using hlast '/' hslash⟩
      intro hempty
      exact hcomponents (by rw [hempty]; rfl)
    have hsplit : components (withoutEndSlashes path) = [] ++ [withoutEndSlashes path] :=
      components_of_isName hisName
    left
    rw [hbase hsplit]
    exact ⟨hparent, isAbsolute_of_isName hisName, hsplit⟩
  · obtain rfl : c = '/' := by simpa using hc
    have hparent : parent path = withoutEndSlashes (String.ofList before ++ "/") := by
      simp [parent, hcons, String.ofList_append]
    have hwhole : withoutEndSlashes path = String.ofList before ++ "/" ++ String.ofList last := by
      rw [← String.toList_inj, hbare]
      simp
    have hisName : IsName (String.ofList last) := by
      refine ⟨?_, fun hslash => by simpa using hlast '/' (by simpa using hslash)⟩
      intro hempty
      rw [hempty, String.append_empty] at hwhole
      obtain ⟨-, -, -, hroot | ⟨hend, -⟩⟩ := withoutEndSlashes_cases path
      · exact hcomponents (by rw [hroot]; rfl)
      · simp [hwhole, endsInSlash] at hend
    have hsplit : components (withoutEndSlashes path) =
        components (parent path) ++ [String.ofList last] := by
      rw [hparent, components_withoutEndSlashes (_ ++ _), components_end_slash, hwhole,
        components_append_slash, components_of_isName hisName]
    have hne : String.ofList before ++ "/" ≠ "" := by simp
    right
    rw [hbase hsplit, hparent, isAbsolute_withoutEndSlashes (_ ++ _)]
    refine ⟨withoutEndSlashes_ne_empty hne, ?_, hparent ▸ hsplit⟩
    rw [hwhole, isAbsolute_append hne]

theorem parent_ne_empty {path : String} (hname : IsOrdinary (baseName path)) :
    parent path ≠ "" := by
  obtain ⟨hparent, -, -⟩ | ⟨hne, -, -⟩ := parent_cases hname
  · rw [hparent]
    decide
  · exact hne

theorem resolve_parent {path : String} (hname : IsOrdinary (baseName path)) (here : Location) :
    resolve here (parent path) = (resolve here path).dropLast := by
  obtain ⟨hparent, habsolute, hsplit⟩ | ⟨-, habsolute, hsplit⟩ := parent_cases hname
  · have hhere : resolve here path = here ++ [baseName path] := by
      rw [resolve, habsolute, hsplit, List.foldl_cons, List.foldl_nil, descend_ordinary hname]
      rfl
    rw [hparent, hhere, List.dropLast_concat]
    rfl
  · rw [resolve, resolve, hsplit, List.foldl_append, List.foldl_cons, List.foldl_nil,
      descend_ordinary hname, List.dropLast_concat, habsolute]

/-! ## Names in a directory -/

/-- The path is a directory's with a slash and one ordinary name behind it, so that it leads right
into the directory from wherever it is read. -/
structure IsChild (directory path : String) : Prop where
  ordinary : IsOrdinary (baseName path)
  path_eq : path = directory ++ "/" ++ baseName path
  parent_eq : parent path = directory
  resolve_eq : ∀ here, resolve here path = resolve here directory ++ [baseName path]

section

variable {directory name : String}

theorem withoutEndSlashes_eq_self {path : String} (h : endsInSlash path = false) :
    withoutEndSlashes path = path := by
  obtain ⟨slashes, hslashes, hpath, -⟩ := withoutEndSlashes_cases path
  rcases List.eq_nil_or_concat slashes with rfl | ⟨before, last, rfl⟩
  · rw [List.append_nil] at hpath
    exact (String.toList_inj.1 hpath).symm
  · have hlast : last = '/' := hslashes last (by simp)
    simp [endsInSlash, hpath, hlast] at h

theorem withoutEndSlashes_end_slash (hne : directory ≠ "") (h : endsInSlash directory = false) :
    withoutEndSlashes (directory ++ "/") = directory := by
  have habsolute : isAbsolute (directory ++ "/") = isAbsolute directory := isAbsolute_append hne "/"
  have hsame : withoutEndSlashes (directory ++ "/") = withoutEndSlashes directory := by
    simp [withoutEndSlashes, habsolute]
  rw [hsame, withoutEndSlashes_eq_self h]

theorem baseName_child (hname : IsName name) (directory : String) :
    baseName (directory ++ "/" ++ name) = name := by
  simp [baseName, components_child hname]

theorem resolve_child (hname : IsOrdinary name) (hne : directory ≠ "") (here : Location) :
    resolve here (directory ++ "/" ++ name) = resolve here directory ++ [name] := by
  rw [resolve, components_child hname.toIsName, List.foldl_append, List.foldl_cons, List.foldl_nil,
    descend_ordinary hname, String.append_assoc, isAbsolute_append hne, resolve]

theorem parent_child (hname : IsName name) (hne : directory ≠ "")
    (hend : endsInSlash directory = false) : parent (directory ++ "/" ++ name) = directory := by
  have hbehind : ∀ c ∈ name.toList.reverse, (c != '/') = true := by
    intro c hc
    have : c ≠ '/' := fun heq => hname.no_slash (heq ▸ List.mem_reverse.1 hc)
    simpa using this
  have hcut : (directory ++ "/" ++ name).toList.reverse.dropWhile (· != '/') =
      '/' :: directory.toList.reverse := by
    rw [String.toList_append, List.reverse_append, List.dropWhile_append_of_pos hbehind]
    simp
  have hbare : withoutEndSlashes (directory ++ "/" ++ name) = directory ++ "/" ++ name :=
    withoutEndSlashes_eq_self (endsInSlash_append hname _)
  have habove : String.ofList ('/' :: directory.toList.reverse).reverse = directory ++ "/" := by
    simp [String.ofList_append]
  rw [parent, hbare]
  simp only [hcut]
  rw [habove, withoutEndSlashes_end_slash hne hend]

theorem isChild_append (hname : IsOrdinary name) (hne : directory ≠ "")
    (hend : endsInSlash directory = false) : IsChild directory (directory ++ "/" ++ name) where
  ordinary := by rwa [baseName_child hname.toIsName]
  path_eq := by rw [baseName_child hname.toIsName]
  parent_eq := parent_child hname.toIsName hne hend
  resolve_eq := by
    intro here
    rw [baseName_child hname.toIsName, resolve_child hname hne]

end

/-! ## Names with an extension -/

/-- The last component of a path is this name with this extension. -/
structure Names (path name extension : String) : Prop where
  isName : IsName name
  path_eq : path = name ++ extension ∨ ∃ directory, path = directory ++ "/" ++ name ++ extension

/-- A path that does not end in a slash is a name, alone or behind a slash. -/
theorem baseName_cases {path : String} (hne : path ≠ "") (hend : endsInSlash path = false) :
    path = baseName path ∨ ∃ directory, path = directory ++ "/" ++ baseName path := by
  obtain ⟨-, hlast⟩ | ⟨before, c, last, -, hc, hlast, hpath⟩ :=
    dropEnd_cases (· != '/') path.toList
  · have hisName : IsName path := ⟨hne, fun hslash => by simpa using hlast '/' hslash⟩
    left
    simp [baseName, components_of_isName hisName]
  · obtain rfl : c = '/' := by simpa using hc
    have hwhole : path = String.ofList before ++ "/" ++ String.ofList last := by
      rw [← String.toList_inj, hpath]
      simp
    have hisName : IsName (String.ofList last) := by
      refine ⟨?_, fun hslash => by simpa using hlast '/' (by simpa using hslash)⟩
      intro hempty
      rw [hempty, String.append_empty] at hwhole
      simp [hwhole, endsInSlash] at hend
    right
    exact ⟨String.ofList before, by rw [hwhole, baseName_child hisName]⟩

theorem cutExtension_append_dot {name ext : List Char} (hname : name ≠ []) (hext : ext ≠ [])
    (hdot : '.' ∉ ext) : cutExtension (name ++ '.' :: ext) = (name, '.' :: ext) := by
  have hbehind : ∀ c ∈ ext.reverse, (c != '.') = true := by
    intro c hc
    have : c ≠ '.' := fun heq => hdot (heq ▸ List.mem_reverse.1 hc)
    simpa using this
  have hwhole : (name ++ '.' :: ext).reverse = ext.reverse ++ '.' :: name.reverse := by simp
  have hdots : name ++ '.' :: ext ≠ ['.', '.'] := by
    intro heq
    have hlength := congrArg List.length heq
    have hnamePos := List.length_pos_iff.2 hname
    have hextPos := List.length_pos_iff.2 hext
    simp at hlength
    omega
  simp [cutExtension, hwhole, List.dropWhile_append_of_pos hbehind,
    List.takeWhile_append_of_pos hbehind, hname, hdots]

section

variable {path name extension : String} {ext : List Char}

/-- How a path names something says what its stem and its extension are. -/
theorem Names.stem_eq_and_extension_eq (h : Names path name extension)
    (hextension : extension.toList = '.' :: ext) (hext : ext ≠ []) (hdot : '.' ∉ ext)
    (hslash : '/' ∉ ext) : stem path = name ∧ Path.extension path = extension := by
  have hisName : IsName (name ++ extension) := by
    refine ⟨?_, ?_⟩
    · simp [h.isName.ne_empty]
    · simp [hextension, h.isName.no_slash, hslash]
  have hbase : baseName path = name ++ extension := by
    rcases h.path_eq with rfl | ⟨directory, rfl⟩
    · simp [baseName, components_of_isName hisName]
    · rw [String.append_assoc, baseName_child hisName]
  have hcut : cutExtension (baseName path).toList = (name.toList, '.' :: ext) := by
    rw [hbase, String.toList_append, hextension]
    exact cutExtension_append_dot (mt String.toList_eq_nil_iff.1 h.isName.ne_empty) hext hdot
  rw [stem, Path.extension, hcut, ← hextension]
  simp

theorem names_stem (hne : Path.extension path ≠ "") (hend : endsInSlash path = false) :
    Names path (stem path) (Path.extension path) := by
  have hpath : path ≠ "" := by
    rintro rfl
    exact hne (by decide)
  refine ⟨⟨stem_ne_empty hne, stem_no_slash path⟩, ?_⟩
  have hcases := baseName_cases hpath hend
  rw [← stem_append_extension] at hcases
  simpa only [String.append_assoc] using hcases

end

end Path

end CompilerDriver
