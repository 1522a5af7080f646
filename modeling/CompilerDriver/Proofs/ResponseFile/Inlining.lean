import CompilerDriver.ResponseFile.Expansion
import Mathlib.Data.List.Lex

/-!
# Expansion is inlining

Expansion succeeds exactly when no chain of references meets an empty name, an unreadable file or
the same file twice, and then every reference is replaced in place by the words it leads to.  When
it fails, the error is that of the first offending reference, where a reference comes before those
in its file and after everything to its left.
-/

namespace CompilerDriver

section

variable {ε α β : Type} {f : α → β} {result : Except ε α}

@[simp] theorem map_eq_ok_iff {b : β} : result.map f = .ok b ↔ ∃ a, result = .ok a ∧ f a = b := by
  cases result <;> simp [Except.map]

@[simp] theorem map_eq_error_iff {e : ε} : result.map f = .error e ↔ result = .error e := by
  cases result <;> simp [Except.map]

end

namespace ResponseFile

/-! ## References, chains and inlining -/

theorem reference?_eq_some_iff {token path : String} :
    reference? token = some path ↔ token = "@" ++ path := by
  have hat : ("@" ++ path).toList = '@' :: path.toList := by
    rw [String.toList_append]
    rfl
  unfold reference?
  constructor
  · intro h
    split at h
    · rename_i rest htoken
      cases h
      rw [← String.toList_inj, htoken, hat, String.toList_ofList]
    · cases h
  · rintro rfl
    rw [hat]
    simp

theorem reference?_eq_none_iff {token : String} :
    reference? token = none ↔ ∀ path, token ≠ "@" ++ path := by
  constructor
  · rintro hword path rfl
    rw [reference?_eq_some_iff.2 rfl] at hword
    cases hword
  · intro hword
    cases htoken : reference? token with
    | none => rfl
    | some path => exact absurd (reference?_eq_some_iff.1 htoken) (hword path)

/-- Replaces every reference, in place and at every depth, by the words of its file. -/
inductive Inlines (r : Reader) : List String → List String → Prop
  | nil : Inlines r [] []
  | word {token : String} {rest words : List String} (hword : ∀ path, token ≠ "@" ++ path)
      (hrest : Inlines r rest words) : Inlines r (token :: rest) (token :: words)
  | file {token path content : String} {rest nested words : List String}
      (htoken : token = "@" ++ path) (hread : r.read path = .ok content)
      (hnested : Inlines r (tokenize content) nested) (hrest : Inlines r rest words) :
      Inlines r (token :: rest) (nested ++ words)

/-- A sequence of references: the first is one of the tokens, and each next one stands in the
file of the one before it. -/
inductive Chain (r : Reader) : List String → List String → Prop
  | single {tokens : List String} {path : String} (hmem : "@" ++ path ∈ tokens) :
      Chain r tokens [path]
  | cons {tokens paths : List String} {path content : String} (hmem : "@" ++ path ∈ tokens)
      (hread : r.read path = .ok content) (htail : Chain r (tokenize content) paths) :
      Chain r tokens (path :: paths)

/-- The reference at a position.  A position counts off a place among the tokens, then a place in
the file found there, and so on; `above` lists the files it lies in, the outermost first. -/
inductive ReferenceAt (r : Reader) : List String → List Nat → List String → String → Prop
  | here {tokens : List String} {place : Nat} {path : String}
      (htoken : tokens[place]? = some ("@" ++ path)) : ReferenceAt r tokens [place] [] path
  | inside {tokens : List String} {place : Nat} {position : List Nat} {above : List String}
      {outer content path : String} (htoken : tokens[place]? = some ("@" ++ outer))
      (hread : r.read outer = .ok content)
      (hinside : ReferenceAt r (tokenize content) position above path) :
      ReferenceAt r tokens (place :: position) (outer :: above) path

/-- What is wrong with a reference to a path inside the files at `active`. -/
inductive Offence (workDir : Location) (r : Reader) (active : List Location) (path : String) :
    ExpansionError → Prop
  | missingName (hname : path = "") : Offence workDir r active path .missingName
  | selfInclusion (hname : path ≠ "") (hactive : Path.resolve workDir path ∈ active) :
      Offence workDir r active path (.selfInclusion path)
  | unreadable {reason : String} (hname : path ≠ "")
      (hactive : Path.resolve workDir path ∉ active) (hread : r.read path = .error reason) :
      Offence workDir r active path (.unreadable path reason)

/-- The reference at a position offends, the files at `active` being expanded around it. -/
def OffendsAt (workDir : Location) (r : Reader) (active : List Location) (tokens : List String)
    (position : List Nat) (e : ExpansionError) : Prop :=
  ∃ above path, ReferenceAt r tokens position above path ∧
    Offence workDir r (above.map (Path.resolve workDir) ++ active) path e

/-- The error of the first offending reference.  Positions are ordered like words, so that a
reference comes before those in its file. -/
def FirstOffence (workDir : Location) (r : Reader) (active : List Location)
    (tokens : List String) (e : ExpansionError) : Prop :=
  ∃ position, OffendsAt workDir r active tokens position e ∧
    ∀ position' e', OffendsAt workDir r active tokens position' e' →
      ¬ List.Lex (· < ·) position' position

section

variable {workDir : Location} {r : Reader} {active : List Location} {tokens rest : List String}
  {token path content : String} {position : List Nat} {e e' : ExpansionError}

/-! ## Offences -/

theorem Offence.congr {keys : List Location} (hkeys : ∀ l, l ∈ active ↔ l ∈ keys)
    (h : Offence workDir r active path e) : Offence workDir r keys path e := by
  cases h with
  | missingName hname => exact .missingName hname
  | selfInclusion hname hactive => exact .selfInclusion hname ((hkeys _).1 hactive)
  | unreadable hname hactive hread =>
      exact .unreadable hname (fun hmem => hactive ((hkeys _).2 hmem)) hread

theorem Offence.of_outside {above : List String}
    (h : Offence workDir r (above.map (Path.resolve workDir) ++
      Path.resolve workDir path :: active) token e) :
    Offence workDir r ((path :: above).map (Path.resolve workDir) ++ active) token e :=
  h.congr fun l => by simp [or_left_comm]

theorem Offence.to_outside {above : List String}
    (h : Offence workDir r ((path :: above).map (Path.resolve workDir) ++ active) token e) :
    Offence workDir r (above.map (Path.resolve workDir) ++
      Path.resolve workDir path :: active) token e :=
  h.congr fun l => by simp [or_left_comm]

/-- A reference offends unless its path has a name, is not active and can be read. -/
theorem not_offence_iff :
    (∀ e, ¬ Offence workDir r active path e) ↔
      path ≠ "" ∧ Path.resolve workDir path ∉ active ∧ ∃ content, r.read path = .ok content := by
  constructor
  · intro h
    have hname : path ≠ "" := fun hempty => h _ (.missingName hempty)
    have hactive : Path.resolve workDir path ∉ active := fun hmem => h _ (.selfInclusion hname hmem)
    refine ⟨hname, hactive, ?_⟩
    cases hread : r.read path with
    | ok content => exact ⟨content, rfl⟩
    | error reason => exact absurd (.unreadable hname hactive hread) (h _)
  · rintro ⟨hname, hactive, content, hread⟩ e h
    cases h with
    | missingName hempty => exact hname hempty
    | selfInclusion _ hmem => exact hactive hmem
    | unreadable _ _ hfail =>
        rw [hread] at hfail
        cases hfail

/-! ## Positions -/

/-- A token in front moves an offence one place to the right. -/
theorem OffendsAt.cons {place : Nat} {inner : List Nat}
    (h : OffendsAt workDir r active rest (place :: inner) e) :
    OffendsAt workDir r active (token :: rest) ((place + 1) :: inner) e := by
  obtain ⟨above, path, hat, hoff⟩ := h
  refine ⟨above, path, ?_, hoff⟩
  cases hat with
  | here htoken => exact .here (by simpa using htoken)
  | inside htoken hread hinside => exact .inside (by simpa using htoken) hread hinside

theorem OffendsAt.exists_cons (h : OffendsAt workDir r active tokens position e) :
    ∃ place inner, position = place :: inner := by
  obtain ⟨above, path, hat, -⟩ := h
  cases hat with
  | here => exact ⟨_, _, rfl⟩
  | inside => exact ⟨_, _, rfl⟩

@[simp] theorem not_offendsAt_nil : ¬ OffendsAt workDir r active [] position e := by
  rintro ⟨above, path, hat, -⟩
  cases hat with
  | here htoken => simp at htoken
  | inside htoken => simp at htoken

/-- A word in front moves every offence one place to the right. -/
theorem offendsAt_word_iff (hword : reference? token = none) :
    OffendsAt workDir r active (token :: rest) position e ↔
      ∃ place inner, position = (place + 1) :: inner ∧
        OffendsAt workDir r active rest (place :: inner) e := by
  have hne := reference?_eq_none_iff.1 hword
  constructor
  · rintro ⟨above, path, hat, hoff⟩
    cases hat with
    | @here _ place _ htoken =>
        cases place with
        | zero => exact absurd (by simpa using htoken) (hne path)
        | succ place => exact ⟨place, [], rfl, [], path, .here (by simpa using htoken), hoff⟩
    | @inside _ place inner above outer content _ htoken hread hinside =>
        cases place with
        | zero => exact absurd (by simpa using htoken) (hne outer)
        | succ place =>
            exact ⟨place, inner, rfl, outer :: above, path,
              .inside (by simpa using htoken) hread hinside, hoff⟩
  · rintro ⟨place, inner, rfl, hlater⟩
    exact hlater.cons

/-- Behind a reference in front, an offence is that of the reference, one in its file, or one
further right. -/
theorem offendsAt_reference_iff (htoken : reference? token = some path) :
    OffendsAt workDir r active (token :: rest) position e ↔
      (position = [0] ∧ Offence workDir r active path e) ∨
      (∃ content inner, r.read path = .ok content ∧ position = 0 :: inner ∧
        OffendsAt workDir r (Path.resolve workDir path :: active) (tokenize content) inner e) ∨
      ∃ place inner, position = (place + 1) :: inner ∧
        OffendsAt workDir r active rest (place :: inner) e := by
  obtain rfl := reference?_eq_some_iff.1 htoken
  constructor
  · rintro ⟨above, name, hat, hoff⟩
    cases hat with
    | @here _ place _ hplace =>
        cases place with
        | zero =>
            obtain rfl : path = name := by simpa using hplace
            exact .inl ⟨rfl, by simpa using hoff⟩
        | succ place =>
            exact .inr (.inr ⟨place, [], rfl, [], name, .here (by simpa using hplace), hoff⟩)
    | @inside _ place inner above outer content _ hplace hread hinside =>
        cases place with
        | zero =>
            obtain rfl : path = outer := by simpa using hplace
            exact .inr (.inl ⟨content, inner, hread, rfl, above, name, hinside, hoff.to_outside⟩)
        | succ place =>
            exact .inr (.inr ⟨place, inner, rfl, outer :: above, name,
              .inside (by simpa using hplace) hread hinside, hoff⟩)
  · rintro (⟨rfl, hoff⟩ | ⟨content, inner, hread, rfl, above, name, hat, hoff⟩ |
      ⟨place, inner, rfl, hlater⟩)
    · exact ⟨[], path, .here rfl, by simpa using hoff⟩
    · exact ⟨path :: above, name, .inside rfl hread hat, hoff.of_outside⟩
    · exact hlater.cons

/-! ## One step of the expansion

What the expansion of a list does with its first token, as rules: every fact about expansions is an
induction on them. -/

inductive Expands (workDir : Location) (r : Reader) :
    List Location → List String → Except ExpansionError (List String) → Prop
  | nil {active : List Location} : Expands workDir r active [] (.ok [])
  | word {active : List Location} {token : String} {rest : List String}
      {result : Except ExpansionError (List String)} (hword : reference? token = none)
      (hrest : Expands workDir r active rest result) :
      Expands workDir r active (token :: rest) (result.map (token :: ·))
  | offence {active : List Location} {token path : String} {rest : List String}
      {e : ExpansionError} (htoken : reference? token = some path)
      (hoff : Offence workDir r active path e) : Expands workDir r active (token :: rest) (.error e)
  | failure {active : List Location} {token path content : String} {rest : List String}
      {e : ExpansionError} (htoken : reference? token = some path) (hname : path ≠ "")
      (hactive : Path.resolve workDir path ∉ active) (hread : r.read path = .ok content)
      (hfile : Expands workDir r (Path.resolve workDir path :: active) (tokenize content)
        (.error e)) :
      Expands workDir r active (token :: rest) (.error e)
  | file {active : List Location} {token path content : String} {rest nested : List String}
      {result : Except ExpansionError (List String)} (htoken : reference? token = some path)
      (hname : path ≠ "") (hactive : Path.resolve workDir path ∉ active)
      (hread : r.read path = .ok content)
      (hfile : Expands workDir r (Path.resolve workDir path :: active) (tokenize content)
        (.ok nested))
      (hrest : Expands workDir r active rest result) :
      Expands workDir r active (token :: rest) (result.map (nested ++ ·))

theorem expands_expandWithin (workDir : Location) (r : Reader) (active : List Location)
    (tokens : List String) :
    Expands workDir r active tokens (expandWithin workDir r active tokens) := by
  fun_induction expandWithin workDir r active tokens with
  | case1 => exact .nil
  | case2 active token rest hword ih => exact .word hword ih
  | case3 active token rest htoken => exact .offence htoken (.missingName rfl)
  | case4 active token rest path htoken hname hactive =>
      exact .offence htoken (.selfInclusion hname hactive)
  | case5 active token rest path htoken hname hactive reason hread =>
      exact .offence htoken (.unreadable hname hactive hread)
  | case6 active token rest path htoken hname hactive content hread e hfile ih =>
      exact .failure htoken hname hactive hread (hfile ▸ ih)
  | case7 active token rest path htoken hname hactive content hread nested hfile ih ihrest =>
      exact .file htoken hname hactive hread (hfile ▸ ih) ihrest

variable {words words' paths : List String} {result : Except ExpansionError (List String)}

theorem Expands.inlines (h : Expands workDir r active tokens result) :
    ∀ words, result = .ok words → Inlines r tokens words := by
  induction h with
  | nil =>
      rintro words ⟨⟩
      exact .nil
  | word hword _ ih =>
      intro words hwords
      obtain ⟨rest, hrest, rfl⟩ := map_eq_ok_iff.1 hwords
      exact .word (reference?_eq_none_iff.1 hword) (ih rest hrest)
  | offence | failure => nofun
  | file htoken _ _ hread _ _ ih ihrest =>
      intro words hwords
      obtain ⟨rest, hrest, rfl⟩ := map_eq_ok_iff.1 hwords
      exact .file (reference?_eq_some_iff.1 htoken) hread (ih _ rfl) (ihrest rest hrest)

theorem Expands.not_offendsAt (h : Expands workDir r active tokens result) :
    ∀ words, result = .ok words → ∀ position e, ¬ OffendsAt workDir r active tokens position e := by
  induction h with
  | nil =>
      intro words _ position e
      simp
  | word hword _ ih =>
      intro words hwords position e hoff
      obtain ⟨rest, hrest, -⟩ := map_eq_ok_iff.1 hwords
      obtain ⟨place, inner, -, hlater⟩ := (offendsAt_word_iff hword).1 hoff
      exact ih rest hrest _ _ hlater
  | offence | failure => nofun
  | file htoken hname hactive hread _ _ ih ihrest =>
      intro words hwords position e hoff
      obtain ⟨rest, hrest, -⟩ := map_eq_ok_iff.1 hwords
      rcases (offendsAt_reference_iff htoken).1 hoff with ⟨-, hhere⟩ |
        ⟨content, inner, hcontent, -, hinside⟩ | ⟨place, inner, -, hlater⟩
      · exact not_offence_iff.2 ⟨hname, hactive, _, hread⟩ e hhere
      · rw [hread] at hcontent
        cases hcontent
        exact ih _ rfl _ _ hinside
      · exact ihrest rest hrest _ _ hlater

/-! ## The first offence -/

/-- When nothing offends up to the end of the first token's file, the first offence lies further
right. -/
theorem FirstOffence.cons (h : FirstOffence workDir r active rest e)
    (hlater : ∀ position e, OffendsAt workDir r active (token :: rest) position e →
      ∃ place inner, position = (place + 1) :: inner ∧
        OffendsAt workDir r active rest (place :: inner) e) :
    FirstOffence workDir r active (token :: rest) e := by
  obtain ⟨position, hoff, hfirst⟩ := h
  obtain ⟨place, inner, rfl⟩ := hoff.exists_cons
  refine ⟨(place + 1) :: inner, hoff.cons, ?_⟩
  intro position' e' hoff'
  obtain ⟨place', inner', rfl, hright⟩ := hlater _ _ hoff'
  intro hbefore
  cases hbefore with
  | cons hinner => exact hfirst _ _ hright (.cons hinner)
  | rel hlt => exact hfirst _ _ hright (.rel (Nat.lt_of_succ_lt_succ hlt))

/-- A reference that offends comes before all that is in its file or to its right. -/
theorem Offence.firstOffence (h : Offence workDir r active path e)
    (htoken : reference? token = some path) :
    FirstOffence workDir r active (token :: rest) e := by
  refine ⟨[0], (offendsAt_reference_iff htoken).2 (.inl ⟨rfl, h⟩), ?_⟩
  intro position' e' hoff'
  obtain ⟨place', inner', rfl⟩ := hoff'.exists_cons
  intro hbefore
  cases hbefore with
  | cons hinner => cases hinner
  | rel hlt => exact Nat.not_lt_zero _ hlt

/-- Behind a reference that does not offend, the first offence in its file is the first of all. -/
theorem FirstOffence.inside (h : FirstOffence workDir r (Path.resolve workDir path :: active)
      (tokenize content) e) (htoken : reference? token = some path)
    (hread : r.read path = .ok content) (hhere : ∀ e, ¬ Offence workDir r active path e) :
    FirstOffence workDir r active (token :: rest) e := by
  obtain ⟨position, hoff, hfirst⟩ := h
  refine ⟨0 :: position,
    (offendsAt_reference_iff htoken).2 (.inr (.inl ⟨content, position, hread, rfl, hoff⟩)), ?_⟩
  intro position' e' hoff' hbefore
  rcases (offendsAt_reference_iff htoken).1 hoff' with ⟨-, hoff'⟩ |
    ⟨content', inner, hread', rfl, hinside⟩ | ⟨place, inner, rfl, -⟩
  · exact absurd hoff' (hhere e')
  · obtain rfl : content = content' := by simpa [hread] using hread'
    cases hbefore with
    | cons hinner => exact hfirst _ _ hinside hinner
    | rel hlt => exact Nat.not_lt_zero _ hlt
  · cases hbefore with
    | rel hlt => exact Nat.not_lt_zero _ hlt

theorem Expands.firstOffence (h : Expands workDir r active tokens result) :
    ∀ e, result = .error e → FirstOffence workDir r active tokens e := by
  induction h with
  | nil => nofun
  | word hword _ ih =>
      intro e he
      refine (ih e (map_eq_error_iff.1 he)).cons ?_
      intro position e' hoff
      exact (offendsAt_word_iff hword).1 hoff
  | offence htoken hoff =>
      rintro e ⟨⟩
      exact hoff.firstOffence htoken
  | failure htoken hname hactive hread _ ih =>
      rintro e ⟨⟩
      exact (ih _ rfl).inside htoken hread (not_offence_iff.2 ⟨hname, hactive, _, hread⟩)
  | file htoken hname hactive hread hfile _ _ ihrest =>
      intro e he
      refine (ihrest e (map_eq_error_iff.1 he)).cons ?_
      intro position e' hoff
      rcases (offendsAt_reference_iff htoken).1 hoff with ⟨-, hhere⟩ |
        ⟨content, inner, hcontent, -, hinside⟩ | hlater
      · exact absurd hhere (not_offence_iff.2 ⟨hname, hactive, _, hread⟩ e')
      · rw [hread] at hcontent
        cases hcontent
        exact absurd hinside (hfile.not_offendsAt _ rfl _ _)
      · exact hlater

theorem words_iff : (∀ path, "@" ++ path ∉ tokens) ↔ ∀ token ∈ tokens, reference? token = none := by
  simp only [reference?_eq_none_iff]
  constructor
  · rintro hwords _ hmem path rfl
    exact hwords path hmem
  · intro hwords path hmem
    exact hwords _ hmem path rfl

theorem expand_words (hwords : ∀ path, "@" ++ path ∉ tokens) :
    expand workDir r tokens = .ok tokens := by
  unfold expand
  rw [words_iff] at hwords
  induction tokens with
  | nil => rw [expandWithin_nil]
  | cons token rest ih =>
      obtain ⟨hword, hrest⟩ := List.forall_mem_cons.1 hwords
      rw [expandWithin_cons_of_plain hword, ih hrest]
      rfl

/-! ## What determines what -/

theorem path_unique {path' : String} (h : "@" ++ path = "@" ++ path') : path = path' := by
  have hpath := reference?_eq_some_iff.2 h
  rw [reference?_eq_some_iff.2 rfl] at hpath
  exact Option.some.inj hpath

theorem Inlines.unique (h : Inlines r tokens words) (h' : Inlines r tokens words') :
    words = words' := by
  induction h generalizing words' with
  | nil =>
      cases h'
      rfl
  | word hword _ ih =>
      cases h' with
      | word _ hrest' => rw [ih hrest']
      | file htoken => exact absurd htoken (hword _)
  | file htoken hread _ _ ih ihrest =>
      cases h' with
      | word hword => exact absurd htoken (hword _)
      | file htoken' hread' hnested' hrest' =>
          obtain rfl := path_unique (htoken.symm.trans htoken')
          cases hread.symm.trans hread'
          rw [ih hnested', ihrest hrest']

theorem ReferenceAt.unique {above above' : List String} {path' : String}
    (h : ReferenceAt r tokens position above path)
    (h' : ReferenceAt r tokens position above' path') : above = above' ∧ path = path' := by
  induction h generalizing above' path' with
  | here htoken =>
      cases h' with
      | here htoken' => exact ⟨rfl, path_unique (by simpa [htoken] using htoken')⟩
      | inside _ _ hinside' => cases hinside'
  | inside htoken hread hinside ih =>
      cases h' with
      | here => cases hinside
      | inside htoken' hread' hinside' =>
          obtain rfl := path_unique (by simpa [htoken] using htoken')
          cases hread.symm.trans hread'
          obtain ⟨rfl, rfl⟩ := ih hinside'
          exact ⟨rfl, rfl⟩

theorem Offence.unique (h : Offence workDir r active path e)
    (h' : Offence workDir r active path e') : e = e' := by
  cases h with
  | missingName hname => cases h' <;> first | rfl | contradiction
  | selfInclusion hname hactive => cases h' <;> first | rfl | contradiction
  | unreadable hname hactive hread =>
      cases h' with
      | missingName hname' => contradiction
      | selfInclusion _ hactive' => contradiction
      | unreadable _ _ hread' =>
          cases hread.symm.trans hread'
          rfl

theorem FirstOffence.unique (h : FirstOffence workDir r active tokens e)
    (h' : FirstOffence workDir r active tokens e') : e = e' := by
  obtain ⟨position, hoff, hfirst⟩ := h
  obtain ⟨position', hoff', hfirst'⟩ := h'
  obtain rfl : position = position' :=
    Std.Trichotomous.trichotomous position position' (hfirst' _ _ hoff) (hfirst _ _ hoff')
  obtain ⟨above, path, hat, hoff⟩ := hoff
  obtain ⟨above', path', hat', hoff'⟩ := hoff'
  obtain ⟨rfl, rfl⟩ := hat.unique hat'
  exact hoff.unique hoff'

/-! ## Chains and offences -/

theorem Chain.of_referenceAt {above : List String} (h : ReferenceAt r tokens position above path) :
    Chain r tokens (above ++ [path]) := by
  induction h with
  | here htoken => exact .single (List.mem_of_getElem? htoken)
  | inside htoken hread _ ih => exact .cons (List.mem_of_getElem? htoken) hread ih

theorem OffendsAt.of_inside {place : Nat} {inner : List Nat}
    (htoken : tokens[place]? = some ("@" ++ path)) (hread : r.read path = .ok content)
    (h : OffendsAt workDir r (Path.resolve workDir path :: active) (tokenize content) inner e) :
    OffendsAt workDir r active tokens (place :: inner) e := by
  obtain ⟨above, name, hat, hoff⟩ := h
  exact ⟨path :: above, name, .inside htoken hread hat, hoff.of_outside⟩

/-- Without an offence a chain meets no active file, no file twice, and only files to be read. -/
theorem Chain.files (h : Chain r tokens paths)
    (hnone : ∀ position e, ¬ OffendsAt workDir r active tokens position e) :
    (∀ path ∈ paths, path ≠ "" ∧ Path.resolve workDir path ∉ active ∧
      ∃ content, r.read path = .ok content) ∧
    (paths.map (Path.resolve workDir)).Nodup := by
  -- one file further down the chain, that file is active too
  induction h generalizing active with
  | single hmem =>
      obtain ⟨place, hplace⟩ := List.mem_iff_getElem?.1 hmem
      have hfine := not_offence_iff.1 fun e hoff => hnone [place] e ⟨[], _, .here hplace, hoff⟩
      simpa using hfine
  | @cons tokens paths path content hmem hread _ ih =>
      obtain ⟨place, hplace⟩ := List.mem_iff_getElem?.1 hmem
      have hfine := not_offence_iff.1 fun e hoff => hnone [place] e ⟨[], _, .here hplace, hoff⟩
      obtain ⟨hfiles, hnodup⟩ := ih fun inner e hoff =>
        hnone (place :: inner) e (hoff.of_inside hplace hread)
      constructor
      · intro name hname
        rcases List.mem_cons.1 hname with rfl | hname
        · exact hfine
        · obtain ⟨hne, hactive, hcontent⟩ := hfiles name hname
          exact ⟨hne, fun hmem => hactive (List.mem_cons_of_mem _ hmem), hcontent⟩
      · refine List.nodup_cons.2 ⟨?_, hnodup⟩
        intro hagain
        obtain ⟨name, hname, hsame⟩ := List.mem_map.1 hagain
        exact (hfiles name hname).2.1 (hsame ▸ List.mem_cons_self ..)

/-- Nothing offends exactly when every chain has only readable files, each of them once. -/
theorem not_offendsAt_iff :
    (∀ position e, ¬ OffendsAt workDir r [] tokens position e) ↔
      ∀ paths, Chain r tokens paths →
        (∀ path ∈ paths, path ≠ "" ∧ ∃ content, r.read path = .ok content) ∧
        (paths.map (Path.resolve workDir)).Nodup := by
  constructor
  · intro hnone paths hchain
    obtain ⟨hfiles, hnodup⟩ := hchain.files hnone
    exact ⟨fun path hpath => ⟨(hfiles path hpath).1, (hfiles path hpath).2.2⟩, hnodup⟩
  · rintro hchains position e ⟨above, path, hat, hoff⟩
    obtain ⟨hfiles, hnodup⟩ := hchains _ (.of_referenceAt hat)
    obtain ⟨hname, hread⟩ := hfiles path (by simp)
    have hactive : Path.resolve workDir path ∉ above.map (Path.resolve workDir) ++ [] := by
      rw [List.append_nil]
      rw [List.map_append, List.map_singleton, List.nodup_append] at hnodup
      intro hmem
      exact hnodup.2.2 _ hmem _ (List.mem_singleton_self _) rfl
    exact not_offence_iff.2 ⟨hname, hactive, hread⟩ e hoff

/-- Expansion is exact inlining, and its failures are exactly the offences of the first offending
reference. -/
theorem expand_exact (workDir : Location) (r : Reader) (args : List String) :
    ((∃ words, expand workDir r args = .ok words) ↔
      ∀ paths, Chain r args paths →
        (∀ path ∈ paths, path ≠ "" ∧ ∃ content, r.read path = .ok content) ∧
        (paths.map (Path.resolve workDir)).Nodup) ∧
    (∀ words, expand workDir r args = .ok words →
      ∀ words', Inlines r args words' ↔ words' = words) ∧
    ∀ e, expand workDir r args = .error e ↔ FirstOffence workDir r [] args e := by
  have hexpands : Expands workDir r [] args (expand workDir r args) := expands_expandWithin ..
  refine ⟨?_, ?_, ?_⟩
  · rw [← not_offendsAt_iff]
    constructor
    · rintro ⟨words, hwords⟩
      exact hexpands.not_offendsAt words hwords
    · intro hnone
      cases hresult : expand workDir r args with
      | ok words => exact ⟨words, rfl⟩
      | error e =>
          obtain ⟨position, hoff, -⟩ := hexpands.firstOffence e hresult
          exact absurd hoff (hnone position e)
  · intro words hwords words'
    have hinlines := hexpands.inlines words hwords
    exact ⟨fun h => h.unique hinlines, fun h => h ▸ hinlines⟩
  · intro e
    constructor
    · exact hexpands.firstOffence e
    · intro hfirst
      cases hresult : expand workDir r args with
      | ok words =>
          obtain ⟨position, hoff, -⟩ := hfirst
          exact absurd hoff (hexpands.not_offendsAt words hresult position e)
      | error e' => rw [(hexpands.firstOffence e' hresult).unique hfirst]

end

end ResponseFile

end CompilerDriver
