import CompilerDriver.CommandLine.Arguments
import CompilerDriver.Proofs.Path
import CompilerDriver.Proofs.ResponseFile.Inlining
import Mathlib.Logic.Function.Basic

/-!
# Moving arguments into a response file

Arguments may be moved into a response file that no reference met so far leads to, laid out with
any blanks between them: the command line is then parsed as before, whatever the result.  Files may
be read in any way here.  What the expansion of references comes to is a relation, since with
endless files it comes to nothing; for a reader it is the function that expands.
-/

namespace CompilerDriver

namespace ResponseFile

/-! ## Words in a text -/

structure IsWord (token : String) : Prop where
  ne_empty : token ≠ ""
  no_blank : ∀ c ∈ token.toList, Text.isBlank c = false

def IsBlank (space : String) : Prop :=
  ∀ c ∈ space.toList, Text.isBlank c = true

/-- The text holds these words in order, with blanks between them and maybe at both ends. -/
inductive LaysOut : List String → String → Prop
  | none {space : String} (hspace : IsBlank space) : LaysOut [] space
  | last {before word after : String} (hbefore : IsBlank before) (hafter : IsBlank after) :
      LaysOut [word] (before ++ word ++ after)
  | more {before word gap next text : String} {rest : List String} (hbefore : IsBlank before)
      (hgap : IsBlank gap) (hne : gap ≠ "") (hrest : LaysOut (next :: rest) text) :
      LaysOut (word :: next :: rest) (before ++ word ++ gap ++ text)

section

variable {p : Char → Bool} {space word after : List Char}

theorem fields_blank_append (hspace : ∀ c ∈ space, p c = true) (after : List Char) :
    Text.fields p (space ++ after) = Text.fields p after := by
  induction space with
  | nil => rfl
  | cons c space ih =>
      obtain ⟨hc, hspace⟩ := List.forall_mem_cons.1 hspace
      have hfirst := Text.fields_append_cons hc [] (space ++ after)
      rw [List.nil_append] at hfirst
      rw [List.cons_append, hfirst, ih hspace]
      rfl

theorem fields_word_append (hne : word ≠ []) (hword : ∀ c ∈ word, p c = false)
    (hgap : space ≠ []) (hspace : ∀ c ∈ space, p c = true) (after : List Char) :
    Text.fields p (word ++ (space ++ after)) = word :: Text.fields p after := by
  obtain ⟨c, space, rfl⟩ := List.exists_cons_of_ne_nil hgap
  obtain ⟨hc, hspace⟩ := List.forall_mem_cons.1 hspace
  rw [List.cons_append, Text.fields_append_cons hc, Text.fields_of_none hne hword,
    fields_blank_append hspace]
  rfl

theorem fields_word_blank (hne : word ≠ []) (hword : ∀ c ∈ word, p c = false)
    (hspace : ∀ c ∈ space, p c = true) : Text.fields p (word ++ space) = [word] := by
  by_cases hgap : space = []
  · rw [hgap, List.append_nil, Text.fields_of_none hne hword]
  · have hfields := fields_word_append hne hword hgap hspace []
    rw [List.append_nil] at hfields
    rw [hfields]
    rfl

end

/-- The words of a text are those that it lays out. -/
theorem tokenize_of_laysOut {words : List String} {text : String} (h : LaysOut words text)
    (hwords : ∀ word ∈ words, IsWord word) : tokenize text = words := by
  unfold tokenize
  induction h with
  | none hspace =>
      have hfields := fields_blank_append hspace []
      rw [List.append_nil] at hfields
      rw [hfields]
      rfl
  | @last before word after hbefore hafter =>
      have hword := hwords word (List.mem_singleton_self _)
      have hne := mt String.toList_eq_nil_iff.1 hword.ne_empty
      rw [String.toList_append, String.toList_append, List.append_assoc,
        fields_blank_append hbefore, fields_word_blank hne hword.no_blank hafter]
      simp
  | @more before word gap next text rest hbefore hgap hne _ ih =>
      obtain ⟨hword, hrest⟩ := List.forall_mem_cons.1 hwords
      have hne' := mt String.toList_eq_nil_iff.1 hword.ne_empty
      have hgap' := mt String.toList_eq_nil_iff.1 hne
      rw [String.toList_append, String.toList_append, String.toList_append, List.append_assoc,
        List.append_assoc, fields_blank_append hbefore,
        fields_word_append hne' hword.no_blank hgap' hgap, List.map_cons, ih hrest]
      simp

/-! ## What the expansion comes to -/

section

variable (workDir : Location) (read : String → Except String String)

/-- The content behind a reference inside the files at `active`, or what is wrong with it. -/
def opening (active : List Location) (path : String) : Except ExpansionError String :=
  if path = "" then .error .missingName
  else if active.contains (Path.resolve workDir path) then .error (.selfInclusion path)
  else (read path).mapError (.unreadable path)

/-- The expansion of tokens inside the files at `active` ends with this result. -/
inductive Settles : List Location → List String → Except ExpansionError (List String) → Prop
  | nil {active : List Location} : Settles active [] (.ok [])
  | word {active : List Location} {token : String} {rest : List String}
      {result : Except ExpansionError (List String)} (hword : reference? token = none)
      (hrest : Settles active rest result) :
      Settles active (token :: rest) (result.map (token :: ·))
  | offence {active : List Location} {token path : String} {rest : List String}
      {e : ExpansionError} (htoken : reference? token = some path)
      (hopen : opening workDir read active path = .error e) :
      Settles active (token :: rest) (.error e)
  | failure {active : List Location} {token path content : String} {rest : List String}
      {e : ExpansionError} (htoken : reference? token = some path)
      (hopen : opening workDir read active path = .ok content)
      (hfile : Settles (Path.resolve workDir path :: active) (tokenize content) (.error e)) :
      Settles active (token :: rest) (.error e)
  | file {active : List Location} {token path content : String} {rest nested : List String}
      {result : Except ExpansionError (List String)} (htoken : reference? token = some path)
      (hopen : opening workDir read active path = .ok content)
      (hfile : Settles (Path.resolve workDir path :: active) (tokenize content) (.ok nested))
      (hrest : Settles active rest result) :
      Settles active (token :: rest) (result.map (nested ++ ·))

/-- The expansion comes to a reference that names this path. -/
inductive Meets : List Location → List String → String → Prop
  | here {active : List Location} {token path : String} {rest : List String}
      (htoken : reference? token = some path) (hname : path ≠ "") :
      Meets active (token :: rest) path
  | inside {active : List Location} {token path content met : String} {rest : List String}
      (htoken : reference? token = some path)
      (hopen : opening workDir read active path = .ok content)
      (hmeets : Meets (Path.resolve workDir path :: active) (tokenize content) met) :
      Meets active (token :: rest) met
  | pastWord {active : List Location} {token met : String} {rest : List String}
      (hword : reference? token = none) (hmeets : Meets active rest met) :
      Meets active (token :: rest) met
  | pastFile {active : List Location} {token path content met : String}
      {rest nested : List String} (htoken : reference? token = some path)
      (hopen : opening workDir read active path = .ok content)
      (hfile : Settles workDir read (Path.resolve workDir path :: active) (tokenize content)
        (.ok nested))
      (hmeets : Meets active rest met) : Meets active (token :: rest) met

end

/-- What comes first fails, or it ends well and the rest is added behind it. -/
def Sequel (first rest : Except ExpansionError (List String) → Prop)
    (result : Except ExpansionError (List String)) : Prop :=
  (∃ e, first (.error e) ∧ result = .error e) ∨
    ∃ words ending, first (.ok words) ∧ rest ending ∧ result = ending.map (words ++ ·)

/-- What one token comes to. -/
def Piece (workDir : Location) (read : String → Except String String) (active : List Location)
    (token : String) : Except ExpansionError (List String) → Prop :=
  match reference? token with
  | none => (· = .ok [token])
  | some path =>
      match opening workDir read active path with
      | .error e => (· = .error e)
      | .ok content => Settles workDir read (Path.resolve workDir path :: active) (tokenize content)

section

variable {workDir key : Location} {read read' : String → Except String String}
  {active active' : List Location} {tokens before after rest words : List String}
  {token path content met : String} {result result' : Except ExpansionError (List String)}
  {first second third first' second' : Except ExpansionError (List String) → Prop}

theorem map_append_map (first second : List String) :
    (result.map (second ++ ·)).map (first ++ ·) = result.map (first ++ second ++ ·) := by
  cases result <;> simp [Except.map]

theorem sequel_assoc :
    Sequel (Sequel first second) third result ↔ Sequel first (Sequel second third) result := by
  constructor
  · rintro (⟨e, ⟨e', hfirst, ⟨⟩⟩ | ⟨words, ending, hfirst, hsecond, hending⟩, rfl⟩ |
      ⟨words, ending, ⟨e, -, ⟨⟩⟩ | ⟨words', ending', hfirst, hsecond, hending⟩, hthird, rfl⟩)
    · exact .inl ⟨e, hfirst, rfl⟩
    · rw [eq_comm, map_eq_error_iff] at hending
      subst hending
      exact .inr ⟨words, .error e, hfirst, .inl ⟨e, hsecond, rfl⟩, rfl⟩
    · obtain ⟨more, rfl, rfl⟩ := map_eq_ok_iff.1 hending.symm
      exact .inr ⟨words', _, hfirst, .inr ⟨more, ending, hsecond, hthird, rfl⟩,
        (map_append_map words' more).symm⟩
  · rintro (⟨e, hfirst, rfl⟩ | ⟨words, ending, hfirst, ⟨e, hsecond, rfl⟩ |
      ⟨words', ending', hsecond, hthird, rfl⟩, rfl⟩)
    · exact .inl ⟨e, .inl ⟨e, hfirst, rfl⟩, rfl⟩
    · exact .inl ⟨e, .inr ⟨words, .error e, hfirst, hsecond, rfl⟩, rfl⟩
    · exact .inr ⟨words ++ words', ending', .inr ⟨words, .ok words', hfirst, hsecond, rfl⟩, hthird,
        map_append_map words words'⟩

/-- The rest only matters where what comes first ends well. -/
theorem Sequel.congr (hfirst : ∀ result, first result ↔ first' result)
    (hsecond : ∀ words, first (.ok words) → ∀ result, second result ↔ second' result) :
    Sequel first second result ↔ Sequel first' second' result := by
  refine or_congr (exists_congr fun e => and_congr_left fun _ => hfirst _)
    (exists_congr fun words => exists_congr fun ending => ?_)
  constructor
  · rintro ⟨hwords, hending, hresult⟩
    exact ⟨(hfirst _).1 hwords, (hsecond words hwords _).1 hending, hresult⟩
  · rintro ⟨hwords, hending, hresult⟩
    have hwords := (hfirst _).2 hwords
    exact ⟨hwords, (hsecond words hwords _).2 hending, hresult⟩

theorem settles_nil_iff : Settles workDir read active [] result ↔ result = .ok [] := by
  constructor
  · rintro ⟨⟩
    rfl
  · rintro rfl
    exact .nil

theorem sequel_nil_left :
    Sequel (Settles workDir read active []) second result ↔ second result := by
  have hsame (ending : Except ExpansionError (List String)) :
      ending.map (fun words => [] ++ words) = ending := by
    cases ending <;> rfl
  simp only [Sequel, settles_nil_iff]
  constructor
  · rintro (⟨e, ⟨⟩, -⟩ | ⟨words, ending, ⟨⟩, hsecond, rfl⟩)
    rwa [hsame]
  · intro hsecond
    exact .inr ⟨[], result, rfl, hsecond, (hsame result).symm⟩

theorem sequel_nil_right :
    Sequel first (Settles workDir read active []) result ↔ first result := by
  simp only [Sequel, settles_nil_iff]
  constructor
  · rintro (⟨e, hfirst, rfl⟩ | ⟨words, ending, hfirst, rfl, rfl⟩)
    · exact hfirst
    · simpa [Except.map] using hfirst
  · intro hfirst
    cases result with
    | error e => exact .inl ⟨e, hfirst, rfl⟩
    | ok words => exact .inr ⟨words, .ok [], hfirst, rfl, by simp [Except.map]⟩

theorem settles_cons_iff :
    Settles workDir read active (token :: rest) result ↔
      Sequel (Piece workDir read active token) (Settles workDir read active rest) result := by
  constructor
  · intro h
    cases h with
    | word hword hrest =>
        refine .inr ⟨[token], _, ?_, hrest, rfl⟩
        simp [Piece, hword]
    | offence htoken hopen =>
        refine .inl ⟨_, ?_, rfl⟩
        simp [Piece, htoken, hopen]
    | failure htoken hopen hfile =>
        refine .inl ⟨_, ?_, rfl⟩
        simpa [Piece, htoken, hopen] using hfile
    | file htoken hopen hfile hrest =>
        refine .inr ⟨_, _, ?_, hrest, rfl⟩
        simpa [Piece, htoken, hopen] using hfile
  · intro h
    cases htoken : reference? token with
    | none =>
        simp only [Sequel, Piece, htoken] at h
        obtain ⟨e, ⟨⟩, -⟩ | ⟨words, ending, ⟨⟩, hrest, rfl⟩ := h
        exact .word htoken hrest
    | some path =>
        cases hopen : opening workDir read active path with
        | error e =>
            simp only [Sequel, Piece, htoken, hopen] at h
            obtain ⟨e, ⟨⟩, rfl⟩ | ⟨words, ending, ⟨⟩, -, -⟩ := h
            exact .offence htoken hopen
        | ok content =>
            simp only [Sequel, Piece, htoken, hopen] at h
            obtain ⟨e, hfile, rfl⟩ | ⟨words, ending, hfile, hrest, rfl⟩ := h
            · exact .failure htoken hopen hfile
            · exact .file htoken hopen hfile hrest

/-- Tokens side by side are expanded one part after the other. -/
theorem settles_append_iff :
    Settles workDir read active (before ++ after) result ↔
      Sequel (Settles workDir read active before) (Settles workDir read active after) result := by
  induction before generalizing result with
  | nil => exact sequel_nil_left.symm
  | cons token before ih =>
      rw [List.cons_append, settles_cons_iff]
      calc Sequel (Piece workDir read active token) (Settles workDir read active (before ++ after))
            result
        _ ↔ Sequel (Piece workDir read active token)
              (Sequel (Settles workDir read active before) (Settles workDir read active after))
              result := Sequel.congr (fun _ => Iff.rfl) fun _ _ _ => ih
        _ ↔ Sequel (Sequel (Piece workDir read active token) (Settles workDir read active before))
              (Settles workDir read active after) result := sequel_assoc.symm
        _ ↔ Sequel (Settles workDir read active (token :: before))
              (Settles workDir read active after) result :=
            Sequel.congr (fun _ => settles_cons_iff.symm) fun _ _ _ => Iff.rfl

/-! ## References met -/

@[simp] theorem not_meets_nil : ¬ Meets workDir read active [] met := by
  rintro ⟨⟩

theorem meets_word_iff (hword : reference? token = none) :
    Meets workDir read active (token :: rest) met ↔ Meets workDir read active rest met := by
  constructor
  · intro h
    cases h with
    | pastWord _ hmeets => exact hmeets
    | here htoken | inside htoken | pastFile htoken =>
        rw [hword] at htoken
        cases htoken
  · exact .pastWord hword

theorem Meets.of_reference (h : Meets workDir read active (token :: rest) met)
    (htoken : reference? token = some path)
    (hopen : opening workDir read active path = .ok content) :
    met = path ∨ Meets workDir read (Path.resolve workDir path :: active) (tokenize content) met ∨
      Meets workDir read active rest met := by
  cases h with
  | here htoken' =>
      cases htoken.symm.trans htoken'
      exact .inl rfl
  | inside htoken' hopen' hmeets =>
      cases htoken.symm.trans htoken'
      cases hopen.symm.trans hopen'
      exact .inr (.inl hmeets)
  | pastWord hword =>
      rw [htoken] at hword
      cases hword
  | pastFile _ _ _ hmeets => exact .inr (.inr hmeets)

theorem Meets.append_left (h : Meets workDir read active before met) (after : List String) :
    Meets workDir read active (before ++ after) met := by
  induction h with
  | here htoken hname => exact .here htoken hname
  | inside htoken hopen hmeets => exact .inside htoken hopen hmeets
  | pastWord hword _ ih => exact .pastWord hword ih
  | pastFile htoken hopen hfile _ ih => exact .pastFile htoken hopen hfile ih

/-- Once the expansion is past the first tokens it comes to what the others lead to. -/
theorem Meets.append_right (hbefore : Settles workDir read active before result)
    (hok : result = .ok words) (h : Meets workDir read active after met) :
    Meets workDir read active (before ++ after) met := by
  induction hbefore generalizing words with
  | nil => exact h
  | word hword _ ih =>
      obtain ⟨rest, hrest, -⟩ := map_eq_ok_iff.1 hok
      exact .pastWord hword (ih hrest h)
  | offence | failure => cases hok
  | file htoken hopen hfile _ _ ih =>
      obtain ⟨rest, hrest, -⟩ := map_eq_ok_iff.1 hok
      exact .pastFile htoken hopen hfile (ih hrest h)

/-! ## Expansion without the file -/

/-- Readings and active files that differ at most in the files at `key`. -/
structure AgreeOff (workDir key : Location) (read read' : String → Except String String)
    (active active' : List Location) : Prop where
  read_eq : ∀ path, Path.resolve workDir path ≠ key → read' path = read path
  mem_iff : ∀ l, l ≠ key → (l ∈ active' ↔ l ∈ active)

theorem AgreeOff.opening_eq (h : AgreeOff workDir key read read' active active')
    (hpath : path ≠ "" → Path.resolve workDir path ≠ key) :
    opening workDir read' active' path = opening workDir read active path := by
  unfold opening
  by_cases hname : path = ""
  · rw [if_pos hname, if_pos hname]
  · simp only [hname, List.contains_iff_mem, h.read_eq path (hpath hname),
      h.mem_iff _ (hpath hname)]

theorem AgreeOff.cons (h : AgreeOff workDir key read read' active active') (l : Location) :
    AgreeOff workDir key read read' (l :: active) (l :: active') where
  read_eq := h.read_eq
  mem_iff m hm := by rw [List.mem_cons, List.mem_cons, h.mem_iff m hm]

/-- An expansion that comes to no reference to a file is not affected by it. -/
theorem Settles.of_fresh (h : Settles workDir read active tokens result)
    (hagree : AgreeOff workDir key read read' active active')
    (hfresh : ∀ met, Meets workDir read active tokens met → Path.resolve workDir met ≠ key) :
    Settles workDir read' active' tokens result := by
  induction h generalizing active' with
  | nil => exact .nil
  | word hword _ ih =>
      exact .word hword (ih hagree fun met hmet => hfresh met (.pastWord hword hmet))
  | offence htoken hopen =>
      rw [← hagree.opening_eq fun hname => hfresh _ (.here htoken hname)] at hopen
      exact .offence htoken hopen
  | failure htoken hopen _ ih =>
      have hinside := ih (hagree.cons _) fun met hmet => hfresh met (.inside htoken hopen hmet)
      rw [← hagree.opening_eq fun hname => hfresh _ (.here htoken hname)] at hopen
      exact .failure htoken hopen hinside
  | file htoken hopen hfile _ ih ihrest =>
      have hinside := ih (hagree.cons _) fun met hmet => hfresh met (.inside htoken hopen hmet)
      have hpast := ihrest hagree fun met hmet => hfresh met (.pastFile htoken hopen hfile hmet)
      rw [← hagree.opening_eq fun hname => hfresh _ (.here htoken hname)] at hopen
      exact .file htoken hopen hinside hpast

theorem Settles.to_fresh (h : Settles workDir read' active' tokens result)
    (hagree : AgreeOff workDir key read read' active active')
    (hfresh : ∀ met, Meets workDir read active tokens met → Path.resolve workDir met ≠ key) :
    Settles workDir read active tokens result := by
  induction h generalizing active with
  | nil => exact .nil
  | word hword _ ih =>
      exact .word hword (ih hagree fun met hmet => hfresh met (.pastWord hword hmet))
  | offence htoken hopen =>
      rw [hagree.opening_eq fun hname => hfresh _ (.here htoken hname)] at hopen
      exact .offence htoken hopen
  | failure htoken hopen _ ih =>
      rw [hagree.opening_eq fun hname => hfresh _ (.here htoken hname)] at hopen
      exact .failure htoken hopen
        (ih (hagree.cons _) fun met hmet => hfresh met (.inside htoken hopen hmet))
  | file htoken hopen _ _ ih ihrest =>
      rw [hagree.opening_eq fun hname => hfresh _ (.here htoken hname)] at hopen
      -- what is met further right is told by the expansion of this file without the other one
      have hinside := ih (hagree.cons _) fun met hmet => hfresh met (.inside htoken hopen hmet)
      exact .file htoken hopen hinside
        (ihrest hagree fun met hmet => hfresh met (.pastFile htoken hopen hinside hmet))

theorem settles_iff_of_fresh (hagree : AgreeOff workDir key read read' active active')
    (hfresh : ∀ met, Meets workDir read active tokens met → Path.resolve workDir met ≠ key) :
    Settles workDir read active tokens result ↔ Settles workDir read' active' tokens result :=
  ⟨fun h => h.of_fresh hagree hfresh, fun h => h.to_fresh hagree hfresh⟩

/-! ## Arguments in a file -/

theorem opening_update (hpath : path ≠ "") :
    opening workDir (Function.update read path (.ok content)) [] path = .ok content := by
  simp [opening, hpath, Except.mapError]

theorem agreeOff_update (hactive : ∀ l, l ≠ Path.resolve workDir path → l ∉ active) :
    AgreeOff workDir (Path.resolve workDir path) read (Function.update read path (.ok content))
      [] active where
  read_eq other hother := by
    have hne : other ≠ path := by
      rintro rfl
      exact hother rfl
    exact Function.update_of_ne hne ..
  mem_iff l hl := by simp [hactive l hl]

/-- Moving tokens into a fresh file leaves the expansion as it was. -/
theorem settles_update_iff (hwords : ∀ token ∈ tokens, IsWord token)
    (hcontent : LaysOut tokens content) (hpath : path ≠ "")
    (hfresh : ∀ met, Meets workDir read [] (before ++ tokens ++ after) met →
      Path.resolve workDir met ≠ Path.resolve workDir path) :
    Settles workDir (Function.update read path (.ok content)) []
        (before ++ ["@" ++ path] ++ after) result ↔
      Settles workDir read [] (before ++ tokens ++ after) result := by
  have htoken : reference? ("@" ++ path) = some path := reference?_eq_some_iff.2 rfl
  have houter : AgreeOff workDir (Path.resolve workDir path) read
      (Function.update read path (.ok content)) [] [] := agreeOff_update fun _ _ => by simp
  have hinner : AgreeOff workDir (Path.resolve workDir path) read
      (Function.update read path (.ok content)) [] [Path.resolve workDir path] :=
    agreeOff_update fun l hl => by simp [hl]
  have hmoved (result : Except ExpansionError (List String)) :
      Settles workDir (Function.update read path (.ok content)) [] ["@" ++ path] result ↔
        Settles workDir (Function.update read path (.ok content)) [Path.resolve workDir path]
          tokens result := by
    rw [settles_cons_iff, sequel_nil_right]
    simp only [Piece, htoken, opening_update hpath, tokenize_of_laysOut hcontent hwords]
  rw [settles_append_iff, settles_append_iff]
  symm
  refine Sequel.congr (fun result => ?_) fun words hfirst result => ?_
  · rw [settles_append_iff, settles_append_iff]
    refine Sequel.congr (fun result => ?_) fun words hbefore result => ?_
    · refine settles_iff_of_fresh houter fun met hmet => hfresh met ?_
      rw [List.append_assoc]
      exact hmet.append_left _
    · rw [hmoved]
      refine settles_iff_of_fresh hinner fun met hmet => hfresh met ?_
      exact (hmet.append_right hbefore rfl).append_left _
  · exact settles_iff_of_fresh houter fun met hmet => hfresh met (hmet.append_right hfirst rfl)

/-! ## Readers -/

/-- For a reader the expansion always comes to something, the value of the function. -/
theorem settles_iff_expandWithin {r : Reader} :
    Settles workDir r.read active tokens result ↔
      result = expandWithin workDir r active tokens := by
  fun_induction expandWithin workDir r active tokens generalizing result with
  | case1 => exact settles_nil_iff
  | case2 active token rest hword ih =>
      rw [settles_cons_iff]
      simp [Sequel, Piece, hword, ih]
  | case3 active token rest htoken =>
      rw [settles_cons_iff]
      simp [Sequel, Piece, htoken, opening]
  | case4 active token rest path htoken hname hactive =>
      rw [settles_cons_iff]
      simp [Sequel, Piece, htoken, opening, hname, hactive]
  | case5 active token rest path htoken hname hactive reason hread =>
      rw [settles_cons_iff]
      simp [Sequel, Piece, htoken, opening, hname, hactive, hread, Except.mapError]
  | case6 active token rest path htoken hname hactive content hread e hfile ih =>
      rw [hfile] at ih
      rw [settles_cons_iff]
      simp [Sequel, Piece, htoken, opening, hname, hactive, hread, Except.mapError, ih]
  | case7 active token rest path htoken hname hactive content hread nested hfile ih ihrest =>
      rw [hfile] at ih
      rw [settles_cons_iff]
      simp [Sequel, Piece, htoken, opening, hname, hactive, hread, Except.mapError, ih, ihrest]

end

end ResponseFile

/-- The reader for which this path has this content. -/
def Reader.withFile (r : Reader) (path content : String) : Reader where
  read := Function.update r.read path (.ok content)
  finite := by
    obtain ⟨paths, hpaths⟩ := r.finite
    refine ⟨path :: paths, fun other text htext => ?_⟩
    by_cases hother : other = path
    · rw [hother]
      exact List.mem_cons_self
    · rw [Function.update_of_ne hother] at htext
      exact List.mem_cons_of_mem _ (hpaths other text htext)

namespace CommandLine

open ResponseFile

/-- Parsing these arguments, with files read this way, ends with this result. -/
def Parses (workDir : Location) (read : String → Except String String) (args : List String)
    (result : Except UsageError Command) : Prop :=
  (∃ e, Settles workDir read [] args (.error e) ∧ result = .error (.expansion e)) ∨
    ∃ tokens, Settles workDir read [] args (.ok tokens) ∧ result = parseTokens tokens

theorem parses_iff_parse {workDir : Location} {r : Reader} {args : List String}
    {result : Except UsageError Command} :
    Parses workDir r.read args result ↔ result = parse workDir r args := by
  unfold Parses parse expand
  simp only [settles_iff_expandWithin]
  cases expandWithin workDir r [] args with
  | error e => simp
  | ok tokens => simp

/-- Arguments moved into a fresh file, with blanks between them, are parsed as they were before. -/
theorem parse_moved (workDir : Location) (read : String → Except String String)
    (path content : String) (before moved after : List String)
    (hmoved : ∀ token ∈ moved, IsWord token) (hcontent : LaysOut moved content)
    (hpath : path ≠ "")
    (hfresh : ∀ met, Meets workDir read [] (before ++ moved ++ after) met →
      Path.resolve workDir met ≠ Path.resolve workDir path) :
    (∀ result, Parses workDir (Function.update read path (.ok content))
        (before ++ ["@" ++ path] ++ after) result ↔
      Parses workDir read (before ++ moved ++ after) result) ∧
    ∀ r : Reader, r.read = read →
      parse workDir (r.withFile path content) (before ++ ["@" ++ path] ++ after) =
        parse workDir r (before ++ moved ++ after) := by
  have hparses (result : Except UsageError Command) :
      Parses workDir (Function.update read path (.ok content))
          (before ++ ["@" ++ path] ++ after) result ↔
        Parses workDir read (before ++ moved ++ after) result := by
    unfold Parses
    simp only [settles_update_iff hmoved hcontent hpath hfresh]
  refine ⟨hparses, ?_⟩
  rintro r rfl
  rw [← parses_iff_parse, ← hparses]
  have hself : Parses workDir (r.withFile path content).read (before ++ ["@" ++ path] ++ after)
      (parse workDir (r.withFile path content) (before ++ ["@" ++ path] ++ after)) :=
    parses_iff_parse.2 rfl
  exact hself

/-- The value of a flag, a reference to another file and the end of options, moved together. -/
theorem parse_moved_value_and_reference :
    parse [] ((Reader.ofTable [("r", .ok "-v")]).withFile "f" "3\n@r --") ["-O", "@f", "-a.py"] =
      .ok (.compile (Arguments.collect ["-O", "3", "-v", "--", "-a.py"] "-a.py"
        [.value .optLevel "3", .toggle .verbose])) := by
  let r := Reader.ofTable [("r", .ok "-v")]
  have hwords : ∀ token ∈ ["3", "@r", "--"], IsWord token := by
    intro token htoken
    have hall : ∀ token ∈ ["3", "@r", "--"],
        token ≠ "" ∧ token.toList.all (fun c => !Text.isBlank c) = true := by decide
    obtain ⟨hne, hplain⟩ := hall token htoken
    exact ⟨hne, by simpa using hplain⟩
  have hcontent : LaysOut ["3", "@r", "--"] "3\n@r --" := by
    have hnone : IsBlank "" := by simp [IsBlank]
    have hline : "\n".toList.all Text.isBlank = true := by decide
    have hspace : " ".toList.all Text.isBlank = true := by decide
    rw [List.all_eq_true] at hline hspace
    have htext : "3\n@r --" = "" ++ "3" ++ "\n" ++ ("" ++ "@r" ++ " " ++ ("" ++ "--" ++ "")) := by
      decide
    rw [htext]
    exact .more hnone hline (by decide) (.more hnone hspace (by decide) (.last hnone hnone))
  have hopen : opening [] r.read [] "r" = .ok "-v" := rfl
  have htokenize : tokenize "-v" = ["-v"] := by decide
  have hfresh : ∀ met, Meets [] r.read [] ["-O", "3", "@r", "--", "-a.py"] met →
      Path.resolve [] met ≠ Path.resolve [] "f" := by
    intro met hmet
    rw [meets_word_iff (by decide), meets_word_iff (by decide)] at hmet
    rcases hmet.of_reference (by decide) hopen with rfl | hinside | hpast
    · decide
    · rw [htokenize, meets_word_iff (by decide)] at hinside
      exact absurd hinside not_meets_nil
    · rw [meets_word_iff (by decide), meets_word_iff (by decide)] at hpast
      exact absurd hpast not_meets_nil
  have hsettles : Settles [] r.read [] ["-O", "3", "@r", "--", "-a.py"]
      (.ok ["-O", "3", "-v", "--", "-a.py"]) := by
    have hinside : Settles [] r.read [Path.resolve [] "r"] (tokenize "-v") (.ok ["-v"]) := by
      rw [htokenize]
      exact .word (by decide) .nil
    have hpast : Settles [] r.read [] ["--", "-a.py"] (.ok ["--", "-a.py"]) :=
      .word (by decide) (.word (by decide) .nil)
    exact .word (by decide) (.word (by decide) (.file (by decide) hopen hinside hpast))
  have hsame := (parse_moved [] r.read "f" "3\n@r --" ["-O"] ["3", "@r", "--"] ["-a.py"] hwords
    hcontent (by decide) hfresh).2 r rfl
  rw [show ["-O", "@f", "-a.py"] = ["-O"] ++ ["@" ++ "f"] ++ ["-a.py"] from rfl, hsame]
  symm
  rw [← parses_iff_parse]
  exact .inr ⟨_, hsettles, by decide⟩

end CommandLine

end CompilerDriver
