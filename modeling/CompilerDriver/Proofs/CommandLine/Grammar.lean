import CompilerDriver.CommandLine.Arguments
import CompilerDriver.Proofs.ResponseFile.Inlining

/-!
# The grammar of command lines

A command line is a sequence of groups, which may be ended by `--` and further operands.  A list of
tokens splits in at most one way, and a parsed command line says what its split says.  A scan finds
the split whenever there is one; else a token settles it, or a flag finds no value.
-/

namespace CompilerDriver.CommandLine

/-! ## Groups and splits -/

/-- The letters that switch something on. -/
def toggleLetters : List Char := ['E', 'e', 'v', 'g']

/-- The letters that take a value. -/
def valueLetters : List Char := ['f', 'p', 'm', 'I', 'L', 'D', 'O', 'o']

/-- A token that starts with a dash and is not a dash alone. -/
def OptionLike (token : String) : Prop :=
  ∃ c cs, token.toList = '-' :: c :: cs

/-- The tokens of one operand, or of one option with its value. -/
inductive Group where
  | operand (token : String)
  | toggles (letters : List Char)
  | attached (letters : List Char) (flag : Char) (value : String)
  | separate (letters : List Char) (flag : Char) (value : String)
  deriving DecidableEq, Repr

namespace Group

def tokens : Group → List String
  | operand token => [token]
  | toggles letters => [String.ofList ('-' :: letters)]
  | attached letters flag value => [String.ofList ('-' :: (letters ++ flag :: value.toList))]
  | separate letters flag value => [String.ofList ('-' :: (letters ++ [flag])), value]

def WellFormed : Group → Prop
  | operand token => ¬ OptionLike token
  | toggles letters => letters ⊆ toggleLetters ∧ letters ≠ []
  | attached letters flag value => letters ⊆ toggleLetters ∧ flag ∈ valueLetters ∧ value ≠ ""
  | separate letters flag value =>
      letters ⊆ toggleLetters ∧ flag ∈ valueLetters ∧ ¬ OptionLike value

def operand? : Group → Option String
  | operand token => some token
  | _ => none

/-- The letters that the group switches on. -/
def letters : Group → List Char
  | operand _ => []
  | toggles letters | attached letters _ _ | separate letters _ _ => letters

/-- The value that the group gives to a letter. -/
def value? (c : Char) : Group → Option String
  | attached _ flag value | separate _ flag value => if flag = c then some value else none
  | _ => none

end Group

/-- Groups, and what stands behind `--` if it occurs. -/
structure Split where
  groups : List Group
  rest : Option (List String)
  deriving DecidableEq, Repr

namespace Split

def ending : Option (List String) → List String
  | none => []
  | some rest => "--" :: rest

/-- The split is one of these tokens. -/
structure Spells (s : Split) (tokens : List String) : Prop where
  wellFormed : ∀ g ∈ s.groups, g.WellFormed
  tokens_eq : s.groups.flatMap Group.tokens ++ ending s.rest = tokens

def operands (s : Split) : List String :=
  s.groups.filterMap Group.operand? ++ s.rest.getD []

def letters (s : Split) : List Char :=
  s.groups.flatMap Group.letters

def values (s : Split) (flag : Char) : List String :=
  s.groups.filterMap (Group.value? flag)

/-- The record holds what the split of its tokens says. -/
structure Describes (s : Split) (tokens : List String) (args : Arguments) : Prop where
  tokens : args.tokens = tokens
  inputPath : s.operands = [args.inputPath]
  outputPath : args.outputPath = (s.values 'o').getLast?
  translateOnly : args.translateOnly = true ↔ 'E' ∈ s.letters ∨ 'e' ∈ s.letters
  rawTranslateOnly : args.rawTranslateOnly = true ↔ 'e' ∈ s.letters
  verbose : args.verbose = true ↔ 'v' ∈ s.letters
  debug : args.debug = true ↔ 'g' ∈ s.letters
  passes : args.passes = s.values 'p'
  compilerSwitches : args.compilerSwitches = s.values 'f'
  machineSwitches : args.machineSwitches = s.values 'm'
  includeDirs : args.includeDirs = s.values 'I'
  libraryDirs : args.libraryDirs = s.values 'L'
  defines : args.defines = s.values 'D'
  optLevels : args.optLevels = if s.values 'O' = [] then ["2"] else s.values 'O'

end Split

/-! ## The first group of a list of tokens -/

/-- The group whose first token has these characters behind its dash, with what follows it. -/
def Group.ofCluster? (cs : List Char) (rest : List String) : Option (Group × List String) :=
  let letters := cs.takeWhile (· ∈ toggleLetters)
  match cs.dropWhile (· ∈ toggleLetters), rest with
  | [], rest => some (.toggles letters, rest)
  | [_], [] => none
  | [flag], value :: rest => some (.separate letters flag value, rest)
  | flag :: value, rest => some (.attached letters flag (String.ofList value), rest)

/-- The group that starts a list of tokens, with what follows it. -/
def Group.first? : List String → Option (Group × List String)
  | [] => none
  | token :: rest =>
      match token.toList with
      | ['-', '-'] => none
      | '-' :: c :: cs => ofCluster? (c :: cs) rest
      | _ => some (.operand token, rest)

section

variable {letters : List Char} {flag : Char}

theorem not_toggle_of_value (hflag : flag ∈ valueLetters) : flag ∉ toggleLetters := by
  simp only [valueLetters, List.mem_cons, List.not_mem_nil, or_false] at hflag
  rcases hflag with rfl | rfl | rfl | rfl | rfl | rfl | rfl | rfl <;> decide

theorem not_dash_of_toggle (hletters : letters ⊆ toggleLetters) : '-' ∉ letters := by
  intro hdash
  exact absurd (hletters hdash) (by decide)

theorem head?_toggles_ne_dash (hletters : letters ⊆ toggleLetters) : letters.head? ≠ some '-' :=
  fun hhead => not_dash_of_toggle hletters (List.mem_of_head? hhead)

theorem takeWhile_toggles (hletters : letters ⊆ toggleLetters) (cs : List Char) :
    (letters ++ cs).takeWhile (· ∈ toggleLetters) =
      letters ++ cs.takeWhile (· ∈ toggleLetters) :=
  List.takeWhile_append_of_pos fun c hc => by simpa using hletters hc

theorem dropWhile_toggles (hletters : letters ⊆ toggleLetters) (cs : List Char) :
    (letters ++ cs).dropWhile (· ∈ toggleLetters) = cs.dropWhile (· ∈ toggleLetters) :=
  List.dropWhile_append_of_pos fun c hc => by simpa using hletters hc

end

namespace Group

theorem first?_cluster {cs : List Char} (hne : cs ≠ []) (hdash : cs.head? ≠ some '-')
    (rest : List String) :
    first? (String.ofList ('-' :: cs) :: rest) = ofCluster? cs rest := by
  obtain ⟨c, cs, rfl⟩ := List.exists_cons_of_ne_nil hne
  have hc : c ≠ '-' := by simpa using hdash
  simp [first?, hc]

theorem head?_ne_dash {letters : List Char} {flag : Char} (hletters : letters ⊆ toggleLetters)
    (hflag : flag ∈ valueLetters) (cs : List Char) :
    (letters ++ flag :: cs).head? ≠ some '-' := by
  intro hhead
  cases letters with
  | nil =>
      obtain rfl : flag = '-' := by simpa using hhead
      exact absurd hflag (by decide)
  | cons c letters =>
      obtain rfl : c = '-' := by simpa using hhead
      exact not_dash_of_toggle hletters (List.mem_cons_self ..)

theorem first?_tokens {g : Group} (hg : g.WellFormed) (rest : List String) :
    first? (g.tokens ++ rest) = some (g, rest) := by
  cases g with
  | operand token =>
      simp only [tokens, List.cons_append, List.nil_append, first?]
      split
      · rename_i htoken
        exact absurd ⟨_, _, htoken⟩ hg
      · rename_i htoken
        exact absurd ⟨_, _, htoken⟩ hg
      · rfl
  | toggles letters =>
      obtain ⟨hletters, hne⟩ := hg
      have htake := takeWhile_toggles hletters []
      have hdrop := dropWhile_toggles hletters []
      rw [List.append_nil] at htake hdrop
      rw [tokens, List.singleton_append, first?_cluster hne (head?_toggles_ne_dash hletters)]
      unfold ofCluster?
      rw [htake, hdrop]
      simp
  | attached letters flag value =>
      obtain ⟨hletters, hflag, hvalue⟩ := hg
      obtain ⟨c, cs, hcs⟩ := List.exists_cons_of_ne_nil
        (mt String.toList_eq_nil_iff.1 hvalue)
      have hvalue' : String.ofList (c :: cs) = value := by rw [← hcs, String.ofList_toList]
      rw [tokens, List.singleton_append, first?_cluster (by simp) (head?_ne_dash hletters hflag _)]
      unfold ofCluster?
      rw [takeWhile_toggles hletters, dropWhile_toggles hletters]
      simp [not_toggle_of_value hflag, hcs, hvalue']
  | separate letters flag value =>
      obtain ⟨hletters, hflag, -⟩ := hg
      rw [tokens, List.cons_append, first?_cluster (by simp) (head?_ne_dash hletters hflag _)]
      unfold ofCluster?
      rw [takeWhile_toggles hletters, dropWhile_toggles hletters]
      simp [not_toggle_of_value hflag]

@[simp] theorem first?_ending (rest : Option (List String)) :
    first? (Split.ending rest) = none := by
  cases rest with
  | none => rfl
  | some rest => simp [Split.ending, first?]

end Group

/-! ## Splits are unique -/

theorem Split.groups_unique {groups groups' : List Group} {rest rest' : Option (List String)}
    (hgroups : ∀ g ∈ groups, g.WellFormed) (hgroups' : ∀ g ∈ groups', g.WellFormed)
    (htokens : groups.flatMap Group.tokens ++ ending rest =
      groups'.flatMap Group.tokens ++ ending rest') :
    groups = groups' ∧ rest = rest' := by
  induction groups generalizing groups' with
  | nil =>
      cases groups' with
      | nil => cases rest <;> cases rest' <;> simp_all [ending]
      | cons g' groups' =>
          have hfirst := congrArg Group.first? htokens
          rw [List.flatMap_cons, List.append_assoc,
            Group.first?_tokens (hgroups' _ (List.mem_cons_self ..))] at hfirst
          simp at hfirst
  | cons g groups ih =>
      -- the tokens determine their first group, so both splits start alike
      have hg := hgroups g (List.mem_cons_self ..)
      have hfirst := congrArg Group.first? htokens
      rw [List.flatMap_cons, List.append_assoc, Group.first?_tokens hg] at hfirst
      cases groups' with
      | nil => simp at hfirst
      | cons g' groups' =>
          rw [List.flatMap_cons, List.append_assoc,
            Group.first?_tokens (hgroups' _ (List.mem_cons_self ..))] at hfirst
          obtain ⟨rfl, hrest⟩ : g = g' ∧ _ = _ := by simpa using hfirst
          obtain ⟨rfl, rfl⟩ := ih (fun _ h => hgroups _ (List.mem_cons_of_mem _ h))
            (fun _ h => hgroups' _ (List.mem_cons_of_mem _ h)) hrest
          exact ⟨rfl, rfl⟩

theorem Split.Spells.unique {s s' : Split} {tokens : List String} (h : s.Spells tokens)
    (h' : s'.Spells tokens) : s = s' := by
  obtain ⟨groups, rest⟩ := s
  obtain ⟨groups', rest'⟩ := s'
  obtain ⟨rfl, rfl⟩ :=
    groups_unique h.wellFormed h'.wellFormed (h.tokens_eq.trans h'.tokens_eq.symm)
  rfl

/-! ## Scanning a group -/

theorem mem_toggleLetters {c : Char} : c ∈ toggleLetters ↔ ∃ t : Toggle, c = t.letter := by
  constructor
  · intro hc
    simp only [toggleLetters, List.mem_cons, List.not_mem_nil, or_false] at hc
    rcases hc with rfl | rfl | rfl | rfl
    · exact ⟨.translateOnly, rfl⟩
    · exact ⟨.rawTranslateOnly, rfl⟩
    · exact ⟨.verbose, rfl⟩
    · exact ⟨.debug, rfl⟩
  · rintro ⟨t, rfl⟩
    cases t <;> decide

theorem mem_valueLetters {c : Char} : c ∈ valueLetters ↔ ∃ f : ValueFlag, c = f.letter := by
  constructor
  · intro hc
    simp only [valueLetters, List.mem_cons, List.not_mem_nil, or_false] at hc
    rcases hc with rfl | rfl | rfl | rfl | rfl | rfl | rfl | rfl
    · exact ⟨.compilerSwitch, rfl⟩
    · exact ⟨.pass, rfl⟩
    · exact ⟨.machineSwitch, rfl⟩
    · exact ⟨.includeDir, rfl⟩
    · exact ⟨.libraryDir, rfl⟩
    · exact ⟨.define, rfl⟩
    · exact ⟨.optLevel, rfl⟩
    · exact ⟨.output, rfl⟩
  · rintro ⟨f, rfl⟩
    cases f <;> decide

theorem Toggle.letter_injective {t t' : Toggle} (h : t.letter = t'.letter) : t = t' := by
  have := congrArg Toggle.ofLetter? h
  simpa using this

theorem ValueFlag.letter_injective {f f' : ValueFlag} (h : f.letter = f'.letter) : f = f' := by
  have := congrArg ValueFlag.ofLetter? h
  simpa using this

theorem Toggle.letter_inj {t t' : Toggle} : t.letter = t'.letter ↔ t = t' :=
  ⟨letter_injective, congrArg letter⟩

theorem ValueFlag.letter_inj {f f' : ValueFlag} : f.letter = f'.letter ↔ f = f' :=
  ⟨letter_injective, congrArg letter⟩

theorem form_operand_iff {token : String} : TokenForm.of token = .operand ↔ ¬ OptionLike token := by
  unfold TokenForm.of OptionLike
  split <;> simp_all

theorem isOptionLike_iff {token : String} : isOptionLike token = true ↔ OptionLike token := by
  rw [isOptionLike, bne_iff_ne, ne_eq, form_operand_iff, not_not]

theorem form_cluster {cs : List Char} (hne : cs ≠ []) (hdash : cs.head? ≠ some '-') :
    TokenForm.of (String.ofList ('-' :: cs)) = .cluster cs := by
  obtain ⟨c, cs, rfl⟩ := List.exists_cons_of_ne_nil hne
  have hc : c ≠ '-' := by simpa using hdash
  simp [TokenForm.of, hc]

/-- The toggles that letters stand for. -/
def togglesOf (letters : List Char) : List Toggle :=
  letters.filterMap Toggle.ofLetter?

theorem Cluster.read_append {letters : List Char} (hletters : letters ⊆ toggleLetters)
    (cs : List Char) :
    Cluster.read (letters ++ cs) = (togglesOf letters).foldr Cluster.cons (Cluster.read cs) := by
  induction letters with
  | nil => rfl
  | cons c letters ih =>
      obtain ⟨t, rfl⟩ := mem_toggleLetters.1 (hletters (List.mem_cons_self ..))
      have hh : t.letter ≠ 'h' := by cases t <;> decide
      have htail := ih fun d hd => hletters (List.mem_cons_of_mem _ hd)
      simp [Cluster.read, hh, htail, togglesOf]

@[simp] theorem Cluster.foldr_cons_toggles (ts us : List Toggle) :
    ts.foldr Cluster.cons (.toggles us) = .toggles (ts ++ us) := by
  induction ts with
  | nil => rfl
  | cons t ts ih => simp [ih, Cluster.cons]

@[simp] theorem Cluster.foldr_cons_valued (ts us : List Toggle) (f : ValueFlag) (cs : List Char) :
    ts.foldr Cluster.cons (.valued us f cs) = .valued (ts ++ us) f cs := by
  induction ts with
  | nil => rfl
  | cons t ts ih => simp [ih, Cluster.cons]

theorem Cluster.read_toggles {letters : List Char} (hletters : letters ⊆ toggleLetters) :
    Cluster.read letters = .toggles (togglesOf letters) := by
  have h := Cluster.read_append hletters []
  rw [List.append_nil] at h
  simp [h, Cluster.read]

theorem Cluster.read_valued {letters : List Char} (hletters : letters ⊆ toggleLetters)
    (f : ValueFlag) (cs : List Char) :
    Cluster.read (letters ++ f.letter :: cs) = .valued (togglesOf letters) f cs := by
  have hh : f.letter ≠ 'h' := by cases f <;> decide
  rw [Cluster.read_append hletters]
  simp [Cluster.read, hh]

section

variable {token : String} {rest : List String} {cs : List Char} {ts : List Toggle}
  {flag : ValueFlag}

theorem scan_operand (hform : TokenForm.of token = .operand) :
    scan (token :: rest) = (scan rest).map (.operand token :: ·) := by
  simp only [scan, hform]

theorem scan_toggles (hform : TokenForm.of token = .cluster cs)
    (hread : Cluster.read cs = .toggles ts) :
    scan (token :: rest) = (scan rest).map (toggleItems ts ++ ·) := by
  simp only [scan, hform, hread]

theorem scan_attached {c : Char} {value : List Char} (hform : TokenForm.of token = .cluster cs)
    (hread : Cluster.read cs = .valued ts flag (c :: value)) :
    scan (token :: rest) =
      (scan rest).map ((toggleItems ts ++ [.value flag (String.ofList (c :: value))]) ++ ·) := by
  simp only [scan, hform, hread]

theorem scan_separate {value : String} (hform : TokenForm.of token = .cluster cs)
    (hread : Cluster.read cs = .valued ts flag []) (hvalue : ¬ OptionLike value) :
    scan (token :: value :: rest) =
      (scan rest).map ((toggleItems ts ++ [.value flag value]) ++ ·) := by
  have hoption : isOptionLike value = false :=
    Bool.eq_false_iff.2 fun h => hvalue (isOptionLike_iff.1 h)
  simp only [scan, hform, hread, hoption, Bool.false_eq_true, if_false]

end

namespace Group

/-- What the group says to the scan. -/
def items : Group → List Item
  | operand token => [.operand token]
  | toggles letters => toggleItems (togglesOf letters)
  | attached letters flag value | separate letters flag value =>
      toggleItems (togglesOf letters) ++
        ((ValueFlag.ofLetter? flag).map fun f => Item.value f value).toList

theorem scan_tokens {g : Group} (hg : g.WellFormed) (rest : List String) :
    scan (g.tokens ++ rest) = (scan rest).map (g.items ++ ·) := by
  cases g with
  | operand token => exact scan_operand (form_operand_iff.2 hg)
  | toggles letters =>
      obtain ⟨hletters, hne⟩ := hg
      exact scan_toggles (form_cluster hne (head?_toggles_ne_dash hletters))
        (Cluster.read_toggles hletters)
  | attached letters flag value =>
      obtain ⟨hletters, hflag, hvalue⟩ := hg
      have hform := form_cluster (by simp) (head?_ne_dash hletters hflag value.toList)
      obtain ⟨f, rfl⟩ := mem_valueLetters.1 hflag
      obtain ⟨c, cs, hcs⟩ := List.exists_cons_of_ne_nil (mt String.toList_eq_nil_iff.1 hvalue)
      have hread : Cluster.read (letters ++ f.letter :: value.toList) =
          .valued (togglesOf letters) f (c :: cs) := by
        rw [Cluster.read_valued hletters, hcs]
      have hvalue' : String.ofList (c :: cs) = value := by rw [← hcs, String.ofList_toList]
      rw [tokens, List.singleton_append, scan_attached hform hread, hvalue']
      simp [items]
  | separate letters flag value =>
      obtain ⟨hletters, hflag, hvalue⟩ := hg
      have hform := form_cluster (by simp) (head?_ne_dash hletters hflag [])
      obtain ⟨f, rfl⟩ := mem_valueLetters.1 hflag
      rw [tokens, List.cons_append, List.singleton_append,
        scan_separate hform (Cluster.read_valued hletters f []) hvalue]
      simp [items]

theorem scan_groups {groups : List Group} (hgroups : ∀ g ∈ groups, g.WellFormed)
    (rest : List String) :
    scan (groups.flatMap tokens ++ rest) = (scan rest).map (groups.flatMap items ++ ·) := by
  induction groups with
  | nil => cases h : scan rest <;> simp [Except.map, h]
  | cons g groups ih =>
      obtain ⟨hg, hgroups⟩ := List.forall_mem_cons.1 hgroups
      rw [List.flatMap_cons, List.append_assoc, scan_tokens hg, ih hgroups]
      cases scan rest <;> simp [Except.map]

end Group

/-! ## Reading a scan back -/

theorem eq_of_form_endOfOptions {token : String} (h : TokenForm.of token = .endOfOptions) :
    token = "--" := by
  unfold TokenForm.of at h
  split at h <;> simp_all
  rw [← String.toList_inj]
  assumption

theorem eq_of_form_cluster {token : String} {cs : List Char}
    (h : TokenForm.of token = .cluster cs) : token = String.ofList ('-' :: cs) ∧ cs ≠ [] := by
  unfold TokenForm.of at h
  split at h <;> cases h
  rename_i htoken
  refine ⟨?_, by simp⟩
  rw [← String.toList_inj, htoken, String.toList_ofList]

theorem Cluster.eq_toggles_of_cons {t : Toggle} {c : Cluster} {ts : List Toggle}
    (h : c.cons t = .toggles ts) : ∃ us, c = .toggles us ∧ ts = t :: us := by
  cases c <;> simp_all [Cluster.cons]

theorem Cluster.eq_valued_of_cons {t : Toggle} {c : Cluster} {ts : List Toggle} {f : ValueFlag}
    {value : List Char} (h : c.cons t = .valued ts f value) :
    ∃ us, c = .valued us f value ∧ ts = t :: us := by
  cases c <;> simp_all [Cluster.cons]

theorem Cluster.letters_of_toggles {cs : List Char} {ts : List Toggle}
    (h : Cluster.read cs = .toggles ts) : cs ⊆ toggleLetters ∧ ts = togglesOf cs := by
  induction cs generalizing ts with
  | nil => simpa [Cluster.read, togglesOf, eq_comm] using h
  | cons c cs ih =>
      rw [Cluster.read] at h
      split at h
      · cases h
      · split at h
        · rename_i t ht
          obtain ⟨us, hus, rfl⟩ := eq_toggles_of_cons h
          obtain ⟨hcs, rfl⟩ := ih hus
          refine ⟨List.cons_subset.2 ⟨mem_toggleLetters.2 ⟨t, ?_⟩, hcs⟩, by simp [togglesOf, ht]⟩
          exact Toggle.ofLetter?_eq_some ht
        · split at h <;> cases h

theorem Cluster.letters_of_valued {cs value : List Char} {ts : List Toggle} {f : ValueFlag}
    (h : Cluster.read cs = .valued ts f value) :
    ∃ letters, cs = letters ++ f.letter :: value ∧ letters ⊆ toggleLetters ∧
      ts = togglesOf letters := by
  induction cs generalizing ts with
  | nil => simp [Cluster.read] at h
  | cons c cs ih =>
      rw [Cluster.read] at h
      split at h
      · cases h
      · split at h
        · rename_i t ht
          obtain ⟨us, hus, rfl⟩ := eq_valued_of_cons h
          obtain ⟨letters, rfl, hletters, rfl⟩ := ih hus
          refine ⟨c :: letters, rfl, List.cons_subset.2 ⟨?_, hletters⟩, by simp [togglesOf, ht]⟩
          exact mem_toggleLetters.2 ⟨t, Toggle.ofLetter?_eq_some ht⟩
        · split at h
          · rename_i f' hf
            cases h
            exact ⟨[], by rw [ValueFlag.ofLetter?_eq_some hf]; rfl, by simp, rfl⟩
          · cases h

theorem Split.Spells.cons {s : Split} {g : Group} {tokens : List String} (hg : g.WellFormed)
    (h : s.Spells tokens) : Spells ⟨g :: s.groups, s.rest⟩ (g.tokens ++ tokens) where
  wellFormed := List.forall_mem_cons.2 ⟨hg, h.wellFormed⟩
  tokens_eq := by rw [← h.tokens_eq, List.flatMap_cons, List.append_assoc]

/-- What the split says to the scan. -/
def Split.items (s : Split) : List Item :=
  s.groups.flatMap Group.items ++ (s.rest.getD []).map .operand

theorem Split.scan_tokens {s : Split} {tokens : List String} (h : s.Spells tokens) :
    scan tokens = .ok s.items := by
  have hending : scan (ending s.rest) = .ok ((s.rest.getD []).map .operand) := by
    cases s.rest with
    | none => rfl
    | some rest => simp [ending, scan, TokenForm.of]
  rw [← h.tokens_eq, Group.scan_groups h.wellFormed, hending]
  rfl

/-! ## How a scan ends -/

/-- The token of a cluster that ends in a flag. -/
def flagToken (letters : List Char) (flag : ValueFlag) : String :=
  String.ofList ('-' :: (letters ++ [flag.letter]))

/-- Behind complete groups a cluster ends in the flag, and what stands behind it starts with no
value. -/
def LacksValue (tokens : List String) (flag : ValueFlag) (behind : List String) : Prop :=
  ∃ (groups : List Group) (letters : List Char),
    (∀ g ∈ groups, g.WellFormed) ∧ letters ⊆ toggleLetters ∧
    tokens = groups.flatMap Group.tokens ++ flagToken letters flag :: behind ∧
    ∀ next ∈ behind.head?, OptionLike next

/-- The stops that a token causes by itself. -/
def Stop.Immediate : Stop → Prop
  | help | version | refused (.unrecognizedOption _) => True
  | refused _ => False

/-- How tokens stand to a scan: they split, or a token settles the scan whatever follows, or a
flag finds no value. -/
inductive Standing (tokens : List String) : Prop
  | splits (s : Split) (h : s.Spells tokens)
  | settled (stop : Stop) (hstop : stop.Immediate)
      (hscan : ∀ more, scan (tokens ++ more) = .error stop)
  | lacking (flag : ValueFlag) (behind : List String) (h : LacksValue tokens flag behind)

theorem LacksValue.cons {g : Group} {tokens behind : List String} {flag : ValueFlag}
    (hg : g.WellFormed) (h : LacksValue tokens flag behind) :
    LacksValue (g.tokens ++ tokens) flag behind := by
  obtain ⟨groups, letters, hgroups, hletters, rfl, hbehind⟩ := h
  refine ⟨g :: groups, letters, List.forall_mem_cons.2 ⟨hg, hgroups⟩, hletters, ?_, hbehind⟩
  rw [List.flatMap_cons, List.append_assoc]

theorem Standing.cons {g : Group} {tokens : List String} (hg : g.WellFormed)
    (h : Standing tokens) : Standing (g.tokens ++ tokens) := by
  cases h with
  | splits s hs => exact .splits _ (hs.cons hg)
  | settled stop hstop hscan =>
      refine .settled stop hstop fun more => ?_
      rw [List.append_assoc, Group.scan_tokens hg, hscan]
      rfl
  | lacking flag behind hlacks => exact .lacking flag behind (hlacks.cons hg)

theorem standing (tokens : List String) : Standing tokens := by
  -- along the recursion of the scan, which goes on behind a complete group
  fun_induction scan tokens with
  | case1 => exact .splits ⟨[], none⟩ ⟨by simp, rfl⟩
  | case2 token rest hform ih =>
      exact .cons (g := .operand token) (form_operand_iff.1 hform) ih
  | case3 token rest hform =>
      obtain rfl := eq_of_form_endOfOptions hform
      exact .splits ⟨[], some rest⟩ ⟨by simp, rfl⟩
  | case4 token rest hform =>
      exact .settled .help trivial fun more => by simp [scan, hform]
  | case5 token rest hform =>
      exact .settled .version trivial fun more => by simp [scan, hform]
  | case6 token rest name hform hhelp hversion =>
      exact .settled (.refused (.unrecognizedOption token)) trivial fun more => by
        simp only [List.cons_append, scan, hform, if_neg hhelp, if_neg hversion]
  | case7 token rest cs hform hread =>
      exact .settled .help trivial fun more => by simp [scan, hform, hread]
  | case8 token rest cs hform letter hread =>
      exact .settled (.refused (.unrecognizedOption (letterOption letter))) trivial fun more => by
        simp [scan, hform, hread]
  | case9 token rest cs hform ts hread ih =>
      obtain ⟨rfl, hne⟩ := eq_of_form_cluster hform
      obtain ⟨hletters, rfl⟩ := Cluster.letters_of_toggles hread
      exact .cons (g := .toggles cs) ⟨hletters, hne⟩ ih
  | case10 token rest cs hform ts flag c value hread ih =>
      obtain ⟨rfl, -⟩ := eq_of_form_cluster hform
      obtain ⟨letters, rfl, hletters, rfl⟩ := Cluster.letters_of_valued hread
      have hg : (Group.attached letters flag.letter (String.ofList (c :: value))).WellFormed :=
        ⟨hletters, mem_valueLetters.2 ⟨flag, rfl⟩, by simp⟩
      simpa [Group.tokens] using ih.cons hg
  | case11 token cs hform ts flag hread =>
      obtain ⟨rfl, -⟩ := eq_of_form_cluster hform
      obtain ⟨letters, rfl, hletters, rfl⟩ := Cluster.letters_of_valued hread
      exact .lacking flag [] ⟨[], letters, by simp, hletters, rfl, by simp⟩
  | case12 token cs hform ts flag hread value rest hvalue =>
      obtain ⟨rfl, -⟩ := eq_of_form_cluster hform
      obtain ⟨letters, rfl, hletters, rfl⟩ := Cluster.letters_of_valued hread
      exact .lacking flag (value :: rest)
        ⟨[], letters, by simp, hletters, rfl, by simpa using isOptionLike_iff.1 hvalue⟩
  | case13 token cs hform ts flag hread value rest hvalue ih =>
      obtain ⟨rfl, -⟩ := eq_of_form_cluster hform
      obtain ⟨letters, rfl, hletters, rfl⟩ := Cluster.letters_of_valued hread
      have hg : (Group.separate letters flag.letter value).WellFormed :=
        ⟨hletters, mem_valueLetters.2 ⟨flag, rfl⟩, fun h => hvalue (isOptionLike_iff.2 h)⟩
      simpa [Group.tokens] using ih.cons hg

theorem LacksValue.scan_eq {tokens behind : List String} {flag : ValueFlag}
    (h : LacksValue tokens flag behind) :
    scan tokens = .error (.refused (.missingValue flag)) := by
  obtain ⟨groups, letters, hgroups, hletters, rfl, hbehind⟩ := h
  have hform := form_cluster (by simp)
    (Group.head?_ne_dash hletters (mem_valueLetters.2 ⟨flag, rfl⟩) [])
  have hread := Cluster.read_valued hletters flag []
  have hscan : scan (flagToken letters flag :: behind) =
      .error (.refused (.missingValue flag)) := by
    cases behind with
    | nil => simp only [flagToken, scan, hform, hread]
    | cons next behind =>
        have hnext : isOptionLike next = true := isOptionLike_iff.2 (hbehind next rfl)
        simp only [flagToken, scan, hform, hread, hnext, if_true]
  rw [Group.scan_groups hgroups, hscan]
  rfl

/-- A scan that succeeds has found a split of the tokens. -/
theorem Split.exists_of_scan {tokens : List String} {items : List Item}
    (h : scan tokens = .ok items) : ∃ s : Split, s.Spells tokens ∧ s.items = items := by
  cases standing tokens with
  | splits s hs =>
      rw [Split.scan_tokens hs] at h
      exact ⟨s, hs, Except.ok.inj h⟩
  | settled stop _ hscan =>
      have hstop := hscan []
      rw [List.append_nil, h] at hstop
      cases hstop
  | lacking flag behind hlacks =>
      rw [hlacks.scan_eq] at h
      cases h

/-! ## What a split says -/

theorem mem_togglesOf {letters : List Char} {t : Toggle} :
    t ∈ togglesOf letters ↔ t.letter ∈ letters := by
  rw [togglesOf, List.mem_filterMap]
  constructor
  · rintro ⟨c, hc, ht⟩
    rwa [← Toggle.ofLetter?_eq_some ht]
  · intro hmem
    exact ⟨t.letter, hmem, Toggle.ofLetter?_letter t⟩

@[simp] theorem operands_toggleItems (ts : List Toggle) : operands (toggleItems ts) = [] := by
  simp [operands, toggleItems, List.filterMap_map, Function.comp_def, Item.operand?]

@[simp] theorem valuesOf_toggleItems (flag : ValueFlag) (ts : List Toggle) :
    valuesOf flag (toggleItems ts) = [] := by
  simp [valuesOf, toggleItems, List.filterMap_map, Function.comp_def, Item.valueOf?]

@[simp] theorem isOn_toggleItems (t : Toggle) (ts : List Toggle) :
    isOn t (toggleItems ts) = true ↔ t ∈ ts := by
  simp [isOn, toggleItems]

@[simp] theorem operands_value (flag : ValueFlag) (text : String) :
    operands [.value flag text] = [] := rfl

@[simp] theorem valuesOf_value (flag flag' : ValueFlag) (text : String) :
    valuesOf flag [.value flag' text] = if flag' = flag then [text] else [] := by
  by_cases h : flag' = flag <;> simp [valuesOf, Item.valueOf?, h]

@[simp] theorem isOn_value (t : Toggle) (flag : ValueFlag) (text : String) :
    isOn t [.value flag text] = false := by
  simp [isOn]

@[simp] theorem operands_operands (texts : List String) :
    operands (texts.map .operand) = texts := by
  simp [operands, List.filterMap_map, Function.comp_def, Item.operand?]

@[simp] theorem valuesOf_operands (flag : ValueFlag) (texts : List String) :
    valuesOf flag (texts.map .operand) = [] := by
  simp [valuesOf, List.filterMap_map, Function.comp_def, Item.valueOf?]

@[simp] theorem isOn_operands (t : Toggle) (texts : List String) :
    isOn t (texts.map .operand) = false := by
  simp [isOn]

namespace Group

variable {g : Group}

theorem operands_items (hg : g.WellFormed) : CommandLine.operands g.items = g.operand?.toList := by
  cases g with
  | operand token => rfl
  | toggles letters => simp [items, operand?]
  | attached letters flag value | separate letters flag value =>
      obtain ⟨f, rfl⟩ := mem_valueLetters.1 hg.2.1
      simp [items, operand?]

theorem valuesOf_items (hg : g.WellFormed) (f : ValueFlag) :
    valuesOf f g.items = (g.value? f.letter).toList := by
  cases g with
  | operand token => rfl
  | toggles letters => simp [items, value?]
  | attached letters flag value | separate letters flag value =>
      obtain ⟨f', rfl⟩ := mem_valueLetters.1 hg.2.1
      by_cases hf : f' = f <;> simp [items, value?, ValueFlag.letter_inj, hf]

theorem isOn_items (hg : g.WellFormed) (t : Toggle) :
    isOn t g.items = true ↔ t.letter ∈ g.letters := by
  cases g with
  | operand token => simp [items, letters, isOn]
  | toggles letters => simp [items, Group.letters, mem_togglesOf]
  | attached letters flag value | separate letters flag value =>
      obtain ⟨f, rfl⟩ := mem_valueLetters.1 hg.2.1
      simp [items, Group.letters, mem_togglesOf]

end Group

namespace Split

variable {s : Split}

theorem operands_items (hs : ∀ g ∈ s.groups, g.WellFormed) :
    CommandLine.operands s.items = s.operands := by
  obtain ⟨groups, rest⟩ := s
  induction groups with
  | nil => simp [items, operands]
  | cons g groups ih =>
      obtain ⟨hg, hgroups⟩ := List.forall_mem_cons.1 hs
      have htail := ih hgroups
      simp only [items, operands, operands_append, operands_operands] at htail ⊢
      cases ho : g.operand? <;> simp [Group.operands_items hg, ho, htail]

theorem valuesOf_items (hs : ∀ g ∈ s.groups, g.WellFormed) (f : ValueFlag) :
    valuesOf f s.items = s.values f.letter := by
  obtain ⟨groups, rest⟩ := s
  induction groups with
  | nil => simp [items, values]
  | cons g groups ih =>
      obtain ⟨hg, hgroups⟩ := List.forall_mem_cons.1 hs
      have htail := ih hgroups
      simp only [items, values, valuesOf_append, valuesOf_operands, List.append_nil] at htail ⊢
      cases hv : g.value? f.letter <;> simp [Group.valuesOf_items hg, hv, htail]

theorem isOn_items (hs : ∀ g ∈ s.groups, g.WellFormed) (t : Toggle) :
    isOn t s.items = true ↔ t.letter ∈ s.letters := by
  obtain ⟨groups, rest⟩ := s
  induction groups with
  | nil => simp [items, letters, isOn]
  | cons g groups ih =>
      obtain ⟨hg, hgroups⟩ := List.forall_mem_cons.1 hs
      have htail := ih hgroups
      simp only [items, letters, isOn_append, isOn_operands, Bool.or_false] at htail ⊢
      simp [Group.isOn_items hg, htail]

/-- The items of a split with one operand are collected into a record that says the same. -/
theorem describes_collect {tokens : List String} {inputPath : String} (h : s.Spells tokens)
    (hinput : s.operands = [inputPath]) :
    s.Describes tokens (Arguments.collect tokens inputPath s.items) := by
  have hvalues := valuesOf_items h.wellFormed
  have hon := isOn_items h.wellFormed
  exact {
    tokens := rfl
    inputPath := hinput
    outputPath := congrArg List.getLast? (hvalues .output)
    translateOnly := by
      simp only [Arguments.collect, Bool.or_eq_true]
      exact or_congr (hon .translateOnly) (hon .rawTranslateOnly)
    rawTranslateOnly := hon .rawTranslateOnly
    verbose := hon .verbose
    debug := hon .debug
    passes := hvalues .pass
    compilerSwitches := hvalues .compilerSwitch
    machineSwitches := hvalues .machineSwitch
    includeDirs := hvalues .includeDir
    libraryDirs := hvalues .libraryDir
    defines := hvalues .define
    optLevels := by
      have hlevels : valuesOf .optLevel s.items = s.values 'O' := hvalues .optLevel
      simp only [Arguments.collect, hlevels]
      cases s.values 'O' with
      | nil => rfl
      | cons level levels => simp }

theorem Describes.translateOnly_of_raw {tokens : List String} {args : Arguments}
    (h : s.Describes tokens args) (hraw : args.rawTranslateOnly = true) :
    args.translateOnly = true :=
  h.translateOnly.2 (.inr (h.rawTranslateOnly.1 hraw))

theorem Describes.unique {tokens : List String} {args args' : Arguments} (h : s.Describes tokens args)
    (h' : s.Describes tokens args') : args = args' := by
  have hinput : args.inputPath = args'.inputPath := by
    have := h.inputPath.symm.trans h'.inputPath
    simpa using this
  obtain ⟨⟩ := args
  obtain ⟨⟩ := args'
  simp only [Arguments.mk.injEq]
  exact ⟨h.tokens.trans h'.tokens.symm, hinput, h.outputPath.trans h'.outputPath.symm,
    Bool.eq_iff_iff.2 (h.translateOnly.trans h'.translateOnly.symm),
    Bool.eq_iff_iff.2 (h.rawTranslateOnly.trans h'.rawTranslateOnly.symm),
    Bool.eq_iff_iff.2 (h.verbose.trans h'.verbose.symm),
    Bool.eq_iff_iff.2 (h.debug.trans h'.debug.symm), h.passes.trans h'.passes.symm,
    h.compilerSwitches.trans h'.compilerSwitches.symm,
    h.machineSwitches.trans h'.machineSwitches.symm, h.includeDirs.trans h'.includeDirs.symm,
    h.libraryDirs.trans h'.libraryDirs.symm, h.defines.trans h'.defines.symm,
    h.optLevels.trans h'.optLevels.symm⟩

end Split

/-! ## Parsed command lines -/

theorem ofItems_eq_ok_iff {tokens : List String} {items : List Item} {args : Arguments} :
    Arguments.ofItems tokens items = .ok args ↔
      ∃ inputPath, operands items = [inputPath] ∧
        args = Arguments.collect tokens inputPath items := by
  unfold Arguments.ofItems
  cases hinputs : operands items with
  | nil => simp
  | cons inputPath extra =>
      cases extra with
      | nil => simp [eq_comm]
      | cons _ _ => simp

theorem parseTokens_compile_iff {tokens : List String} {args : Arguments} :
    parseTokens tokens = .ok (.compile args) ↔
      ∃ items, scan tokens = .ok items ∧ Arguments.ofItems tokens items = .ok args := by
  unfold parseTokens
  split <;> simp_all

/-- Tokens are parsed into a record exactly when it says what a split of them says. -/
theorem parseTokens_compile_iff_describes {tokens : List String} {args : Arguments} :
    parseTokens tokens = .ok (.compile args) ↔
      ∃ s : Split, s.Spells tokens ∧ s.Describes tokens args := by
  rw [parseTokens_compile_iff]
  constructor
  · rintro ⟨items, hscan, hitems⟩
    obtain ⟨s, hs, rfl⟩ := Split.exists_of_scan hscan
    obtain ⟨inputPath, hinput, rfl⟩ := ofItems_eq_ok_iff.1 hitems
    rw [Split.operands_items hs.wellFormed] at hinput
    exact ⟨s, hs, Split.describes_collect hs hinput⟩
  · rintro ⟨s, hs, hdesc⟩
    refine ⟨s.items, Split.scan_tokens hs, ofItems_eq_ok_iff.2 ⟨args.inputPath, ?_, ?_⟩⟩
    · rw [Split.operands_items hs.wellFormed, hdesc.inputPath]
    · exact hdesc.unique (Split.describes_collect hs hdesc.inputPath)

theorem parse_compile_iff {workDir : Location} {r : Reader} {args : List String} {a : Arguments} :
    parse workDir r args = .ok (.compile a) ↔
      ∃ tokens, ResponseFile.expand workDir r args = .ok tokens ∧
        ∃ s : Split, s.Spells tokens ∧ s.Describes tokens a := by
  unfold parse
  cases ResponseFile.expand workDir r args with
  | error e => simp
  | ok tokens => simp [parseTokens_compile_iff_describes]

theorem parse_words {workDir : Location} {r : Reader} {tokens : List String}
    (hwords : ∀ path, "@" ++ path ∉ tokens) : parse workDir r tokens = parseTokens tokens := by
  rw [parse, ResponseFile.expand_words hwords]

theorem words_append {tokens more : List String} (hwords : ∀ path, "@" ++ path ∉ tokens)
    (hmore : ∀ path, "@" ++ path ∉ more) : ∀ path, "@" ++ path ∉ tokens ++ more := by
  simpa only [List.mem_append, not_or] using fun path => ⟨hwords path, hmore path⟩

theorem reference_ne_dashed (path : String) (cs : List Char) :
    "@" ++ path ≠ String.ofList ('-' :: cs) := by
  intro h
  have hhead := congrArg (fun token => token.toList.head?) h
  simp at hhead

/-- A command line without references is accepted exactly when it splits into groups with one
operand among them; the split is unique, and the record says what it says. -/
theorem parse_compile_iff_split (workDir : Location) (r : Reader) (tokens : List String)
    (hwords : ∀ path, "@" ++ path ∉ tokens) :
    ((∃ args, parse workDir r tokens = .ok (.compile args)) ↔
      ∃ s : Split, s.Spells tokens ∧ s.operands.length = 1) ∧
    ∀ args, parse workDir r tokens = .ok (.compile args) →
      ∃ s : Split, s.Spells tokens ∧ s.Describes tokens args ∧
        ∀ s' : Split, s'.Spells tokens → s' = s := by
  simp only [parse_words hwords, parseTokens_compile_iff_describes]
  refine ⟨⟨?_, ?_⟩, ?_⟩
  · rintro ⟨args, s, hs, hdesc⟩
    exact ⟨s, hs, by rw [hdesc.inputPath, List.length_singleton]⟩
  · rintro ⟨s, hs, hlength⟩
    obtain ⟨inputPath, hinput⟩ := List.length_eq_one_iff.1 hlength
    exact ⟨_, s, hs, Split.describes_collect hs hinput⟩
  · rintro args ⟨s, hs, hdesc⟩
    exact ⟨s, hs, hdesc, fun s' hs' => hs'.unique hs⟩

/-- An input that looks like an option, behind a cluster and a separate value. -/
theorem parse_compile_dashed_input :
    (∀ path, "@" ++ path ∉ ["-vIinc", "-O", "3", "--", "-a.py"]) ∧
      ∃ args, parse [] (Reader.ofTable []) ["-vIinc", "-O", "3", "--", "-a.py"] =
        .ok (.compile args) := by
  have hwords : ∀ path, "@" ++ path ∉ ["-vIinc", "-O", "3", "--", "-a.py"] :=
    ResponseFile.words_iff.2 (by decide)
  let s : Split := ⟨[.attached ['v'] 'I' "inc", .separate [] 'O' "3"], some ["-a.py"]⟩
  have hs : s.Spells ["-vIinc", "-O", "3", "--", "-a.py"] := by
    refine ⟨?_, by decide⟩
    simp [s, Group.WellFormed, toggleLetters, valueLetters, OptionLike]
  exact ⟨hwords, (parse_compile_iff_split [] (Reader.ofTable []) _ hwords).1.2 ⟨s, hs, rfl⟩⟩

end CompilerDriver.CommandLine
