import CompilerDriver.Proofs.Toolchain.Tool

/-!
# Reading command lines back

The arguments of a tool tell everything that they were made from.  No switch in front of the
compiler's input is `-shared`, so the first `-shared` ends these switches; what stands behind it is
told by its place.  A value may be any text, also one that spells another switch or a fixed argument
once it stands behind its letter.
-/

namespace CompilerDriver.Toolchain

open CommandLine (Arguments)

/-! ## What the tools are told -/

structure CompilerLine where
  input : String
  output : String
  includeDirs : List String
  defines : List String
  optLevels : List String
  machineSwitches : List String
  compilerSwitches : List String
  debug : Bool
  libraryDirs : List String
  deriving DecidableEq, Repr

structure TranslatorLine where
  input : String
  output : String
  emitGlue : Bool
  passes : List String
  deriving DecidableEq, Repr

def CompilerLine.of (a : Arguments) (input output : String) : CompilerLine where
  input := input
  output := output
  includeDirs := a.includeDirs
  defines := a.defines
  optLevels := a.optLevels
  machineSwitches := a.machineSwitches
  compilerSwitches := a.compilerSwitches
  debug := a.debug
  libraryDirs := a.libraryDirs

/-- The values behind a dash and this letter. -/
def valuesBehind (letter : Char) (switches : List String) : List String :=
  switches.filterMap fun switch =>
    match switch.toList with
    | '-' :: c :: value => if c = letter then some (String.ofList value) else none
    | _ => none

def CompilerLine.read? (arguments : List String) : Option CompilerLine :=
  let switches := arguments.takeWhile (· ≠ "-shared")
  match arguments.dropWhile (· ≠ "-shared") with
  | "-shared" :: "-fPIC" :: input :: "-o" :: output :: libraries =>
      some {
        input := input
        output := output
        includeDirs := valuesBehind 'I' switches
        defines := valuesBehind 'D' switches
        optLevels := valuesBehind 'O' switches
        machineSwitches := valuesBehind 'm' switches
        compilerSwitches := valuesBehind 'f' switches
        debug := !(valuesBehind 'g' switches).isEmpty
        libraryDirs := valuesBehind 'f' libraries }
  | _ => none

def readPasses : List String → List String
  | "-p" :: pass :: rest => pass :: readPasses rest
  | _ => []

def TranslatorLine.read? : List String → Option TranslatorLine
  | input :: "-o" :: output :: "--no-glue" :: rest => some ⟨input, output, false, readPasses rest⟩
  | input :: "-o" :: output :: rest => some ⟨input, output, true, readPasses rest⟩
  | _ => none

section

variable {a : Arguments} {switch lead : String} {c : Char}

/-! ## Switches -/

/-- The switches in front of the compiler's input. -/
def frontSwitches (a : Arguments) : List String :=
  a.includeDirs.map ("-I" ++ ·) ++ a.defines.map ("-D" ++ ·) ++ a.optLevels.map ("-O" ++ ·) ++
    a.machineSwitches.map ("-m" ++ ·) ++ a.compilerSwitches.map ("-f" ++ ·) ++
    if a.debug = true then ["-g"] else []

theorem compilerCommand_eq (a : Arguments) (input output : String) :
    compilerCommand a input output =
      frontSwitches a ++ "-shared" :: "-fPIC" :: input :: "-o" :: output ::
        a.libraryDirs.map ("-f" ++ ·) := by
  simp [compilerCommand, frontSwitches]

theorem valuesBehind_append (letter : Char) (front back : List String) :
    valuesBehind letter (front ++ back) = valuesBehind letter front ++ valuesBehind letter back :=
  List.filterMap_append

/-- Behind its own letter a value is found as it is, and behind no other. -/
theorem valuesBehind_map (hlead : lead.toList = ['-', c]) (letter : Char) (values : List String) :
    valuesBehind letter (values.map (lead ++ ·)) = if c = letter then values else [] := by
  induction values with
  | nil => simp [valuesBehind]
  | cons value values ih =>
      unfold valuesBehind at ih ⊢
      rw [List.map_cons, List.filterMap_cons, ih, String.toList_append, hlead]
      by_cases hc : c = letter <;> simp [hc]

theorem exists_letter_of_mem_frontSwitches (h : switch ∈ frontSwitches a) :
    ∃ c ∈ ['I', 'D', 'O', 'm', 'f', 'g'], ∃ value, switch.toList = '-' :: c :: value := by
  have hvalue {lead : String} {c : Char} {values : List String} (hlead : lead.toList = ['-', c])
      (hmem : switch ∈ values.map (lead ++ ·)) : ∃ value, switch.toList = '-' :: c :: value := by
    obtain ⟨value, -, rfl⟩ := List.mem_map.1 hmem
    exact ⟨value.toList, by rw [String.toList_append, hlead]; rfl⟩
  simp only [frontSwitches, List.mem_append] at h
  rcases h with ((((h | h) | h) | h) | h) | h
  · exact ⟨'I', by decide, hvalue (by decide) h⟩
  · exact ⟨'D', by decide, hvalue (by decide) h⟩
  · exact ⟨'O', by decide, hvalue (by decide) h⟩
  · exact ⟨'m', by decide, hvalue (by decide) h⟩
  · exact ⟨'f', by decide, hvalue (by decide) h⟩
  · split at h
    · rw [List.mem_singleton.1 h]
      exact ⟨'g', by decide, [], by decide⟩
    · cases h

/-- No switch in front of the compiler's input has another letter. -/
theorem ne_of_mem_frontSwitches {text : String} (letter : Char)
    (hletter : text.toList[1]? = some letter)
    (hother : letter ∉ ['I', 'D', 'O', 'm', 'f', 'g']) (h : switch ∈ frontSwitches a) :
    switch ≠ text := by
  rintro rfl
  obtain ⟨c, hc, value, hvalue⟩ := exists_letter_of_mem_frontSwitches h
  obtain rfl : c = letter := by simpa [hvalue] using hletter
  exact hother hc

theorem valuesBehind_frontSwitches (a : Arguments) :
    valuesBehind 'I' (frontSwitches a) = a.includeDirs ∧
    valuesBehind 'D' (frontSwitches a) = a.defines ∧
    valuesBehind 'O' (frontSwitches a) = a.optLevels ∧
    valuesBehind 'm' (frontSwitches a) = a.machineSwitches ∧
    valuesBehind 'f' (frontSwitches a) = a.compilerSwitches ∧
    valuesBehind 'g' (frontSwitches a) = if a.debug = true then [""] else [] := by
  have hdebug : (if a.debug = true then ["-g"] else []) =
      (if a.debug = true then [""] else []).map ("-g" ++ ·) := by
    cases a.debug <;> rfl
  have hI : "-I".toList = ['-', 'I'] := by decide
  have hD : "-D".toList = ['-', 'D'] := by decide
  have hO : "-O".toList = ['-', 'O'] := by decide
  have hm : "-m".toList = ['-', 'm'] := by decide
  have hf : "-f".toList = ['-', 'f'] := by decide
  have hg : "-g".toList = ['-', 'g'] := by decide
  simp only [frontSwitches, hdebug, valuesBehind_append, valuesBehind_map hI, valuesBehind_map hD,
    valuesBehind_map hO, valuesBehind_map hm, valuesBehind_map hf, valuesBehind_map hg]
  simp

/-! ## Reading back -/

theorem read?_compilerCommand (a : Arguments) (input output : String) :
    CompilerLine.read? (compilerCommand a input output) = some (.of a input output) := by
  have hfront : ∀ switch ∈ frontSwitches a, decide (switch ≠ "-shared") = true :=
    fun switch hswitch => decide_eq_true
      (ne_of_mem_frontSwitches 's' (by decide) (by decide) hswitch)
  obtain ⟨hI, hD, hO, hm, hf, hg⟩ := valuesBehind_frontSwitches a
  have hlibraries : valuesBehind 'f' (a.libraryDirs.map ("-f" ++ ·)) = a.libraryDirs := by
    rw [valuesBehind_map (c := 'f') (by decide), if_pos rfl]
  rw [compilerCommand_eq, CompilerLine.read?, List.takeWhile_append_of_pos hfront,
    List.dropWhile_append_of_pos hfront]
  simp only [List.takeWhile_cons, List.dropWhile_cons, ne_eq, not_true_eq_false, decide_false,
    Bool.false_eq_true, if_false, List.append_nil, hI, hD, hO, hm, hf, hg, hlibraries]
  cases hdebug : a.debug <;> simp [CompilerLine.of, hdebug]

theorem readPasses_flatMap (passes : List String) :
    readPasses (passes.flatMap fun pass => ["-p", pass]) = passes := by
  induction passes with
  | nil => rfl
  | cons pass passes ih => simp [readPasses, ih]

theorem read?_translatorCommand (a : Arguments) (input output : String) (emitGlue : Bool) :
    TranslatorLine.read?
        (translatorCommand a input output (if emitGlue = true then [] else ["--no-glue"])) =
      some ⟨input, output, emitGlue, a.passes⟩ := by
  have hpasses := readPasses_flatMap a.passes
  cases emitGlue with
  | false => simp [translatorCommand, TranslatorLine.read?, hpasses]
  | true =>
      cases hp : a.passes with
      | nil => simp [translatorCommand, TranslatorLine.read?, hp, readPasses]
      | cons pass passes =>
          rw [hp] at hpasses
          simpa [translatorCommand, TranslatorLine.read?, hp] using hpasses

end

/-- The command line of each tool says what it was made from, whatever the values are: the input,
the output and the switches are read back, so two command lines are equal only if all of these
are. -/
theorem commandLines_lossless :
    (∀ (a : Arguments) (input output : String),
      CompilerLine.read? (compilerArguments input output (CompilerOptions.assemble a)) =
        some (.of a input output)) ∧
    (∀ (a b : Arguments) (input output input' output' : String),
      compilerArguments input output (CompilerOptions.assemble a) =
          compilerArguments input' output' (CompilerOptions.assemble b) ↔
        input = input' ∧ output = output' ∧ a.includeDirs = b.includeDirs ∧
          a.defines = b.defines ∧ a.optLevels = b.optLevels ∧
          a.machineSwitches = b.machineSwitches ∧ a.compilerSwitches = b.compilerSwitches ∧
          a.libraryDirs = b.libraryDirs ∧ a.debug = b.debug) ∧
    (∀ (a : Arguments) (input output : String) (emitGlue : Bool),
      TranslatorLine.read?
          (translatorArguments input output emitGlue (CompilerOptions.assemble a)) =
        some ⟨input, output, emitGlue, a.passes⟩) ∧
    ∀ (a b : Arguments) (input output input' output' : String) (emitGlue emitGlue' : Bool),
      translatorArguments input output emitGlue (CompilerOptions.assemble a) =
          translatorArguments input' output' emitGlue' (CompilerOptions.assemble b) ↔
        input = input' ∧ output = output' ∧ emitGlue = emitGlue' ∧ a.passes = b.passes := by
  simp only [compilerArguments_assemble, translatorArguments_assemble]
  refine ⟨read?_compilerCommand, ?_, read?_translatorCommand, ?_⟩
  · intro a b input output input' output'
    constructor
    · intro h
      have hline := congrArg CompilerLine.read? h
      rw [read?_compilerCommand, read?_compilerCommand, Option.some.injEq] at hline
      obtain ⟨hinput, houtput, hI, hD, hO, hm, hf, hg, hL⟩ :=
        (CompilerLine.mk.injEq ..).mp hline
      exact ⟨hinput, houtput, hI, hD, hO, hm, hf, hL, hg⟩
    · rintro ⟨rfl, rfl, hI, hD, hO, hm, hf, hL, hg⟩
      rw [compilerCommand, hI, hD, hO, hm, hf, hL, hg, compilerCommand]
  · intro a b input output input' output' emitGlue emitGlue'
    constructor
    · intro h
      have hline := congrArg TranslatorLine.read? h
      rw [read?_translatorCommand, read?_translatorCommand, Option.some.injEq] at hline
      exact (TranslatorLine.mk.injEq ..).mp hline
    · rintro ⟨rfl, rfl, rfl, hpasses⟩
      rw [translatorCommand, hpasses, translatorCommand]

end CompilerDriver.Toolchain
