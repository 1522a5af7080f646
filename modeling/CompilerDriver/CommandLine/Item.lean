/-!
# The options of a command line

Four letters switch something on and eight take a value.  An item is what one option or operand
says once its value is found.
-/

namespace CompilerDriver.CommandLine

/-- The options without a value. -/
inductive Toggle where
  | translateOnly
  | rawTranslateOnly
  | verbose
  | debug
  deriving DecidableEq, Repr

namespace Toggle

def letter : Toggle → Char
  | translateOnly => 'E'
  | rawTranslateOnly => 'e'
  | verbose => 'v'
  | debug => 'g'

def ofLetter? : Char → Option Toggle
  | 'E' => some translateOnly
  | 'e' => some rawTranslateOnly
  | 'v' => some verbose
  | 'g' => some debug
  | _ => none

@[simp] theorem ofLetter?_letter (t : Toggle) : ofLetter? t.letter = some t := by
  cases t <;> rfl

theorem ofLetter?_eq_some {c : Char} {t : Toggle} (h : ofLetter? c = some t) : c = t.letter := by
  unfold ofLetter? at h
  split at h <;> cases h <;> rfl

end Toggle

/-- The options with a value. -/
inductive ValueFlag where
  | compilerSwitch
  | pass
  | machineSwitch
  | includeDir
  | libraryDir
  | define
  | optLevel
  | output
  deriving DecidableEq, Repr

namespace ValueFlag

def letter : ValueFlag → Char
  | compilerSwitch => 'f'
  | pass => 'p'
  | machineSwitch => 'm'
  | includeDir => 'I'
  | libraryDir => 'L'
  | define => 'D'
  | optLevel => 'O'
  | output => 'o'

def ofLetter? : Char → Option ValueFlag
  | 'f' => some compilerSwitch
  | 'p' => some pass
  | 'm' => some machineSwitch
  | 'I' => some includeDir
  | 'L' => some libraryDir
  | 'D' => some define
  | 'O' => some optLevel
  | 'o' => some output
  | _ => none

@[simp] theorem ofLetter?_letter (f : ValueFlag) : ofLetter? f.letter = some f := by
  cases f <;> rfl

theorem ofLetter?_eq_some {c : Char} {f : ValueFlag} (h : ofLetter? c = some f) :
    c = f.letter := by
  unfold ofLetter? at h
  split at h <;> cases h <;> rfl

@[simp] theorem toggle_ofLetter?_letter (f : ValueFlag) : Toggle.ofLetter? f.letter = none := by
  cases f <;> rfl

end ValueFlag

/-- What one option or operand says. -/
inductive Item where
  | toggle (t : Toggle)
  | value (flag : ValueFlag) (text : String)
  | operand (text : String)
  deriving DecidableEq, Repr

namespace Item

def operand? : Item → Option String
  | operand text => some text
  | _ => none

/-- The value, if the item gives one to this flag. -/
def valueOf? (flag : ValueFlag) : Item → Option String
  | value f text => if f = flag then some text else none
  | _ => none

end Item

def operands (items : List Item) : List String :=
  items.filterMap Item.operand?

/-- The values given to a flag, in order. -/
def valuesOf (flag : ValueFlag) (items : List Item) : List String :=
  items.filterMap (Item.valueOf? flag)

def isOn (t : Toggle) (items : List Item) : Bool :=
  items.contains (.toggle t)

/-! ## Laws -/

@[simp] theorem operands_append (a b : List Item) : operands (a ++ b) = operands a ++ operands b :=
  List.filterMap_append

@[simp] theorem valuesOf_append (flag : ValueFlag) (a b : List Item) :
    valuesOf flag (a ++ b) = valuesOf flag a ++ valuesOf flag b :=
  List.filterMap_append

@[simp] theorem isOn_append (t : Toggle) (a b : List Item) :
    isOn t (a ++ b) = (isOn t a || isOn t b) := by
  simp [isOn]

end CompilerDriver.CommandLine
