/-!
# Order of versions

Names that hold version numbers are put in order so that the numbers in them count as numbers.
Endings such as those of files are looked at only if the names without them are the same.
-/

namespace CompilerDriver.Text.Version

/-- How a character sorts among those that are no digits; the end of a text comes behind a tilde and
before all else. -/
def rank : List Char → Int
  | [] => -1
  | c :: _ =>
      if c.isDigit then 0
      else if c.isAlpha then c.toNat
      else if c = '~' then -2
      else c.toNat + 256

def startsWithNoDigit : List Char → Bool
  | [] => false
  | c :: _ => !c.isDigit

/-- Compares the parts in front of the next numbers; gives what follows if they are the same. -/
def compareTexts : Nat → List Char → List Char → Ordering × List Char × List Char
  | 0, a, b => (.eq, a, b)
  | n + 1, a, b =>
      if startsWithNoDigit a || startsWithNoDigit b then
        if rank a = rank b then compareTexts n (a.drop 1) (b.drop 1)
        else (compare (rank a) (rank b), a, b)
      else (.eq, a, b)

/-- Compares numbers by their digits. -/
def compareNumbers (a b : List Char) : Ordering :=
  let a := a.dropWhile (· == '0')
  let b := b.dropWhile (· == '0')
  (compare a.length b.length).then (compare a b)

def compareParts : Nat → List Char → List Char → Ordering
  | 0, _, _ => .eq
  | _ + 1, [], [] => .eq
  | n + 1, a, b =>
      match compareTexts (a.length + b.length) a b with
      | (.eq, a, b) =>
          let x := a.takeWhile Char.isDigit
          let y := b.takeWhile Char.isDigit
          (compareNumbers x y).then (compareParts n (a.drop x.length) (b.drop y.length))
      | (order, _, _) => order

/-- How many characters at the start of an ending belong to it: a point, a letter and what may
follow, over and over. -/
def endingLength : Nat → List Char → Nat
  | n + 1, '.' :: c :: rest =>
      if c.isAlpha || c == '~' then
        let more := (rest.takeWhile fun c => c.isAlphanum || c == '~').length
        2 + more + endingLength n (rest.drop more)
      else 0
  | _, _ => 0

/-- The length of a name without the endings at its end. -/
def stemLength : Nat → Nat → List Char → Nat
  | 0, done, _ => done
  | _ + 1, done, [] => done
  | n + 1, done, _ :: rest =>
      let ending := endingLength rest.length rest
      if ending = rest.length then done + 1
      else stemLength n (done + 1 + ending) (rest.drop ending)

def compareNames (a b : List Char) : Ordering :=
  let stemOf (cs : List Char) : List Char := cs.take (stemLength (cs.length + 1) 0 cs)
  let parts (a b : List Char) : Ordering := compareParts (a.length + b.length + 1) a b
  (parts (stemOf a) (stemOf b)).then (parts a b)

/-- Where a name belongs: the empty one, the two for directories, hidden ones, and all others. -/
def category : List Char → Nat
  | [] => 0
  | ['.'] => 1
  | ['.', '.'] => 2
  | '.' :: _ => 3
  | _ => 4

def compare (a b : List Char) : Ordering :=
  (Ord.compare (category a) (category b)).then (compareNames a b)

end CompilerDriver.Text.Version
