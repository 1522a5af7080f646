import CompilerDriver.Posix.Calendar.Basic

/-!
# Dates in formats

A format is a text with directives.  Each starts with a percent sign; flags and a width may follow,
then a letter that names a part of the date.  Times are those of the prime meridian.
-/

namespace CompilerDriver.Calendar

/-- How a number or a name is brought to its width. -/
structure Padding where
  /-- The character in front, or nothing for no padding. -/
  fill : Option Char := none
  suppressed : Bool := false
  upper : Bool := false
  swapped : Bool := false
  signed : Bool := false
  width : Nat := 0
  colons : Nat := 0
  deriving Repr, Inhabited

def padded (width : Nat) (fill : Char) (s : String) : String :=
  String.ofList (List.replicate (width - s.length) fill) ++ s

/-- A number with so many digits, unless a flag or a width asks for something else. -/
def Padding.number (p : Padding) (digits : Nat) (fill : Char) (n : Int) : String :=
  let text := toString n.natAbs
  let sign := if n < 0 then "-" else if p.signed && digits < text.length then "+" else ""
  if p.suppressed then sign ++ text
  else
    let fill := p.fill.getD (if p.signed then '0' else fill)
    let width := if p.width = 0 then digits else p.width
    if fill = '0' then sign ++ padded (width - sign.length) fill text
    else padded width fill (sign ++ text)

def Padding.text (p : Padding) (s : String) : String :=
  let s := if p.upper then s.map Char.toUpper else s
  if p.suppressed then s else padded p.width (p.fill.getD ' ') s

/-- The week of the year, if weeks start on the given day. -/
def weekFrom (first : Nat) (m : Moment) : Nat :=
  (dayOfYear m + 7 - (m.weekday + 7 - first) % 7) / 7

/-- The year and the week of it, where the first week is the one with the first Thursday. -/
def isoWeek (m : Moment) : Int × Nat :=
  let fromMonday := (m.weekday + 6) % 7
  let thursday := Moment.ofInstant ((m.days - fromMonday + 3) * secondsPerDay * nanosecondsPerSecond)
  (thursday.year, dayOfYear thursday / 7 + 1)

/-- The hour on a clock of twelve. -/
def clockHour (m : Moment) : Nat := if m.hour % 12 = 0 then 12 else m.hour % 12

def offsetText (colons : Nat) : String :=
  match colons with
  | 0 => "+0000"
  | 1 => "+00:00"
  | 2 => "+00:00:00"
  | _ => "+00"

mutual

/-- What a directive stands for; nothing if there is no such directive. -/
def directive (zone : String) (m : Moment) : Nat → Padding → Char → Option String
  | 0, _, _ => none
  | n + 1, p, c =>
      let name (s : String) : Option String :=
        some ((if p.swapped then { p with upper := true } else p).text s)
      let whole (format : String) : Option String :=
        some (p.text (formatTo zone m n format.toList))
      let half := if m.hour < 12 then "AM" else "PM"
      match c with
      | '%' => some (p.text "%")
      | 'n' => some (p.text "\n")
      | 't' => some (p.text "\t")
      | 'a' => name (shortName (weekdays.getD m.weekday ""))
      | 'A' => name (weekdays.getD m.weekday "")
      | 'b' | 'h' => name (shortName (months.getD (m.month - 1) ""))
      | 'B' => name (months.getD (m.month - 1) "")
      | 'c' => whole "%a %b %e %H:%M:%S %Y"
      | 'C' => some (p.number 2 '0' (m.year / 100))
      | 'd' => some (p.number 2 '0' m.day)
      | 'D' | 'x' => whole "%m/%d/%y"
      | 'e' => some (p.number 2 ' ' m.day)
      | 'F' => whole (if p.signed then "%+4Y-%m-%d" else "%Y-%m-%d")
      | 'g' => some (p.number 2 '0' ((isoWeek m).1 % 100))
      | 'G' => some (p.number 4 '0' (isoWeek m).1)
      | 'H' => some (p.number 2 '0' m.hour)
      | 'I' => some (p.number 2 '0' (clockHour m))
      | 'j' => some (p.number 3 '0' (dayOfYear m + 1 : Nat))
      | 'k' => some (p.number 2 ' ' m.hour)
      | 'l' => some (p.number 2 ' ' (clockHour m))
      | 'm' => some (p.number 2 '0' m.month)
      | 'M' => some (p.number 2 '0' m.minute)
      | 'N' =>
          let digits := padded 9 '0' (toString m.nanosecond)
          some (String.ofList (if p.width = 0 then digits.toList
            else digits.toList.take p.width ++ List.replicate (p.width - 9) '0'))
      | 'p' => some (p.text (if p.swapped then half.map Char.toLower else half))
      | 'P' => some (p.text (half.map Char.toLower))
      | 'q' => some (p.number 1 '0' ((m.month - 1) / 3 + 1 : Nat))
      | 'r' => whole "%I:%M:%S %p"
      | 'R' => whole "%H:%M"
      | 's' => some (p.number 1 '0' m.seconds)
      | 'S' => some (p.number 2 '0' m.second)
      | 'T' | 'X' => whole "%H:%M:%S"
      | 'u' => some (p.number 1 '0' ((m.weekday + 6) % 7 + 1 : Nat))
      | 'U' => some (p.number 2 '0' (weekFrom 0 m))
      | 'V' => some (p.number 2 '0' (isoWeek m).2)
      | 'w' => some (p.number 1 '0' m.weekday)
      | 'W' => some (p.number 2 '0' (weekFrom 1 m))
      | 'y' => some (p.number 2 '0' (m.year % 100))
      | 'Y' => some (p.number 4 '0' m.year)
      | 'z' => some (padded p.width '0' (offsetText p.colons))
      | 'Z' => some (p.text (if p.swapped then zone.map Char.toLower else zone))
      | _ => none

/-- A date in a format. -/
def formatTo (zone : String) (m : Moment) : Nat → List Char → String
  | 0, cs => String.ofList cs
  | _ + 1, [] => ""
  | n + 1, '%' :: cs =>
      let flags := cs.takeWhile fun c => "-_0^#+".toList.contains c
      let p := flags.foldl (fun (p : Padding) c =>
        match c with
        | '-' => { p with suppressed := true, fill := none }
        | '_' => { p with suppressed := false, fill := some ' ' }
        | '0' => { p with suppressed := false, fill := some '0' }
        | '+' => { p with suppressed := false, signed := true }
        | '^' => { p with upper := true }
        | _ => { p with swapped := true }) {}
      let rest := cs.drop flags.length
      let digits := rest.takeWhile Char.isDigit
      let width := digits.foldl (fun n c => n * 10 + (c.toNat - 48)) 0
      let rest := rest.drop digits.length
      let rest := if rest.head? = some 'E' ∨ rest.head? = some 'O' then rest.drop 1 else rest
      let colons := (rest.takeWhile (· == ':')).length
      match rest.drop colons with
      | c :: after =>
          match directive zone m n { p with width := width, colons := colons } c with
          | some text => text ++ formatTo zone m n after
          | none => "%" ++ formatTo zone m n cs
      | [] => "%" ++ String.ofList cs
  | n + 1, c :: cs => String.singleton c ++ formatTo zone m n cs

end

def format (zone text : String) (m : Moment) : String :=
  formatTo zone m (text.length + 32) text.toList

end CompilerDriver.Calendar
