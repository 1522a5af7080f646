import CompilerDriver.Posix.Calendar.Basic

/-!
# Dates in words

A date is read from a text of items in any order: a date, a time of the day, a zone, a day of the
week, and distances from the present.
-/

namespace CompilerDriver.Calendar

/-! ## Tokens -/

inductive DateToken where
  /-- A number: whether it has a sign, its value, its digits and what follows a point. -/
  | number (signed : Bool) (value : Int) (digits : Nat) (fraction : Option Nat)
  | word (name : String)
  | mark (c : Char)
  deriving DecidableEq, Repr, Inhabited

def isDateSpace (c : Char) : Bool := c == ' ' || ('\t' ≤ c && c ≤ '\r')

/-- The nanoseconds that the digits behind a point stand for. -/
def fractionOf (digits : List Char) : Nat :=
  (digits.take 9 ++ List.replicate (9 - digits.length) '0').foldl
    (fun n c => n * 10 + (c.toNat - 48)) 0

def readNumber (signed negative : Bool) (cs : List Char) : DateToken × List Char :=
  let digits := cs.takeWhile Char.isDigit
  let rest := cs.drop digits.length
  let n : Nat := digits.foldl (fun n c => n * 10 + (c.toNat - 48)) 0
  let value : Int := if negative then -(n : Int) else n
  match rest with
  | p :: after =>
      let fraction := after.takeWhile Char.isDigit
      if (p = '.' ∨ p = ',') ∧ !fraction.isEmpty then
        (.number signed value digits.length (some (fractionOf fraction)),
          after.drop fraction.length)
      else (.number signed value digits.length none, rest)
  | [] => (.number signed value digits.length none, [])

def dateTokens : Nat → List Char → List DateToken
  | 0, _ => []
  | _ + 1, [] => []
  | n + 1, c :: cs =>
      if isDateSpace c then dateTokens n cs
      else if c.isDigit then
        let (token, rest) := readNumber false false (c :: cs)
        token :: dateTokens n rest
      else if c = '+' ∨ c = '-' then
        let rest := cs.dropWhile isDateSpace
        if rest.head?.any Char.isDigit then
          let (token, rest) := readNumber true (c == '-') rest
          token :: dateTokens n rest
        else dateTokens n cs
      else if c.isAlpha then
        let isPart (c : Char) : Bool := c.isAlpha || c == '.'
        let name := ((c :: cs).takeWhile isPart).filter (· != '.')
        .word (String.ofList (name.map Char.toLower)) :: dateTokens n (cs.dropWhile isPart)
      else if c = '(' then dateTokens n ((cs.dropWhile (· != ')')).drop 1)
      else .mark c :: dateTokens n cs

/-! ## Words -/

/-- The number that a name has in a list, by the whole name or by its first letters. -/
def placeOf? (names : List String) (short : List Nat) (word : String) : Option Nat :=
  names.findIdx? fun name =>
    let name := name.map Char.toLower
    name == word || (short.any fun n => word.length == n && name.startsWith word)

def monthOf? (word : String) : Option Nat :=
  if word = "sept" then some 9 else (placeOf? months [3] word).map (· + 1)

def weekdayNamed? (word : String) : Option Nat :=
  match word with
  | "tues" => some 2
  | "wednes" => some 3
  | "thur" | "thurs" => some 4
  | _ => placeOf? weekdays [3] word

/-- A unit in months, days and seconds. -/
def unitOf? (word : String) : Option (Int × Int × Int) :=
  let bare := if 3 < word.length ∧ word.endsWith "s" then String.ofList word.toList.dropLast else word
  match bare with
  | "year" => some (12, 0, 0)
  | "month" => some (1, 0, 0)
  | "fortnight" => some (0, 14, 0)
  | "week" => some (0, 7, 0)
  | "day" => some (0, 1, 0)
  | "hour" => some (0, 0, 3600)
  | "minute" | "min" => some (0, 0, 60)
  | "second" | "sec" => some (0, 0, 1)
  | _ => none

def dayShift? (word : String) : Option Int :=
  match word with
  | "tomorrow" => some 1
  | "yesterday" => some (-1)
  | "today" | "now" => some 0
  | _ => none

def ordinalOf? (word : String) : Option Int :=
  match word with
  | "last" => some (-1)
  | "this" => some 0
  | "next" | "first" => some 1
  | "third" => some 3
  | "fourth" => some 4
  | "fifth" => some 5
  | "sixth" => some 6
  | "seventh" => some 7
  | "eighth" => some 8
  | "ninth" => some 9
  | "tenth" => some 10
  | "eleventh" => some 11
  | "twelfth" => some 12
  | _ => none

/-- The hours by which a zone is ahead. -/
def zoneOf? (word : String) : Option Int :=
  match word with
  | "utc" | "gmt" | "ut" | "z" | "wet" => some 0
  | "est" => some (-5)
  | "edt" | "cst" => some (if word = "edt" then -4 else -6)
  | "cdt" => some (-5)
  | "mst" => some (-7)
  | "mdt" => some (-6)
  | "pst" => some (-8)
  | "pdt" => some (-7)
  | "bst" | "cet" | "met" => some 1
  | "cest" | "eet" => some 2
  | "msk" => some 3
  | "jst" => some 9
  | _ => none

/-! ## Items -/

/-- What has been read of a date. -/
structure DateParts where
  date : Option (Int × Int × Int) := none
  /-- The date has no year. -/
  lacksYear : Bool := false
  time : Option (Int × Int × Int × Nat) := none
  /-- The seconds by which the zone is ahead. -/
  zone : Option Int := none
  weekday : Option (Nat × Int) := none
  months : Int := 0
  days : Int := 0
  seconds : Int := 0
  isRelative : Bool := false
  /-- The instant itself, in nanoseconds. -/
  exact : Option Int := none
  deriving Inhabited

def fullYear (value : Int) (digits : Nat) : Int :=
  let value : Int := value.natAbs
  if digits ≤ 2 then (if value < 69 then value + 2000 else value + 1900) else value

namespace DateParts

def withDate (p : DateParts) (year month day : Int) : Option DateParts :=
  if p.date.isSome then none else some { p with date := some (year, month, day) }

def withTime (p : DateParts) (hour minute second : Int) (nanosecond : Nat) : Option DateParts :=
  if p.time.isSome ∨ hour > 24 ∨ minute > 59 ∨ second > 60 then none
  else some { p with time := some (hour, minute, second, nanosecond) }

def withZone (p : DateParts) (seconds : Int) : Option DateParts :=
  if p.zone.isSome then none else some { p with zone := some seconds }

def shifted (p : DateParts) (n : Int) (unit : Int × Int × Int) : DateParts :=
  { p with
    months := p.months + n * unit.1, days := p.days + n * unit.2.1
    seconds := p.seconds + n * unit.2.2, isRelative := true }

def reversed (p : DateParts) : DateParts :=
  { p with months := -p.months, days := -p.days, seconds := -p.seconds }

end DateParts

/-- The hour on a clock of twenty-four, from one on a clock of twelve. -/
def afternoon? (word : String) (hour : Int) : Option Int :=
  if hour < 1 ∨ 12 < hour then none
  else
    match word with
    | "am" => some (hour % 12)
    | "pm" => some (hour % 12 + 12)
    | _ => none

/-- The seconds that the number behind a sign stands for, as a distance of zones. -/
def zoneShift (value : Int) (digits : Nat) : Int :=
  let n := value.natAbs
  let minutes : Nat := if digits ≤ 2 then n * 60 else n / 100 * 60 + n % 100
  (if value < 0 then -(minutes : Int) else minutes) * 60

/-- What follows a time: half of the day, or a zone. -/
def afterTime (p : DateParts) (hour minute second : Int) (nanosecond : Nat) :
    List DateToken → Option (DateParts × List DateToken)
  | .word w :: rest =>
      if w = "am" ∨ w = "pm" then do
        let hour ← afternoon? w hour
        return (← p.withTime hour minute second nanosecond, rest)
      else return (← p.withTime hour minute second nanosecond, .word w :: rest)
  | .number true value digits none :: .mark ':' :: .number false minutes _ none :: rest => do
      let p ← p.withTime hour minute second nanosecond
      let shift := zoneShift value digits
      let more := minutes * 60
      return (← p.withZone (if value < 0 then shift - more else shift + more), rest)
  | .number true value digits none :: rest => do
      let p ← p.withTime hour minute second nanosecond
      return (← p.withZone (zoneShift value digits), rest)
  | rest => return (← p.withTime hour minute second nanosecond, rest)

/-- A number that stands for itself: a date or a time without marks. -/
def plainNumber (p : DateParts) (value : Int) (digits : Nat) : Option DateParts :=
  if p.date.isSome ∧ p.lacksYear ∧ !p.isRelative ∧ (p.time.isSome ∨ 2 < digits) then
    match p.date with
    | some (_, month, day) =>
        some { p with date := some (fullYear value digits, month, day), lacksYear := false }
    | none => none
  else if 4 < digits then
    p.withDate (fullYear (value / 10000) (digits - 4)) (value / 100 % 100) (value % 100)
  else if digits ≤ 2 then p.withTime value 0 0 0
  else p.withTime (value / 100) (value % 100) 0 0

/-- Reads one item. -/
def readItem (thisYear : Int) (p : DateParts) :
    List DateToken → Option (DateParts × List DateToken)
  | .mark '@' :: .number _ value _ fraction :: rest =>
      let whole := value * nanosecondsPerSecond
      let part : Int := (fraction.getD 0 : Nat)
      some ({ p with exact := some (if value < 0 then whole - part else whole + part) }, rest)
  | .mark ',' :: rest => some (p, rest)
  | .number false hour _ none :: .mark ':' :: .number false minute _ none :: .mark ':' ::
      .number false second _ fraction :: rest =>
        afterTime p hour minute second (fraction.getD 0) rest
  | .number false hour _ none :: .mark ':' :: .number false minute _ none :: rest =>
      afterTime p hour minute 0 0 rest
  | .number false a digits none :: .mark '/' :: .number false b _ none :: .mark '/' ::
      .number false c lastDigits none :: rest => do
        if 4 ≤ digits then return (← p.withDate (fullYear a digits) b c, rest)
        else return (← p.withDate (fullYear c lastDigits) a b, rest)
  | .number false month _ none :: .mark '/' :: .number false day _ none :: rest => do
      return ({ ← p.withDate thisYear month day with lacksYear := true }, rest)
  | .number false year digits none :: .number true month _ none :: .number true day _ none ::
      rest => do
        if month ≥ 0 ∨ day ≥ 0 then none
        let p ← p.withDate (fullYear year digits) (-month) (-day)
        match rest with
        | .word "t" :: rest => return (p, rest)
        | rest => return (p, rest)
  | .number false day _ none :: .word w :: rest =>
      match monthOf? w, unitOf? w, weekdayNamed? w with
      | some month, _, _ => do
          match rest with
          | .number true year digits none :: rest =>
              return (← p.withDate (fullYear year digits) month day, rest)
          | .number false year digits none :: rest =>
              if rest.head? = some (.mark ':') then
                return ({ ← p.withDate thisYear month day with lacksYear := true },
                  .number false year digits none :: rest)
              else return (← p.withDate (fullYear year digits) month day, rest)
          | rest => return ({ ← p.withDate thisYear month day with lacksYear := true }, rest)
      | none, some unit, _ => some (p.shifted day unit, rest)
      | none, none, some weekday => some ({ p with weekday := some (weekday, day) }, rest)
      | none, none, none =>
          if w = "am" ∨ w = "pm" then do
            return (← p.withTime (← afternoon? w day) 0 0 0, rest)
          else if (zoneOf? w).isSome ∨ (ordinalOf? w).isSome ∨ (dayShift? w).isSome ∨ w = "ago" ∨
              w = "t" then do
            return (← plainNumber p day 2, .word w :: rest)
          else none
  | .number true n _ none :: .word w :: rest => do
      match unitOf? w, dayShift? w with
      | some unit, _ => return (p.shifted n unit, rest)
      | none, some days => return (p.shifted n (0, days, 0), rest)
      | none, none => none
  | .number true n _ fraction :: rest => do
      if p.time.isSome ∧ p.zone.isNone ∧ fraction.isNone then
        return (← p.withZone (zoneShift n 4), rest)
      none
  | .number false value digits none :: rest => return (← plainNumber p value digits, rest)
  | .word w :: rest =>
      match monthOf? w, weekdayNamed? w, unitOf? w, dayShift? w, ordinalOf? w, zoneOf? w with
      | some month, _, _, _, _, _ => do
          match rest with
          | .number false day _ none :: .mark ',' :: .number false year digits none :: rest =>
              return (← p.withDate (fullYear year digits) month day, rest)
          | .number false day _ none :: .number false year digits none :: rest =>
              if rest.head? = some (.mark ':') then
                return ({ ← p.withDate thisYear month day with lacksYear := true },
                  .number false year digits none :: rest)
              else return (← p.withDate (fullYear year digits) month day, rest)
          | .number false day _ none :: rest =>
              return ({ ← p.withDate thisYear month day with lacksYear := true }, rest)
          | _ => none
      | _, some weekday, _, _, _, _ =>
          if p.weekday.isSome then none else some ({ p with weekday := some (weekday, 0) }, rest)
      | _, _, some unit, _, _, _ => some (p.shifted 1 unit, rest)
      | _, _, _, some days, _, _ => some (p.shifted days (0, 1, 0), rest)
      | _, _, _, _, some n, _ =>
          match rest with
          | .word next :: rest =>
              match unitOf? next, weekdayNamed? next with
              | some unit, _ => some (p.shifted n unit, rest)
              | none, some weekday => some ({ p with weekday := some (weekday, n) }, rest)
              | none, none => none
          | _ => none
      | _, _, _, _, _, some hours =>
          match rest with
          | .number true value digits none :: rest => do
              return (← p.withZone (hours * 3600 + zoneShift value digits), rest)
          | rest => do return (← p.withZone (hours * 3600), rest)
      | _, _, _, _, _, _ =>
          if w = "ago" then some (p.reversed, rest)
          else if w = "dst" then some (p, rest)
          else if w = "t" ∧ p.date.isSome then some (p, rest)
          else none
  | _ => none

def readItems (thisYear : Int) : Nat → DateParts → List DateToken → Option DateParts
  | _, p, [] => some p
  | 0, _, _ => none
  | n + 1, p, tokens => do
      let (p, rest) ← readItem thisYear p tokens
      readItems thisYear n p rest

/-! ## Instants -/

/-- A day of the week at or after a date, or some weeks from there. -/
def toWeekday (date : Moment) (weekday : Nat) (ordinal : Int) : Int :=
  let ahead : Int := ((weekday + 7 - date.weekday) % 7 : Nat)
  let weeks := if 0 < ordinal ∧ date.weekday ≠ weekday then ordinal - 1 else ordinal
  ahead + 7 * weeks

/-- The instant that parts of a date stand for, seen from the present one. -/
def DateParts.instant? (p : DateParts) (now : Int) : Option Int := do
  if let some exact := p.exact then return exact
  let today := Moment.ofInstant now
  let (year, month, day) :=
    p.date.getD (today.year, (today.month : Int), (today.day : Int))
  if p.date.isSome then
    if month < 1 ∨ 12 < month ∨ day < 1 ∨ (daysInMonth year month.toNat : Int) < day then none
  let keeps := p.time.isNone && p.isRelative && p.date.isNone && p.weekday.isNone
  let (hour, minute, second, nanosecond) :=
    if keeps then ((today.hour : Int), (today.minute : Int), (today.second : Int), today.nanosecond)
    else p.time.getD (0, 0, 0, 0)
  let date := Moment.normalized year month day 0 0 0 0
  let day := match p.weekday with
    | some (weekday, ordinal) =>
        if p.date.isSome then day else day + toWeekday date weekday ordinal
    | none => day
  let m := Moment.normalized year (month + p.months) (day + p.days) hour minute
    (second + p.seconds - p.zone.getD 0) nanosecond
  return m.instant

/-- The instant that a text stands for, seen from the present one; both are in nanoseconds. -/
def read? (now : Int) (text : String) : Option Int := do
  let tokens := dateTokens (text.length + 1) text.toList
  let p ← readItems (Moment.ofInstant now).year (tokens.length + 1) {} tokens
  p.instant? now

/-- A date in digits alone: month, day, hour and minute, perhaps with a year before them and
seconds behind a point. -/
def readDigits? (now : Int) (text : String) : Option Int := do
  let digits := text.toList.takeWhile Char.isDigit
  let rest := text.toList.drop digits.length
  let second ← match rest with
    | [] => some 0
    | ['.', a, b] => if a.isDigit ∧ b.isDigit then some ((a.toNat - 48) * 10 + (b.toNat - 48)) else none
    | _ => none
  let pair (i : Nat) : Nat :=
    ((digits.drop i).take 2).foldl (fun n c => n * 10 + (c.toNat - 48)) 0
  let (year, start) ← match digits.length with
    | 8 => some ((Moment.ofInstant now).year, 0)
    | 10 => some (fullYear (pair 0) 2, 2)
    | 12 => some ((pair 0 * 100 + pair 2 : Nat), 4)
    | _ => none
  let month := pair start
  let day := pair (start + 2)
  let hour := pair (start + 4)
  let minute := pair (start + 6)
  if month < 1 ∨ 12 < month ∨ day < 1 ∨ daysInMonth year month < day ∨ 23 < hour ∨ 59 < minute ∨
      60 < second then none
  return (Moment.normalized year month day hour minute second 0).instant

end CompilerDriver.Calendar
