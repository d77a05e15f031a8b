import VitaeShell.Number.Numeral
import VitaeShell.Yaml.Cursor
import VitaeShell.Yaml.Fault

/-!
# Dates and points in time

A date `2001-12-14`, and a point in time `2001-12-14t21:59:43.10-05:00` with fractions of a second
and the distance from universal time. `Moment.read?` takes such a text apart and `Moment.ofText`
checks that there is such a day and time.
-/

namespace VitaeShell.Yaml

/-- A day of the calendar, or a point in time. -/
inductive Moment where
  | date (year month day : Nat)
  /-- A time of a day, with its distance from universal time in minutes if that is known. -/
  | time (year month day hour minute second microsecond : Nat) (offset : Option Int)
deriving DecidableEq, Repr

namespace Moment

/-! ### Taking a text apart -/

/-- The clock of a written time: its numbers, and its zone as a sign with hours and minutes. -/
structure Clock where
  hour : List Char
  minute : List Char
  second : List Char
  fraction : List Char
  zone : Option (Bool × List Char × List Char)

/-- The numbers of a written date, and its clock if there is one. -/
structure Written where
  year : List Char
  month : List Char
  day : List Char
  clock : Option Clock

/-- The first `n` characters, if they are digits. -/
def digits? (n : Nat) (cs : List Char) : Option (List Char × List Char) :=
  let run := cs.take n
  if run.length = n ∧ run.all isDigit then some (run, cs.drop n) else none

/-- One or two digits. -/
def oneOrTwo? (cs : List Char) : Option (List Char × List Char) :=
  match digits? 2 cs with
  | some found => some found
  | none => digits? 1 cs

/-- What follows a character. -/
def after? (c : Char) (cs : List Char) : Option (List Char) :=
  if cs.head? = some c then some (cs.drop 1) else none

/-- A space or a tab. -/
def isSpace (c : Char) : Bool :=
  c = ' ' || c = '\t'

/-- The zone that is all of a text; `some none` for no zone. -/
def zone? (cs : List Char) : Option (Option (Bool × List Char × List Char)) :=
  if cs.isEmpty then some none
  else
    match cs.dropWhile isSpace with
    | ['Z'] => some (some (false, [], []))
    | sign :: rest =>
      if sign = '+' ∨ sign = '-' then do
        let (hour, rest) ← oneOrTwo? rest
        if rest.isEmpty then some (some (decide (sign = '-'), hour, []))
        else do
          let (minute, rest) ← digits? 2 (← after? ':' rest)
          if rest.isEmpty then some (some (decide (sign = '-'), hour, minute)) else none
      else none
    | [] => none

/-- The clock that is all of a text. -/
def clock? (cs : List Char) : Option Clock := do
  let (hour, cs) ← oneOrTwo? cs
  let (minute, cs) ← digits? 2 (← after? ':' cs)
  let (second, cs) ← digits? 2 (← after? ':' cs)
  let fraction := match cs with
    | '.' :: rest => rest.takeWhile isDigit
    | _ => []
  let cs := match cs with
    | '.' :: rest => rest.drop fraction.length
    | _ => cs
  return ⟨hour, minute, second, fraction, ← zone? cs⟩

/-- The parts of a written date or time. -/
def read? (cs : List Char) : Option Written := do
  let (year, cs) ← digits? 4 cs
  let (month, cs) ← oneOrTwo? (← after? '-' cs)
  let (day, cs) ← oneOrTwo? (← after? '-' cs)
  match cs with
  | [] => return ⟨year, month, day, none⟩
  | c :: rest =>
    if c = 'T' ∨ c = 't' then return ⟨year, month, day, some (← clock? rest)⟩
    else if isSpace c then return ⟨year, month, day, some (← clock? (rest.dropWhile isSpace))⟩
    else none

/-- Whether a plain scalar is a date or a time. A date without a time has two digits for its month
and its day. -/
def isPlain (cs : List Char) : Bool :=
  match read? cs with
  | some written =>
    written.clock.isSome || (written.month.length = 2 && written.day.length = 2)
  | none => false

/-! ### The calendar -/

/-- Whether a year has a leap day. -/
def isLeap (year : Nat) : Bool :=
  year % 4 = 0 && (year % 100 ≠ 0 || year % 400 = 0)

/-- The number of days of a month. -/
def daysIn (year month : Nat) : Nat :=
  if month = 2 then if isLeap year then 29 else 28
  else if month = 4 ∨ month = 6 ∨ month = 9 ∨ month = 11 then 30
  else 31

/-- Whether there is such a day. -/
def isDay (year month day : Nat) : Bool :=
  1 ≤ year && 1 ≤ month && month ≤ 12 && 1 ≤ day && day ≤ daysIn year month

/-- The number that decimal digits write. -/
def number (cs : List Char) : Nat :=
  Numeral.valueOf 10 (cs.map fun c => c.toNat - '0'.toNat)

/-- The distance from universal time in minutes, which is less than a day. -/
def offset? : Option (Bool × List Char × List Char) → Except Fault (Option Int)
  | none => .ok none
  | some (west, hour, minute) =>
    let minutes := number hour * 60 + number minute
    if minutes < 24 * 60 then .ok (some (if west then -minutes else minutes)) else .error .badValue

/-- The millionths of a second that the first six digits of a fraction write. -/
def microseconds (fraction : List Char) : Nat :=
  number ((fraction ++ List.replicate 6 '0').take 6)

/-- The day or time that a text writes. A line end after it does not count. -/
def ofText (text : String) : Except Fault Moment := do
  let cs := text.toList
  match read? (if cs.getLast? = some '\n' then cs.dropLast else cs) with
  | none => .error .unreadableTimestamp
  | some written =>
    let year := number written.year
    let month := number written.month
    let day := number written.day
    match written.clock with
    | none => if isDay year month day then return .date year month day else .error .badValue
    | some clock =>
      let hour := number clock.hour
      let minute := number clock.minute
      let second := number clock.second
      let offset ← offset? clock.zone
      if isDay year month day && hour < 24 && minute < 60 && second < 60 then
        return .time year month day hour minute second (microseconds clock.fraction) offset
      else .error .badValue

/-! ### Comparison -/

/-- The number of days from the first of January of the year 1. -/
def dayNumber (year month day : Nat) : Int :=
  let past := year - 1
  let months := ((List.range (month - 1)).map fun m => daysIn year (m + 1)).foldl (· + ·) 0
  ((past * 365 + past / 4 - past / 100 + past / 400 + months + day - 1 : Nat) : Int)

/-- Whether two moments are the same one, wherever their clocks stand. -/
def same : Moment → Moment → Bool
  | .date a b c, .date d e f => a = d && b = e && c = f
  | .time y m d h n s u o, .time y' m' d' h' n' s' u' o' =>
    let minutes (y m d h n : Nat) (o : Option Int) : Int :=
      (dayNumber y m d * 24 + h) * 60 + n - o.getD 0
    o.isSome = o'.isSome && minutes y m d h n o = minutes y' m' d' h' n' o' && s = s' && u = u'
  | _, _ => false

/-! ### Display -/

/-- The distance from universal time as it is shown: whole days, which may be negative, and seconds
of a day. -/
def displayOffset (minutes : Int) : String :=
  if minutes = 0 then "datetime.timezone.utc"
  else
    let days := if minutes < 0 then "days=-1, " else ""
    let seconds := (minutes % (24 * 60)) * 60
    "datetime.timezone(datetime.timedelta(" ++ days ++ "seconds=" ++ toString seconds ++ "))"

/-- A moment as it is shown inside a message; zero seconds at the end are left out. -/
def display : Moment → String
  | .date year month day =>
    "datetime.date(" ++ String.intercalate ", " ([year, month, day].map toString) ++ ")"
  | .time year month day hour minute second microsecond offset =>
    let parts := [year, month, day, hour, minute] ++
      if microsecond ≠ 0 then [second, microsecond] else if second ≠ 0 then [second] else []
    let zone := match offset with
      | some minutes => ", tzinfo=" ++ displayOffset minutes
      | none => ""
    "datetime.datetime(" ++ String.intercalate ", " (parts.map toString) ++ zone ++ ")"

end Moment

end VitaeShell.Yaml
