import TenantAccess.Text.Quoted
import TenantAccess.Time.Timestamp

/- Reading timestamps. The date names a month and a day, or a week and perhaps a day of it; one
character separates it from the time, which names hours and perhaps minutes, seconds and a fraction;
an offset from universal time may follow. Dates and times may do without the marks between their
parts. A NUL ends the text like its end does. -/

set_option autoImplicit false

namespace TenantAccess.Time

/-- Why a text is no timestamp. -/
inductive TimestampError where
  | malformed (text : String)
  | offsetTooLong (offset : Int)
  | noSuchYear (year : Int)
  | noSuchMonth
  | noSuchDay
  | noSuchHour
  | noSuchMinute
  | noSuchSecond
  deriving DecidableEq, Repr

/-- A length of time, as days and the seconds and microseconds beyond them, unless those are
zero. -/
def durationText (duration : Int) : String :=
  let days := duration.fdiv day
  let rest := duration - days * day
  let parts := [("days", days), ("seconds", rest / second), ("microseconds", rest % second)]
  let shown := parts.filterMap fun part =>
    if part.2 = 0 then none else some s!"{part.1}={part.2}"
  "datetime.timedelta(" ++ (if shown = [] then "0" else ", ".intercalate shown) ++ ")"

def TimestampError.message : TimestampError → String
  | .malformed text => s!"Invalid isoformat string: {Text.quoted text}"
  | .offsetTooLong offset =>
    "offset must be a timedelta strictly between -timedelta(hours=24) and timedelta(hours=24), "
      ++ s!"not {durationText offset}."
  | .noSuchYear year => s!"year {year} is out of range"
  | .noSuchMonth => "month must be in 1..12"
  | .noSuchDay => "day is out of range for month"
  | .noSuchHour => "hour must be in 0..23"
  | .noSuchMinute => "minute must be in 0..59"
  | .noSuchSecond => "second must be in 0..59"

namespace TimestampReader

/-- Exactly `count` ASCII digits at the head of a text. -/
def readDigits? (count : Nat) (cs : List Char) : Option (Nat × List Char) :=
  let head := cs.take count
  if head.length = count ∧ head.all Char.isDigit then
    some (Text.ofDecimalDigits head, cs.drop count)
  else none

/-- The rest behind a mark, which is written in one form of dates only. -/
def skipMark? (isMarked : Bool) (cs : List Char) : Option (List Char) :=
  match isMarked, cs with
  | false, cs => some cs
  | true, '-' :: rest => some rest
  | true, _ => none

def isEnd (cs : List Char) : Bool := cs.head?.all (· == '\x00')

/-- Whether a year has a week 53: it does if it starts on a Thursday, or on a Wednesday before a
leap day. -/
def isLongYear (year : Int) : Bool :=
  let start := weekday (Date.toDays ⟨year, 1, 1⟩)
  start == 3 || (start == 2 && isLeapYear year)

/-- The day on which the first week of a year starts: the Monday nearest to its first day. -/
def firstMonday (year : Int) : Int :=
  let start := Date.toDays ⟨year, 1, 1⟩
  let monday := start - weekday start
  if 3 < weekday start then monday + 7 else monday

/-- The date of a day in a week. Before the year 1 there are no months. -/
def dateOfWeek? (year : Int) (week day : Nat) : Option Date :=
  let isWeek := 1 ≤ week && (week ≤ 52 || (week == 53 && isLongYear year))
  if isWeek && 1 ≤ day && day ≤ 7 then
    let days := firstMonday year + (week - 1) * 7 + (day - 1)
    if days < Date.toDays ⟨1, 1, 1⟩ then some ⟨1, 0, 1⟩ else some (.ofDays days)
  else none

def readWeek? (isMarked : Bool) (year : Int) (cs : List Char) : Option Date := do
  let (week, rest) ← readDigits? 2 cs
  if rest = [] then dateOfWeek? year week 1
  else do
    let (day, _) ← readDigits? 1 (← skipMark? isMarked rest)
    dateOfWeek? year week day

def readMonthAndDay? (isMarked : Bool) (year : Int) (cs : List Char) : Option Date := do
  let (month, rest) ← readDigits? 2 cs
  let (day, _) ← readDigits? 2 (← skipMark? isMarked rest)
  some ⟨year, month, day⟩

def readDate? (cs : List Char) : Option Date := do
  let (year, rest) ← readDigits? 4 cs
  let isMarked := rest.head? == some '-'
  match ← skipMark? isMarked rest with
  | 'W' :: rest => readWeek? isMarked year rest
  | rest => readMonthAndDay? isMarked year rest

/-- The length of a date without marks that names a week, from how many digits follow the week.
A lone digit is the day of the week. Of several one is the day or the separator, and the others
are pairs. -/
def plainWeekLength (digits : Nat) : Nat :=
  if digits < 2 then 7 + digits else if digits % 2 = 1 then 7 else 8

/-- How many characters belong to the date. -/
def dateLength (cs : List Char) : Nat :=
  if cs.length = 7 then 7
  else match cs[4]?, cs[5]? with
    | some '-', some 'W' =>
      if cs[8]? = some '-' then (if cs[10]?.any Char.isDigit then 8 else 10) else 8
    | some '-', _ => 10
    | some 'W', _ => plainWeekLength ((cs.drop 7).takeWhile Char.isDigit).length
    | _, _ => 8

/-- The parts of a time, as far as they are written. -/
structure Parts where
  numbers : List Nat
  fraction : Int

def Parts.hours (parts : Parts) : Nat := parts.numbers.headD 0

def Parts.minutes (parts : Parts) : Nat := (parts.numbers.drop 1).headD 0

def Parts.seconds (parts : Parts) : Nat := (parts.numbers.drop 2).headD 0

def Parts.wholeSeconds (parts : Parts) : Int :=
  (parts.hours * 60 + parts.minutes) * 60 + parts.seconds

def Parts.total (parts : Parts) : Int := parts.wholeSeconds * second + parts.fraction

/-- A fraction of a second in microseconds, of which digits beyond the sixth do not count, and
whether the text ends behind it. -/
def readFraction? (cs : List Char) : Option (Int × Bool) := do
  let count := min 6 cs.length
  let (value, rest) ← readDigits? count cs
  some (value * Nat.pow 10 (6 - count), isEnd (rest.dropWhile Char.isDigit))

/-- The parts of a time of which the given count may still follow in digits, and whether the text
ends behind them. Colons stand between all of them or none; the first mark decides. A single
character behind a part is not looked at. -/
def readParts? (isMarked : Option Bool) : Nat → List Char → Option (Parts × Bool)
  | 0, cs => (readFraction? cs).map fun read => (⟨[], read.1⟩, read.2)
  | count + 1, cs =>
    match readDigits? 2 cs with
    | none => none
    | some (number, []) => some (⟨[number], 0⟩, true)
    | some (number, [c]) => some (⟨[number], 0⟩, c == '\x00')
    | some (number, c :: rest) =>
      let isMarked := isMarked.getD (c == ':')
      let read :=
        if isMarked && c == ':' then readParts? (some true) count rest
        else if c = '.' ∨ c = ',' then readParts? (some isMarked) 0 rest
        else if isMarked then none
        else readParts? (some false) count (c :: rest)
      read.map fun read => (⟨number :: read.1.numbers, read.1.fraction⟩, read.2)

def isZoneMark (c : Char) : Bool := c == '+' || c == '-' || c == 'Z'

/-- An offset from universal time. One without whole seconds counts as none. -/
def readOffset? : List Char → Option Int
  | 'Z' :: rest => if isEnd rest then some 0 else none
  | sign :: rest =>
    match readParts? none 3 rest with
    | some (parts, true) =>
      let size := if parts.wholeSeconds = 0 then 0 else parts.total
      some (if sign = '-' then -size else size)
    | _ => none
  | [] => none

/-- A time, and its offset if that is known. -/
def readTime? (cs : List Char) : Option (Parts × Option Int) :=
  let (clock, zone) := cs.span fun c => !isZoneMark c
  match readParts? none 3 clock with
  | none => none
  | some (parts, ends) =>
    if zone = [] then if ends then some (parts, none) else none
    else (readOffset? zone).map fun offset => (parts, some offset)

/-- What a timestamp is made of, before any of it is known to be in range. -/
def readShape? (cs : List Char) : Option (Date × Parts × Option Int) :=
  if cs.length < 7 then none
  else do
    let length := dateLength cs
    let date ← readDate? (cs.take length)
    match cs.drop length with
    | [] => some (date, ⟨[], 0⟩, none)
    | _ :: time => do
      let (parts, offset) ← readTime? time
      some (date, parts, offset)

/-- What is out of range first: the offset, then the date, then the time. -/
def rangeError? (date : Date) (parts : Parts) (offset : Option Int) : Option TimestampError :=
  let length := offset.getD 0
  if length ≤ -day ∨ day ≤ length then some (.offsetTooLong length)
  else if date.year < 1 ∨ 9999 < date.year then some (.noSuchYear date.year)
  else if date.month < 1 ∨ 12 < date.month then some .noSuchMonth
  else if date.day < 1 ∨ daysInMonth date.year date.month < date.day then some .noSuchDay
  else if 23 < parts.hours then some .noSuchHour
  else if 59 < parts.minutes then some .noSuchMinute
  else if 59 < parts.seconds then some .noSuchSecond
  else none

end TimestampReader

/-- Reads a date, or a date and a time. -/
def Timestamp.parse (text : String) : Except TimestampError Timestamp :=
  match TimestampReader.readShape? text.toList with
  | none => .error (.malformed text)
  | some (date, parts, offset) =>
    match TimestampReader.rangeError? date parts offset with
    | some error => .error error
    | none => .ok ⟨date.toDays * day + parts.total, offset⟩

end TenantAccess.Time
