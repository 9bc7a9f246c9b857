import Mathlib.Data.Nat.Notation

/-! Python's `datetime.fromisoformat`, as CPython 3.11 reads a text: where the date ends,
calendar and week dates, the time with its fraction, and the UTC offset. A date and time is
its microseconds since 0001-01-01 with its offset in microseconds, if it has one. -/
namespace IsoFormat

def isLeap (year : Nat) : Bool :=
  decide (year % 4 = 0 ∧ (year % 100 ≠ 0 ∨ year % 400 = 0))

def daysInMonth (year month : Nat) : Nat :=
  if month = 2 then if isLeap year then 29 else 28
  else if month ∈ [4,6,9,11] then 30 else 31

def daysBeforeYear (year : Nat) : Nat :=
  let y := year - 1
  y * 365 + y / 4 - y / 100 + y / 400

def daysBeforeMonth (year month : Nat) : Nat :=
  (List.range (month - 1)).foldl (fun days before => days + daysInMonth year (before + 1)) 0

/-- The day of 0001-01-01 is 1. -/
def ordinal (year month day : Nat) : Nat :=
  daysBeforeYear year + daysBeforeMonth year month + day

def ymdOrdinal (year month day : Nat) : Option Nat :=
  if 1 ≤ year ∧ year ≤ 9999 ∧ 1 ≤ month ∧ month ≤ 12 ∧ 1 ≤ day ∧ day ≤ daysInMonth year month
  then some (ordinal year month day) else none

/-- The Monday that week 1 starts on; the count runs from -6 to leave room for the first year. -/
def isoWeekOneMonday (year : Nat) : Int :=
  let firstDay : Int := ordinal year 1 1
  let firstWeekday := (firstDay + 6) % 7
  let weekOneMonday := firstDay - firstWeekday
  if firstWeekday > 3 then weekOneMonday + 7 else weekOneMonday

/-- A year has a week 53 when it starts on a Thursday, or is a leap year and starts on a
Wednesday. -/
def hasWeek (year week : Nat) : Bool :=
  let firstWeekday := ordinal year 1 1 % 7
  decide (1 ≤ week ∧ (week ≤ 52 ∨
    week = 53 ∧ (firstWeekday = 4 ∨ firstWeekday = 3 ∧ isLeap year = true)))

def isoOrdinal (year week day : Nat) : Option Nat :=
  if 1 ≤ year ∧ year ≤ 9999 ∧ hasWeek year week = true ∧ 1 ≤ day ∧ day ≤ 7 then
    let dayOfWeek := isoWeekOneMonday year + (week - 1) * 7 + (day - 1)
    if 1 ≤ dayOfWeek ∧ dayOfWeek ≤ ordinal 9999 12 31 then some dayOfWeek.toNat else none
  else none

def parseDigits : Nat → Nat → List Char → Option (Nat × List Char)
  | 0,value,p => some (value,p)
  | _ + 1,_,[] => none
  | count + 1,value,c :: p =>
    if c.isDigit then parseDigits count (10 * value + (c.toNat - 48)) p else none

/-- The character at the pointer, the terminating zero at the end of the text. -/
def current (p : List Char) : Char := p.headD (Char.ofNat 0)

def charAt (text : List Char) (index : Nat) : Char := current (text.drop index)

/-- Where the date ends. A date is ten characters with dashes and eight without; a week date
may leave out its day, which is told by what follows it. -/
def separatorLocation (text : List Char) : Option Nat :=
  let len := text.length
  if len = 7 then some 7
  else if charAt text 4 = '-' then
    if charAt text 5 = 'W' then
      if len > 8 ∧ charAt text 8 = '-' then
        if len = 9 then none
        else if len > 10 ∧ (charAt text 10).isDigit = true then some 8
        else some 10
      else some 8
    else some 10
  else if charAt text 4 = 'W' then
    let position := 7 + ((text.drop 7).takeWhile Char.isDigit).length
    if position < 9 then some position
    else if position % 2 = 0 then some 7 else some 8
  else some 8

def parseDate (text : List Char) (len : Nat) : Option Nat := do
  let (year,p) ← parseDigits 4 0 text
  let usesSeparator := current p == '-'
  let p := if usesSeparator then p.tail else p
  if current p = 'W' then
    let (week,p) ← parseDigits 2 0 p.tail
    if text.length - p.length < len then
      if usesSeparator && current p != '-' then none else
      let (day,_) ← parseDigits 1 0 (if usesSeparator then p.tail else p)
      isoOrdinal year week day
    else isoOrdinal year week 1
  else
    let (month,p) ← parseDigits 2 0 p
    if usesSeparator && current p != '-' then none else
    let (day,p) ← parseDigits 2 0 (if usesSeparator then p.tail else p)
    if text.length - p.length = len then ymdOrdinal year month day else none

/-- The hours, minutes and seconds read, the microseconds, and whether text is left over. -/
abbrev ClockReading := List Nat × Nat × Bool

def parseFraction (fields : List Nat) (p : List Char) (left : Nat) : Option ClockReading := do
  let toParse := min left 6
  let (fraction,p) ← parseDigits toParse 0 p
  let p := p.dropWhile Char.isDigit
  return (fields,fraction * Nat.pow 10 (6 - toParse),current p != Char.ofNat 0)

/-- Up to `fieldsLeft` fields of two digits; `left` characters are left before the end. The
separator after the first field decides whether the others are separated. -/
def parseClock : Nat → Option Bool → List Nat → List Char → Nat → Option ClockReading
  | 0,_,fields,p,left => parseFraction fields p left
  | fieldsLeft + 1,separated,fields,p,left => do
    let (value,p) ← parseDigits 2 0 p
    let c := current p
    let hasSeparator := separated.getD (c == ':')
    let fields := fields ++ [value]
    if left - 3 = 0 then some (fields,0,c != Char.ofNat 0)
    else if hasSeparator && c == ':' then
      parseClock fieldsLeft (some hasSeparator) fields p.tail (left - 3)
    else if c == '.' || c == ',' then parseFraction fields p.tail (left - 3)
    else if hasSeparator then none
    else parseClock fieldsLeft (some hasSeparator) fields p (left - 2)

def seconds (fields : List Nat) : Nat :=
  3600 * fields.getD 0 0 + 60 * fields.getD 1 0 + fields.getD 2 0

def isOffsetStart (c : Char) : Bool := c == '+' || c == '-' || c == 'Z'

/-- The clock fields, the microseconds and the offset in microseconds. -/
def parseTime (text : List Char) : Option (List Nat × Nat × Option Int) := do
  let clock := text.takeWhile (fun c => !isOffsetStart c)
  let (fields,microseconds,leftOver) ← parseClock 3 none [] text clock.length
  match text.drop clock.length with
  | [] => if leftOver then none else some (fields,microseconds,none)
  | 'Z' :: rest => if rest.isEmpty then some (fields,microseconds,some 0) else none
  | sign :: rest =>
    let (offsetFields,offsetMicroseconds,offsetLeftOver) ← parseClock 3 none [] rest rest.length
    if offsetLeftOver then none else
    -- an offset of less than a second is taken for UTC
    let offset : Int := if seconds offsetFields = 0 then 0 else
      1000000 * seconds offsetFields + offsetMicroseconds
    some (fields,microseconds,some (if sign = '-' then -offset else offset))

def day : Int := 24 * 3600 * 1000000

def fromisoformat (text : String) : Option (Int × Option Int) := do
  let text := text.toList
  if text.length < 7 then none else
  let separator ← separatorLocation text
  let date ← parseDate text separator
  let midnight : Int := (date - 1) * day
  match text.drop separator with
  | [] => some (midnight,none)
  | _ :: time =>
    let (fields,microseconds,offset) ← parseTime time
    if fields.getD 0 0 < 24 ∧ fields.getD 1 0 < 60 ∧ fields.getD 2 0 < 60 ∧
        (offset.getD 0).natAbs < day.natAbs then
      some (midnight + 1000000 * seconds fields + microseconds,offset)
    else none

end IsoFormat
