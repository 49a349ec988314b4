import WebhookBridge.Text.Basic

/-!
# Dates in headers

A date is read liberally: a weekday may stand in front, the parts may be separated by blanks, hyphens or slashes, the
month may be a name or a number, and the clock and the zone may be missing. It becomes the number of seconds since the
year 1970 began.

## Contents

* `daysBeforeYear`, `secondsOf?`: from a calendar day and a clock to seconds;
* `readDate?`: from a text to seconds.
-/

namespace WebhookBridge.HttpDate

/-! ## The calendar -/

/-- Whether a year has 366 days. -/
def isLeap (year : Nat) : Bool := year % 4 = 0 && (year % 100 ≠ 0 || year % 400 = 0)

/-- The days of the months before a month, in a year without a leap day. -/
def daysBeforeMonth (month : Nat) : Nat := 
  (([31, 28, 31, 30, 31, 30, 31, 31, 30, 31, 30, 31] : List Nat).take (month - 1)).foldl (· + ·) 0

/-- The days of the years before a year, from year one on. -/
def daysBeforeYear (year : Nat) : Nat := (year - 1) * 365 + (year - 1) / 4 - (year - 1) / 100 + (year - 1) / 400

/-- The seconds from the start of the year 1970 to a day and a clock; parts out of their range make none. A day that
    its month does not have counts on into the next. -/
def secondsOf? (year month day hour minute second : Nat) : Option Int :=
  if 1970 ≤ year && 1 ≤ month && month ≤ 12 && 1 ≤ day && day ≤ 31 && hour ≤ 24 && minute ≤ 59 && second ≤ 61 then
    let leapDay := if 2 < month && isLeap year then 1 else 0
    let days := daysBeforeYear year + daysBeforeMonth month + leapDay + (day - 1) - daysBeforeYear 1970
    some (((days * 24 + hour) * 60 + minute) * 60 + second)
  else none

/-! ## Reading -/

/-- Whether a code point is an ASCII blank. -/
def isBlank (c : CodePoint) : Bool := c.val = 0x20 || (0x9 ≤ c.val && c.val ≤ 0xD)

/-- Whether a code point is an ASCII letter, digit or underscore. -/
def isWordPart (c : CodePoint) : Bool := c.isAsciiLetter || c.isAsciiDigit || c = CodePoint.ofChar '_'

/-- The text without the blanks in front. -/
def skipBlanks (t : Text) : Text := t.dropWhile isBlank

/-- The number of a text of ASCII digits. -/
def number (t : Text) : Nat := t.foldl (fun n c => n * 10 + (c.val - 0x30)) 0

/-- The names of the months. -/
def months : List Text := ["jan", "feb", "mar", "apr", "may", "jun", "jul", "aug", "sep", "oct", "nov", "dec"]

/-- The names of the weekdays. -/
def weekdays : List Text := ["sun", "mon", "tue", "wed", "thu", "fri", "sat"]

/-- The text behind a weekday, if one stands in front. -/
def skipWeekday (t : Text) : Text :=
  if weekdays.contains (Text.toAsciiLower (t.take 3)) then
    let rest := t.dropWhile CodePoint.isAsciiLetter
    skipBlanks ((Text.dropPrefix? "," rest).getD rest)
  else t

/-- A separator between the parts of a day: blanks, or a hyphen or a slash. -/
def separator? (t : Text) : Option Text :=
  match t with
  | c :: rest =>
    if isBlank c then some (skipBlanks t)
    else if c = CodePoint.ofChar '-' ∨ c = CodePoint.ofChar '/' then some rest else none
  | [] => none

/-- A run of one or two digits. -/
def shortNumber? (t : Text) : Option (Nat × Text) :=
  let digits := (t.take 2).takeWhile CodePoint.isAsciiDigit
  if digits.isEmpty then none else some (number digits, t.drop digits.length)

/-- Two digits behind a colon. -/
def colonNumber? (t : Text) : Option (Nat × Text) := do
  let rest ← Text.dropPrefix? ":" t
  if (rest.take 2).length = 2 ∧ (rest.take 2).all CodePoint.isAsciiDigit then
    some (number (rest.take 2), rest.drop 2)
  else none

/-- The clock behind blanks or a colon: hour, minute and second, and the rest. -/
def clock? (t : Text) : Option (Nat × Nat × Nat × Text) := do
  let start ← match t with
    | c :: rest => if isBlank c then some (skipBlanks t) else if c = CodePoint.ofChar ':' then some rest else none
    | [] => none
  let (hour, t) ← shortNumber? start
  let (minute, t) ← colonNumber? t
  match colonNumber? t with
  | some (second, t) => some (hour, minute, second, t)
  | none => some (hour, minute, 0, t)

/-- The offset of a zone in seconds, for a zone that is known. -/
def offset? (zone : Text) : Option Int :=
  let zone := zone.toAsciiUpper
  if zone = ("GMT" : Text) ∨ zone = ("UTC" : Text) ∨ zone = ("UT" : Text) ∨ zone = ("Z" : Text) then some 0
  else
    let (negative, digits) := match zone with
      | c :: rest =>
        if c = CodePoint.ofChar '-' then (true, rest)
        else if c = CodePoint.ofChar '+' then (false, rest) else (false, zone)
      | [] => (false, zone)
    if digits.all CodePoint.isAsciiDigit ∧ 1 ≤ digits.length ∧ digits.length ≤ 4 then
      let hourDigits := if digits.length = 1 then 1 else if digits.length = 3 then 1 else 2
      let seconds : Int := 3600 * number (digits.take hourDigits) + 60 * number (digits.drop hourDigits)
      some (if negative then -seconds else seconds)
    else none

/-- The zone in front, and the rest: digits with or without a sign, or letters that name no half of a day. -/
def zone? (t : Text) : Option (Text × Text) :=
  let (sign, rest) := match t with
    | c :: rest =>
      if c = CodePoint.ofChar '-' ∨ c = CodePoint.ofChar '+' then ([c], rest) else ([], t)
    | [] => ([], t)
  let digits := (rest.take 4).takeWhile CodePoint.isAsciiDigit
  if 2 ≤ digits.length then some (sign ++ digits, rest.drop digits.length)
  else
    let letters := t.takeWhile CodePoint.isAsciiLetter
    let word := Text.toAsciiLower (t.takeWhile isWordPart)
    if letters.isEmpty ∨ word = ("am" : Text) ∨ word = ("pm" : Text) then none
    else some (letters, t.drop letters.length)

/-- Whether nothing is left but a word in brackets. -/
def isRemark (t : Text) : Bool :=
  match Text.dropPrefix? "(" t with
  | none => t.isEmpty
  | some rest =>
    !(rest.takeWhile isWordPart).isEmpty &&
      (match Text.dropPrefix? ")" (rest.dropWhile isWordPart) with
        | some tail => (skipBlanks tail).isEmpty
        | none => false)

/-- A year of less than four digits, in the century that brings it nearest to the present year. -/
def nearYear (present year : Nat) : Nat :=
  if year < 1000 then
    let inCentury := present % 100
    let guess := year + present - inCentury
    if inCentury > year + 50 then guess + 100 else if year > inCentury + 50 then guess - 100 else guess
  else year

/-- The seconds of a date, seen from a present year. -/
def readDate? (presentYear : Nat) (t : Text) : Option Int := do
  let t := skipWeekday (skipBlanks t)
  let (day, t) ← shortNumber? t
  let t ← separator? t
  let word := t.takeWhile isWordPart
  let t ← separator? (t.drop word.length)
  let digits := t.takeWhile CodePoint.isAsciiDigit
  if digits.isEmpty ∨ 4 < (digits.dropWhile (· = CodePoint.ofChar '0')).length then none
  let t := t.drop digits.length
  let month ← match months.findIdx? (· == Text.toAsciiLower word) with
    | some i => some (i + 1)
    | none =>
      if !word.isEmpty ∧ word.all CodePoint.isAsciiDigit ∧ 1 ≤ number word ∧ number word ≤ 12 then
        some (number word)
      else none
  let (hour, minute, second, t) := (clock? t).getD (0, 0, 0, t)
  let t := skipBlanks t
  let (zone, t) := match zone? t with
    | some (zone, rest) => (zone, skipBlanks rest)
    | none => ("UTC", t)
  if !isRemark t then none
  let seconds ← secondsOf? (nearYear presentYear (number digits)) month day hour minute second
  return seconds - (← offset? zone)

end WebhookBridge.HttpDate
