import Admission.Text.Blank
import Admission.Text.Scanner
import Admission.Time.Instant

/-!
The written forms of instants. One form is printed: ISO 8601 in UTC with the shortest fraction of
0, 3, 6 or 9 digits that is exact. Two are read: 'ofText?' allows white space between the parts,
fields of fewer digits and years beyond four digits; 'ofStrictText?' is the profile of RFC 3339.
-/

namespace Admission

open Text

namespace Instant

/-- A year: four digits, or a sign and at least four digits outside 0 to 9999. -/
def yearText (year : Int) : List Char :=
  if 0 ≤ year ∧ year ≤ 9999 then padded 4 year.toNat
  else (if year < 0 then '-' else '+') :: padded 4 year.natAbs

/-- A fraction of a second in 0, 3, 6 or 9 digits, the fewest that are exact. -/
def fractionText (nano : Nat) : List Char :=
  if nano == 0 then []
  else if nano % 1000000 == 0 then '.' :: padded 3 (nano / 1000000)
  else if nano % 1000 == 0 then '.' :: padded 6 (nano / 1000)
  else '.' :: padded 9 nano

/-- The calendar date of an instant. -/
def date (t : Instant) : Date := Date.ofDayNumber (t.second / 86400)

/-- Date, time of day and fraction, with a given name for the zone UTC. -/
def isoChars (zone : List Char) (t : Instant) : List Char :=
  let second := t.secondOfDay.toNat
  let shownSecond := if t.inLeapSecond then second % 60 + 1 else second % 60
  yearText t.date.year ++ '-' :: padded 2 t.date.month ++ '-' :: padded 2 t.date.day ++
    'T' :: padded 2 (second / 3600) ++ ':' :: padded 2 (second / 60 % 60) ++
    ':' :: padded 2 shownSecond ++ fractionText (t.nano % 1000000000) ++ zone

/-- The form kept in documents, which ends in Z. -/
def text (t : Instant) : String := String.ofList (isoChars ['Z'] t)

/-- The form shown in messages, which ends in +00:00. -/
def offsetText (t : Instant) : String := String.ofList (isoChars "+00:00".toList t)

instance : ToString Instant := ⟨text⟩

/-- The instant of a local date and time of day at an offset in seconds east of UTC. A second of
    60 is the leap second after 59. -/
def ofLocal? (date : Date) (hour minute second nano : Nat) (offset : Int) : Option Instant :=
  if date.isValid ∧ -262143 ≤ date.year ∧ date.year ≤ 262142 ∧ hour ≤ 23 ∧ minute ≤ 59 ∧
      second ≤ 60 ∧ -86400 < offset ∧ offset < 86400 then
    let leap := if second = 60 then 1 else 0
    ofParts? (date.dayNumber * 86400 + (hour * 3600 + minute * 60 + (second - leap) : Nat) - offset)
      (nano + leap * 1000000000)
  else none

/-- Passes over white space. -/
def blanks : Scanner Unit := fun cs => some ((), skipBlanks cs)

/-- A fraction of a second, in nanoseconds; digits from the tenth on are dropped. -/
def fraction : Scanner Nat := do
  if (← Scanner.peek?) == some '.' then
    Scanner.char '.'
    let digits ← Scanner.run Char.isDigit 1 9
    let _ ← Scanner.spanWhile Char.isDigit
    return decimalValue digits * Nat.pow 10 (9 - digits.length)
  else return 0

/-- An offset from UTC in seconds, with 'between' between its hours and minutes. -/
def offset (between : Scanner Unit) : Scanner Int := do
  if (← Scanner.optional (Scanner.satisfy fun c => c == 'Z' || c == 'z')).isSome then return 0
  let sign ← Scanner.satisfy fun c => c == '+' || c == '-' || c == '\u2212'
  let hours ← Scanner.number 2 2
  between
  let minutes ← Scanner.number 2 2
  if minutes > 59 then failure
  let seconds : Int := hours * 3600 + minutes * 60
  return if sign == '+' then seconds else -seconds

/-- What stands between a date and a time of day. -/
def dateTimeMark : Scanner Char := Scanner.satisfy fun c => c == 'T' || c == 't' || c == ' '

/-- A year: up to four digits, or a sign and any number of digits. -/
def year : Scanner Int := do
  match ← Scanner.optional (Scanner.satisfy fun c => c == '+' || c == '-') with
  | some sign =>
    let digits ← Scanner.spanWhile Char.isDigit
    if digits.isEmpty then failure
    let value : Int := decimalValue digits
    return if sign == '-' then -value else value
  | none => return (← Scanner.number 1 4)

/-- Colons and white space in any number. -/
def colonsAndBlanks : Scanner Unit := fun cs =>
  some ((), cs.dropWhile fun c => c == ':' || isBlank c)

/-- A field of one or two digits, with white space before it. -/
def field : Scanner Nat := do
  blanks
  Scanner.number 1 2

/-- A mark with white space before it. -/
def mark (c : Char) : Scanner Unit := do
  blanks
  Scanner.char c

/-- The offset, or the letters UTC in any case. -/
def zone : Scanner Int := do
  if ((← get).take 3).map Char.toUpper == "UTC".toList then
    modify (·.drop 3)
    return 0
  else offset colonsAndBlanks

/-- The lenient form. -/
def lenient : Scanner Instant := do
  blanks
  let y ← year
  mark '-'
  let m ← field
  mark '-'
  let d ← field
  let _ ← dateTimeMark
  let hour ← field
  mark ':'
  let minute ← field
  mark ':'
  let second ← field
  let nano ← fraction
  blanks
  let east ← zone
  blanks
  (ofLocal? ⟨y, m, d⟩ hour minute second nano east).elim failure pure

/-- The strict form. -/
def strict : Scanner Instant := do
  let y ← Scanner.number 4 4
  Scanner.char '-'
  let m ← Scanner.number 2 2
  Scanner.char '-'
  let d ← Scanner.number 2 2
  let _ ← dateTimeMark
  let hour ← Scanner.number 2 2
  Scanner.char ':'
  let minute ← Scanner.number 2 2
  Scanner.char ':'
  let second ← Scanner.number 2 2
  let nano ← fraction
  let east ← offset (Scanner.char ':')
  (ofLocal? ⟨y, m, d⟩ hour minute second nano east).elim failure pure

/-- Reads an instant in the lenient form. -/
def ofText? (s : String) : Option Instant := Scanner.readAll? lenient s.toList

/-- Reads an instant in the strict form. -/
def ofStrictText? (s : String) : Option Instant := Scanner.readAll? strict s.toList

end Instant

end Admission
