import Admission.Text.Magnitude
import Admission.Text.Scanner
import Admission.Time.Calendar
import Admission.Toml.Value

/-!
The pieces of TOML text that hold no other values: white space, strings, numbers and dates.
-/

namespace Admission.Toml

open Text Scanner

def isSpace (c : Char) : Bool := c == ' ' || c == '\t'

/-- Characters that may stand in comments and in texts between quotes: all but the controls. -/
def isPlain (c : Char) : Bool := c == '\t' || (0x20 ≤ c.toNat && c.toNat ≤ 0x7E) || 0x80 ≤ c.toNat

/-- Spaces and tabs. -/
def spaces : Scanner Unit := do
  let _ ← spanWhile isSpace

/-- A line break. -/
def newline : Scanner Unit := literal "\n" <|> literal "\r\n"

/-- A comment up to the end of its line. -/
def comment : Scanner Unit := do
  char '#'
  let _ ← spanWhile isPlain

/-- A line break or the end of the text. -/
def lineEnd : Scanner Unit := newline <|> atEnd

/-- White space, line breaks and comments in any number. -/
def filler : Scanner Unit := do
  let _ ← many ((do let _ ← satisfy isSpace) <|> newline <|> comment)

/-! ### Strings -/

/-- The character of a code point given in so many hexadecimal digits. -/
def codePoint (digits : Nat) : Scanner Char := do
  let ds ← run (fun c => (hexDigitValue? c).isSome) digits digits
  let n := (hexValue? ds).getD 0
  if n.isValidChar then return Char.ofNat n else failure

/-- What follows a backslash in a basic string. -/
def escaped : Scanner Char := do
  let c ← satisfy fun _ => true
  if c == 'b' then return '\x08'
  else if c == 't' then return '\t'
  else if c == 'n' then return '\n'
  else if c == 'f' then return '\x0c'
  else if c == 'r' then return '\r'
  else if c == '"' || c == '\\' then return c
  else if c == 'u' then codePoint 4
  else if c == 'U' then codePoint 8
  else failure

/-- A character of a basic string, as it is or escaped. -/
def basicChar : Scanner Char :=
  satisfy (fun c => isPlain c && c != '"' && c != '\\') <|> (do char '\\'; escaped)

def basicString : Scanner String := do
  char '"'
  let cs ← many basicChar
  char '"'
  return String.ofList cs

def literalString : Scanner String := do
  char '\''
  let cs ← spanWhile fun c => isPlain c && c != '\''
  char '\''
  return String.ofList cs

/-- Quotes inside a string of several lines, fewer than would close it. -/
def innerQuotes (quote : Char) : Scanner (List Char) := do
  let qs ← spanWhile (· == quote)
  if 0 < qs.length ∧ qs.length < 3 then return qs else failure

/-- The three quotes that close a string of several lines, with up to two of its own before. -/
def closingQuotes (quote : Char) : Scanner (List Char) := do
  let qs ← run (· == quote) 3 5
  return qs.drop 3

/-- A backslash at the end of a line, with all white space up to the next text. -/
def joinedLines : Scanner (List Char) := do
  char '\\'
  spaces
  newline
  let _ ← many ((do let _ ← satisfy isSpace) <|> newline)
  return []

/-- A line break, whichever way it is written. -/
def lineBreak : Scanner (List Char) := do
  newline
  return ['\n']

def longBasicString : Scanner String := do
  literal "\"\"\""
  let _ ← Scanner.optional newline
  let parts ← many (innerQuotes '"' <|> lineBreak <|> joinedLines <|> (do return [← basicChar]))
  let last ← closingQuotes '"'
  return String.ofList (parts.flatten ++ last)

def longLiteralString : Scanner String := do
  literal "'''"
  let _ ← Scanner.optional newline
  let parts ← many (innerQuotes '\'' <|> lineBreak <|>
    (do return [← satisfy fun c => isPlain c && c != '\'']))
  let last ← closingQuotes '\''
  return String.ofList (parts.flatten ++ last)

def string : Scanner Value := do
  return .string (← longBasicString <|> basicString <|> longLiteralString <|> literalString)

/-! ### Numbers -/

/-- The text that a scanner reads. -/
def textOf {α : Type} (p : Scanner α) : Scanner (List Char) := fun cs =>
  (p cs).map fun r => (cs.take (cs.length - r.2.length), r.2)

/-- Digits with single underscores between them. -/
def digitRun (isDigit : Char → Bool) : Scanner (List Char) := do
  let first ← satisfy isDigit
  let rest ← many (satisfy isDigit <|> (do char '_'; satisfy isDigit))
  return first :: rest

def sign : Scanner (Option Char) := Scanner.optional (satisfy fun c => c == '+' || c == '-')

/-- Digits of a decimal number, which begin with zero only if there is but one. -/
def wholeDigits : Scanner (List Char) := do
  let ds ← (do
    let c ← peek?
    if c == some '0' then return [← satisfy (· == '0')] else digitRun Char.isDigit)
  return ds

/-- A whole number in the range of 64 bits. -/
def inRange (n : Int) : Scanner Value :=
  if -9223372036854775808 ≤ n ∧ n < 9223372036854775808 then return .integer n else failure

def decimalInteger : Scanner Value := do
  let s ← sign
  let n : Int := decimalValue (← wholeDigits)
  inRange (if s == some '-' then -n else n)

/-- A whole number after a mark, to a base of at most sixteen. -/
def basedInteger (mark : String) (base : Nat) : Scanner Value := do
  literal mark
  let ds ← digitRun fun c => match hexDigitValue? c with
    | some d => d < base
    | none => false
  inRange (ds.foldl (fun n c => n * base + (hexDigitValue? c).getD 0) 0 : Nat)

def integer : Scanner Value :=
  basedInteger "0x" 16 <|> basedInteger "0o" 8 <|> basedInteger "0b" 2 <|> decimalInteger

def exponent : Scanner Unit := do
  let _ ← satisfy fun c => c == 'e' || c == 'E'
  let _ ← sign
  let _ ← digitRun Char.isDigit

def fractionPart : Scanner Unit := do
  char '.'
  let _ ← digitRun Char.isDigit

/-- A number with a fraction or an exponent; a positive one may not be beyond all magnitude. -/
def floatNumber : Scanner Value := do
  let cs ← textOf (do
    let _ ← sign
    let _ ← wholeDigits
    (do fractionPart; let _ ← Scanner.optional exponent) <|> exponent)
  if cs.head? != some '-' && literalExceedsMagnitude cs then failure
  return .float (String.ofList cs)

/-- Infinity, or no number. -/
def specialFloat : Scanner Value := do
  let cs ← textOf (do
    let _ ← sign
    literal "inf" <|> literal "nan")
  return .float (String.ofList cs)

def boolean : Scanner Value :=
  (do literal "true"; return .boolean true) <|> (do literal "false"; return .boolean false)

/-! ### Dates and times -/

/-- A number of two digits from 'least' to 'most'. -/
def twoDigits (least most : Nat) : Scanner Nat := do
  let n ← number 2 2
  if least ≤ n ∧ n ≤ most then return n else failure

def date : Scanner Unit := do
  let year ← number 4 4
  char '-'
  let month ← twoDigits 1 12
  char '-'
  let day ← twoDigits 1 31
  if Date.isValid ⟨year, month, day⟩ then return () else failure

def time : Scanner Unit := do
  let _ ← twoDigits 0 23
  char ':'
  let _ ← twoDigits 0 59
  char ':'
  let _ ← twoDigits 0 60
  let _ ← Scanner.optional (do
    char '.'
    let _ ← satisfy Char.isDigit
    let _ ← spanWhile Char.isDigit)

def timeOffset : Scanner Unit :=
  (do let _ ← satisfy fun c => c == 'Z' || c == 'z') <|> (do
    let _ ← satisfy fun c => c == '+' || c == '-'
    let _ ← twoDigits 0 23
    char ':'
    let _ ← twoDigits 0 59)

def datetime : Scanner Value := do
  let cs ← textOf ((do
    date
    let _ ← Scanner.optional (do
      let _ ← satisfy fun c => c == 'T' || c == 't' || c == ' '
      time
      let _ ← Scanner.optional timeOffset)) <|> time)
  return .datetime (String.ofList cs)

/-- A value that holds no other values. -/
def scalar : Scanner Value :=
  string <|> boolean <|> datetime <|> floatNumber <|> specialFloat <|> integer

end Admission.Toml
