import Admission.Binary
import Admission.Text.Digits

/-!
Whether a decimal literal is too large for a binary number of 64 bits when it is rounded once.
-/

namespace Admission.Text

/-- Whether 'mantissa * 10 ^ exponent' reaches the limit. Numbers of clearly more or fewer digits
    than the limit are told by their length. -/
def exceedsMagnitude (mantissa : Nat) (exponent : Int) : Bool :=
  let length : Int := (Nat.repr mantissa).length + exponent
  if mantissa == 0 || length < 300 then false
  else if length > 320 then true
  else if 0 ≤ exponent then Binary.limit ≤ mantissa * Nat.pow 10 exponent.toNat
  else Binary.limit * Nat.pow 10 exponent.natAbs ≤ mantissa

/-- The number that the digits among some characters stand for. -/
def digitsOnly (cs : List Char) : Nat := decimalValue (cs.filter Char.isDigit)

/-- Whether a literal of digits with point and exponent exceeds the limit, its sign left aside. -/
def literalExceedsMagnitude (literal : List Char) : Bool :=
  let body := literal.takeWhile fun c => c != 'e' && c != 'E'
  let power := (literal.dropWhile fun c => c != 'e' && c != 'E').drop 1
  let places := ((body.dropWhile (· != '.')).filter Char.isDigit).length
  let shift : Int := if power.head? == some '-' then -(digitsOnly power : Int) else digitsOnly power
  exceedsMagnitude (digitsOnly body) (shift - places)

end Admission.Text
