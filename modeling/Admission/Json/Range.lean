import Admission.Binary
import Admission.Json.Value
import Admission.Text.Digits

/-!
Which numbers can be held. A number is taken in as a whole number below 2 to the 64th, made of its
first digits, and a power of ten for the point, the exponent and the digits left out. Both are
rounded to binary numbers, and so is their product, which may lie on the other side of the limit
than the number that is written.
-/

namespace Admission.Json

open Text

/-- Goes on taking digits into a whole number, as long as it stays below 2 to the 64th: the number,
    and the digits left out. -/
def takeIn (n : Nat) : List Char → Nat × List Char
  | [] => (n, [])
  | d :: ds =>
    let next := n * 10 + decimalValue [d]
    if next < 18446744073709551616 then takeIn next ds else (n, d :: ds)

/-- The whole number and the power of ten that a number is taken in as. -/
def takenIn (whole fraction : List Char) (exponent : Int) : Nat × Int :=
  let (n, wholeLeft) := takeIn 0 whole
  let (n, fractionLeft) := takeIn n fraction
  (n, exponent + wholeLeft.length - (fraction.length - fractionLeft.length : Nat))

/-- Whether the product of a whole number and a power of ten can be held. Small ones become zero. -/
def productInRange (n : Nat) (power : Int) : Bool :=
  n == 0 || power < 0 ||
    (power ≤ 308 && Binary.nearest n * Binary.nearest (Nat.pow 10 power.toNat) < Binary.limit)

/-- The power of ten that a literal ends in. -/
def writtenExponent : List Char → Int
  | _ :: '-' :: ds => -(decimalValue ds : Int)
  | _ :: '+' :: ds => decimalValue ds
  | _ :: ds => decimalValue ds
  | [] => 0

/-- Whether a literal that is no whole number can be held. -/
def literalInRange (literal : List Char) : Bool :=
  let body := literal.dropWhile (· == '-')
  let whole := body.takeWhile Char.isDigit
  let (fraction, exponent) := match body.dropWhile Char.isDigit with
    | '.' :: rest => (rest.takeWhile Char.isDigit, rest.dropWhile Char.isDigit)
    | rest => ([], rest)
  let (n, power) := takenIn whole fraction (writtenExponent exponent)
  productInRange n power

/-- Whether a whole number can be held. -/
def wholeInRange (n : Int) : Bool :=
  let (n, power) := takenIn (Nat.toDigits 10 n.natAbs) [] 0
  productInRange n power

end Admission.Json
