/-!
Binary numbers of 53 bits, the precision of a number that is held in 64. A whole number or a
quotient is rounded to the nearest of them, and to the even neighbour from halfway.
-/

namespace Admission.Binary

/-- A quotient rounded to the nearest whole number, to the even one from halfway. -/
def roundHalfEven (num den : Nat) : Nat :=
  let q := num / den
  let twice := 2 * (num % den)
  if twice < den then q
  else if den < twice then q + 1
  else if q % 2 = 0 then q else q + 1

/-- The nearest binary number to a whole number. -/
def nearest (n : Nat) : Nat :=
  let unit := Nat.pow 2 (Nat.log2 n - 52)
  roundHalfEven n unit * unit

/-- The nearest binary number to a positive quotient: a whole number and a power of two that is to
    divide it. A quotient of more than 53 bits has a negative power. -/
def nearestQuotient (num den : Nat) : Nat × Int :=
  let scale (shift : Int) : Nat :=
    if 0 ≤ shift then roundHalfEven (num * Nat.pow 2 shift.toNat) den
    else roundHalfEven num (den * Nat.pow 2 shift.natAbs)
  let shift : Int := 53 - (Nat.log2 num - Nat.log2 den : Int)
  if scale shift < 9007199254740992 then (scale shift, shift) else (scale (shift - 1), shift - 1)

/-- The least number that is too large to be held: it lies halfway from the largest binary number
    that 64 bits hold to the next power of two. -/
def limit : Nat := Nat.pow 2 1024 - Nat.pow 2 970

end Admission.Binary
