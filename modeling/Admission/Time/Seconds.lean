import Admission.Binary
import Admission.Text.Digits
import Admission.Time.Duration

/-!
A span of time as a number of seconds with three decimals. The number is a binary one: the whole
milliseconds are rounded to one, their thousandth is rounded to one, and that is rounded to three
decimals. Every rounding is to the nearest, and to the even neighbour from halfway.
-/

namespace Admission

open Binary

/-- The thousandths of a binary number, rounded. -/
def thousandths (x : Nat × Int) : Nat :=
  if 0 ≤ x.2 then roundHalfEven (x.1 * 1000) (Nat.pow 2 x.2.toNat)
  else x.1 * 1000 * Nat.pow 2 x.2.natAbs

/-- The span in seconds with three decimals. -/
def Duration.secondsText (d : Duration) : String :=
  let millis := d.millis
  let shown :=
    if millis == 0 then 0 else thousandths (nearestQuotient (nearest millis.natAbs) 1000)
  let sign := if millis < 0 then "-" else ""
  sign ++ toString (shown / 1000) ++ "." ++ String.ofList (Text.padded 3 (shown % 1000))

end Admission
