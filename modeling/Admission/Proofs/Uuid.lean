import Mathlib.Algebra.GroupWithZero.Nat
import Admission.Proofs.Restoring
import Admission.Uuid

/-!
The written form of a UUID, read again, is the UUID (`restores_text`): taking the hyphens out of a
text undoes putting them in, whatever the lengths of the groups are (`unhyphenate?_hyphenate`).
-/

namespace Admission.Uuid

theorem length_hyphenate {ns : List Nat} (hns : ns ≠ []) (cs : List Char) (h : ns.sum ≤ cs.length) :
    (hyphenate ns cs).length + 1 = cs.length + ns.length := by
  induction ns generalizing cs with
  | nil => exact absurd rfl hns
  | cons n ns ih =>
    cases ns with
    | nil => rfl
    | cons m ns =>
      rw [List.sum_cons] at h
      have hrest := ih (by simp) (cs.drop n) (by rw [List.length_drop]; omega)
      simp only [hyphenate, List.length_append, List.length_take, List.length_cons,
        List.length_drop] at hrest ⊢
      omega

theorem unhyphenate?_hyphenate {ns : List Nat} (cs : List Char) (h : ns.sum ≤ cs.length) :
    unhyphenate? ns (hyphenate ns cs) = some cs := by
  induction ns generalizing cs with
  | nil => rfl
  | cons n ns ih =>
    cases ns with
    | nil => rfl
    | cons m ns =>
      rw [List.sum_cons] at h
      have hlen : (cs.take n).length = n := by rw [List.length_take]; omega
      have hrest := ih (cs.drop n) (by rw [List.length_drop]; omega)
      simp only [hyphenate, unhyphenate?, List.drop_left' hlen, List.take_left' hlen, hrest,
        Option.map_some, List.take_append_drop]

theorem ofDigits?_map_hexChar (u : Uuid) : ofDigits? (u.digits.map hexChar) = some u := by
  have hdigits : (u.digits.map hexChar).mapM hexValue? = some u.digits :=
    Restores.mapM hexValue?_hexChar u.digits
  rw [ofDigits?, hdigits]
  exact dif_pos u.length_digits

/-- The written form of a UUID is read as the UUID. -/
theorem restores_text : Restores ofText? text := by
  intro u
  have hlen : (u.digits.map hexChar).length = 32 := by rw [List.length_map, u.length_digits]
  have hsum : groups.sum ≤ (u.digits.map hexChar).length := by rw [hlen]; decide
  have hall : (hyphenate groups (u.digits.map hexChar)).length + 1 = 32 + 5 :=
    hlen ▸ length_hyphenate (by decide) _ hsum
  rw [ofText?, text, String.toList_ofList]
  rw [if_neg (by omega), if_pos (by omega), unhyphenate?_hyphenate _ hsum, Option.bind_some,
    ofDigits?_map_hexChar]

end Admission.Uuid
