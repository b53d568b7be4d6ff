import Mathlib.Algebra.Group.Nat.Defs
import Admission.Text.Blank
import Admission.Text.Digits

/-!
Numbers in decimal. The digits of a number stand for it (`decimalValue_repr`), also with zeros
before them (`decimalValue_padded`); they start with a zero only if there is nothing else
(`repr_ne_zero_cons`).
-/

namespace Admission.Text

theorem decimalValue_eq_ofDigitChars (ds : List Char) :
    decimalValue ds = Nat.ofDigitChars 10 ds 0 := by
  simp only [decimalValue, Nat.ofDigitChars_eq_foldl, Nat.mul_comm]

variable {n : Nat}

/-! ### Digits -/

theorem isDigit_of_mem_repr {c : Char} (h : c ∈ (Nat.repr n).toList) : c.isDigit = true := by
  rw [Nat.toList_repr] at h
  exact Nat.isDigit_of_mem_toDigits (by decide) (by decide) h

theorem isDigit_of_mem_padded {w : Nat} {c : Char} (h : c ∈ padded w n) : c.isDigit = true := by
  rcases List.mem_append.1 h with h | h
  · rw [List.eq_of_mem_replicate h]
    rfl
  · exact isDigit_of_mem_repr h

theorem repr_ne_nil : (Nat.repr n).toList ≠ [] := by
  rw [Nat.toList_repr]
  exact Nat.toDigits_ne_nil

theorem length_padded {w : Nat} (hw : 0 < w) (h : n < 10 ^ w) : (padded w n).length = w := by
  have hle : (Nat.repr n).toList.length ≤ w := by
    rw [Nat.toList_repr]
    exact (Nat.length_toDigits_le_iff (by decide) hw).2 h
  rw [padded, List.length_append, List.length_replicate]
  omega

theorem isBlank_of_isDigit {c : Char} (h : c.isDigit = true) : isBlank c = false := by
  obtain ⟨hlow, hhigh⟩ : 48 ≤ c.toNat ∧ c.toNat ≤ 57 := Char.isDigit_iff_toNat.1 h
  simp [isBlank]
  omega

/-! ### Values -/

theorem decimalValue_repr (n : Nat) : decimalValue (Nat.repr n).toList = n := by
  rw [decimalValue_eq_ofDigitChars, Nat.toList_repr]
  exact Nat.ofDigitChars_ten_toDigits

theorem decimalValue_padded (w n : Nat) : decimalValue (padded w n) = n := by
  rw [decimalValue_eq_ofDigitChars, padded, Nat.ofDigitChars_append,
    Nat.ofDigitChars_replicate_zero, Nat.mul_zero, ← decimalValue_eq_ofDigitChars,
    decimalValue_repr]

/-- Only zero is written with a zero in front. -/
theorem repr_ne_zero_cons (h : n ≠ 0) (ds : List Char) : (Nat.repr n).toList ≠ '0' :: ds := by
  rw [Nat.toList_repr]
  induction n using Nat.strongRecOn generalizing ds with
  | ind n ih =>
    rw [Nat.toDigits_eq_if (by decide)]
    split
    · rename_i hlt
      intro heq
      exact h (Nat.digitChar_eq_zero.1 (List.cons.inj heq).1)
    · intro heq
      cases hd : Nat.toDigits 10 (n / 10) with
      | nil => exact Nat.toDigits_ne_nil hd
      | cons c cs =>
        rw [hd] at heq
        obtain rfl := (List.cons.inj heq).1
        exact ih (n / 10) (by omega) (by omega) cs hd

theorem hexDigitValue?_digitChar : ∀ d : Fin 16, hexDigitValue? (Nat.digitChar d) = some d.val := by
  decide

end Admission.Text
