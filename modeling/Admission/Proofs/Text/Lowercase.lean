import Mathlib.Data.List.Basic
import Admission.Text.Blank
import Admission.Text.Lowercase

/-!
Lower-casing a text forgets the case of its ASCII letters (`lower_eq_of_eqIgnoreAsciiCase`). This
takes the two forms of such a letter to count alike as neighbours of a capital sigma too: the tables
for that hold both or neither.
-/

namespace Admission.Text

/-- A character is a capital ASCII letter, and its small form comes 32 later, or it has no other
    small form. -/
theorem capital_or_toLower_eq (c : Char) :
    (65 ≤ c.toNat ∧ c.toNat ≤ 90 ∧ c.toLower.toNat = c.toNat + 32) ∨ c.toLower = c := by
  by_cases h : c.val ≥ 'A'.val ∧ c.val ≤ 'Z'.val
  · have hle : c.toNat ≤ 90 := h.2
    have hlower : c.toLower.toNat = (c.toNat + 32) % 2 ^ 32 :=
      (congrArg Char.toNat (dif_pos h)).trans (UInt32.toNat_add _ _)
    exact .inl ⟨h.1, hle, by omega⟩
  · exact .inr (dif_neg h)

/-- The ranges hold both forms of an ASCII letter or neither. -/
def Caseless (ranges : List (Nat × Nat)) : Prop :=
  ∀ c : Char, inRanges ranges c.toLower.toNat = inRanges ranges c.toNat

theorem caseless_of_letters {ranges : List (Nat × Nat)}
    (h : ∀ n < 26, inRanges ranges (65 + n + 32) = inRanges ranges (65 + n)) : Caseless ranges := by
  intro c
  rcases capital_or_toLower_eq c with ⟨h₁, h₂, hlower⟩ | hlower
  · have hletter := h (c.toNat - 65) (by omega)
    rwa [Nat.add_sub_cancel' h₁, ← hlower] at hletter
  · rw [hlower]

theorem caseless_caseIgnorableRanges : Caseless caseIgnorableRanges :=
  caseless_of_letters (by decide +kernel)

theorem caseless_casedRanges : Caseless casedRanges := caseless_of_letters (by decide +kernel)

theorem startsCased_map_toLower (cs : List Char) :
    startsCased (cs.map Char.toLower) = startsCased cs := by
  have hskip : (fun c => inRanges caseIgnorableRanges c.toNat) ∘ Char.toLower =
      fun c => inRanges caseIgnorableRanges c.toNat := funext caseless_caseIgnorableRanges
  rw [startsCased, startsCased, List.dropWhile_map, hskip]
  cases cs.dropWhile fun c => inRanges caseIgnorableRanges c.toNat with
  | nil => rfl
  | cons c _ => exact caseless_casedRanges c

theorem toLower_toLower (c : Char) : c.toLower.toLower = c.toLower := by
  rcases capital_or_toLower_eq c with ⟨h₁, h₂, hlower⟩ | hlower
  · rcases capital_or_toLower_eq c.toLower with ⟨-, hle, -⟩ | h
    · omega
    · exact h
  · rw [hlower, hlower]

theorem lowerChar_toLower (c : Char) : lowerChar c.toLower = lowerChar c := by
  rcases capital_or_toLower_eq c with ⟨h₁, h₂, hlower⟩ | hlower
  · have hsmall : c.toLower.toNat < 0x80 := by omega
    have hcapital : c.toNat < 0x80 := by omega
    rw [lowerChar, if_pos hsmall, lowerChar, if_pos hcapital, toLower_toLower]
  · rw [hlower]

theorem toLower_eq_sigma_iff (c : Char) : c.toLower = 'Σ' ↔ c = 'Σ' := by
  rcases capital_or_toLower_eq c with ⟨h₁, h₂, hlower⟩ | hlower
  · constructor
    · intro h
      rw [h, show 'Σ'.toNat = 0x3A3 from rfl] at hlower
      omega
    · rintro rfl
      rfl
  · rw [hlower]

/-- The text may as well have its ASCII letters in lower case already. -/
theorem lowerFrom_map_toLower (before cs : List Char) :
    lowerFrom (before.map Char.toLower) (cs.map Char.toLower) = lowerFrom before cs := by
  induction cs generalizing before with
  | nil => rfl
  | cons c cs ih =>
    have hrest := ih (c :: before)
    rw [List.map_cons] at hrest
    simp only [List.map_cons, lowerFrom, beq_iff_eq, toLower_eq_sigma_iff, startsCased_map_toLower,
      lowerChar_toLower, hrest]

theorem lower_eq_of_eqIgnoreAsciiCase {a b : String} (h : eqIgnoreAsciiCase a b = true) :
    lower a = lower b := by
  have hlower (s : String) : lowerFrom [] (asciiLower s) = lowerFrom [] s.toList :=
    lowerFrom_map_toLower [] s.toList
  rw [lower, lower, ← hlower a, ← hlower b, eq_of_beq h]

end Admission.Text
