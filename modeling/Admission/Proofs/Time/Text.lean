import Admission.Proofs.Restoring
import Admission.Proofs.Text.Scanner
import Admission.Proofs.Time.Calendar
import Admission.Time.Text

/-!
The printed form of an instant, read again, is the instant (`restores_text`): in any year that is
representable, to the nanosecond, and inside leap seconds. Each part of the text is read up to the
mark that follows it.
-/

namespace Admission.Instant

open Text Scanner

variable {rest : List Char}

/-! ### The parts of the text -/

theorem blanks_of_stops {cs : List Char} (h : Stops isBlank cs) :
    blanks cs = some ((), cs) := by
  rw [blanks, skipBlanks, dropWhile_of_stops h]

theorem padded_ne_nil {w n : Nat} : padded w n ≠ [] := by
  rw [padded]
  exact List.append_ne_nil_of_right_ne_nil _ repr_ne_nil

theorem stops_padded {p : Char → Bool} (hp : ∀ c : Char, c.isDigit = true → p c = false)
    {w n : Nat} : Stops p (padded w n ++ rest) :=
  stops_append padded_ne_nil fun c hc => hp c (isDigit_of_mem_padded hc)

theorem mark_cons {c : Char} (h : isBlank c = false) : mark c (c :: rest) = some ((), rest) := by
  rw [mark, bind_of_eq_some (blanks_of_stops (stops_cons h)), char_cons]

theorem field_padded {n : Nat} (h : n < 100) : field (padded 2 n ++ rest) = some (n, rest) := by
  rw [field, bind_of_eq_some (blanks_of_stops (stops_padded fun _ => isBlank_of_isDigit)),
    number_padded (by decide) (by decide) h]

theorem stops_yearText (y : Int) : Stops isBlank (yearText y ++ rest) := by
  rw [yearText]
  split
  · exact stops_padded fun _ => isBlank_of_isDigit
  · split
    · exact stops_cons rfl
    · exact stops_cons rfl

theorem not_sign_of_isDigit {c : Char} (h : c.isDigit = true) : (c == '+' || c == '-') = false := by
  rw [Bool.or_eq_false_iff, beq_eq_false_iff_ne, beq_eq_false_iff_ne]
  constructor
  · rintro rfl
    cases h
  · rintro rfl
    cases h

theorem year_signed {sign : Char} (hsign : (sign == '+' || sign == '-') = true) (n : Nat) :
    year (sign :: padded 4 n ++ '-' :: rest) =
      some (if sign == '-' then -(n : Int) else n, '-' :: rest) := by
  have hspan : spanWhile Char.isDigit (padded 4 n ++ '-' :: rest) =
      some (padded 4 n, '-' :: rest) := by
    rw [spanWhile, takeWhile_append (fun _ => isDigit_of_mem_padded) (stops_cons rfl),
      dropWhile_append (fun _ => isDigit_of_mem_padded) (stops_cons rfl)]
  rw [year, List.cons_append,
    bind_of_eq_some (optional_of_eq_some (satisfy_cons (p := fun c => c == '+' || c == '-') hsign))]
  dsimp only
  rw [bind_of_eq_some hspan, if_neg (by simp [padded_ne_nil]), decimalValue_padded]
  rfl

theorem year_yearText (y : Int) : year (yearText y ++ '-' :: rest) = some (y, '-' :: rest) := by
  rw [yearText]
  split
  · have hy : y.toNat < 10 ^ 4 := by omega
    rw [year, bind_of_eq_some (optional_of_stops (stops_padded fun _ => not_sign_of_isDigit))]
    dsimp only
    rw [bind_of_eq_some (number_padded (by decide) (by decide) hy), Int.toNat_of_nonneg (by omega)]
    rfl
  · split
    · rw [year_signed rfl, if_pos (by decide)]
      congr 2
      omega
    · rw [year_signed rfl, if_neg (by decide)]
      congr 2
      omega

/-- A fraction of three, six or nine digits is read as the nanoseconds that it stands for. -/
theorem fraction_digits {w n : Nat} (hw : 0 < w) (hw9 : w ≤ 9) (h : n < 10 ^ w) :
    fraction ('.' :: padded w n ++ 'Z' :: rest) = some (n * 10 ^ (9 - w), 'Z' :: rest) := by
  have hlen := length_padded hw h
  have hrun : run Char.isDigit 1 9 (padded w n ++ 'Z' :: rest) = some (padded w n, 'Z' :: rest) :=
    run_append_of_stops (fun _ => isDigit_of_mem_padded) (by omega) (by omega) (stops_cons rfl)
  have hspan : spanWhile Char.isDigit ('Z' :: rest) = some ([], 'Z' :: rest) := rfl
  rw [fraction, List.cons_append, bind_of_eq_some (a := some '.') rfl, if_pos (by decide),
    bind_of_eq_some (char_cons _ _), bind_of_eq_some hrun, bind_of_eq_some hspan,
    decimalValue_padded, hlen]
  rfl

theorem fraction_fractionText {nano : Nat} (h : nano < 1000000000) :
    fraction (fractionText nano ++ 'Z' :: rest) = some (nano, 'Z' :: rest) := by
  rw [fractionText]
  split
  · rename_i h0
    rw [beq_iff_eq] at h0
    rw [h0]
    rfl
  · split
    · rename_i h6
      rw [beq_iff_eq] at h6
      rw [fraction_digits (by decide) (by decide) (by omega)]
      congr 2
      omega
    · split
      · rename_i h3
        rw [beq_iff_eq] at h3
        rw [fraction_digits (by decide) (by decide) (by omega)]
        congr 2
        omega
      · rw [fraction_digits (by decide) (by decide) (by omega)]
        congr 2
        omega

/-! ### The instant -/

variable (t : Instant)

theorem secondOfDay_bounds : 0 ≤ t.secondOfDay ∧ t.secondOfDay < 86400 := by
  rw [secondOfDay]
  omega

/-- The second that is shown: 60 in a leap second. -/
def shownSecond : Nat :=
  if t.inLeapSecond then t.secondOfDay.toNat % 60 + 1 else t.secondOfDay.toNat % 60

theorem isoChars_eq (zone : List Char) :
    isoChars zone t = yearText t.date.year ++ '-' :: (padded 2 t.date.month ++ '-' ::
      (padded 2 t.date.day ++ 'T' :: (padded 2 (t.secondOfDay.toNat / 3600) ++ ':' ::
        (padded 2 (t.secondOfDay.toNat / 60 % 60) ++ ':' ::
          (padded 2 t.shownSecond ++ (fractionText (t.nano % 1000000000) ++ zone)))))) := by
  simp only [isoChars, shownSecond, List.append_assoc, List.cons_append]

theorem ofParts?_self : ofParts? t.second t.nano = some t :=
  dif_pos ⟨t.first_le, t.le_last, t.nano_lt, t.minute_end⟩

theorem isValid_date : t.date.isValid := Date.isValid_ofDayNumber _

/-- The second that is shown and the nanoseconds tell whether it is a leap second. -/
theorem shownSecond_spec :
    t.shownSecond = t.secondOfDay.toNat % 60 + t.nano / 1000000000 ∧
      (t.shownSecond = 60 ↔ t.nano / 1000000000 = 1) ∧ t.nano / 1000000000 ≤ 1 := by
  have hnano := t.nano_lt
  have hend := t.minute_end
  have hday : t.secondOfDay.toNat % 60 = (t.second % 60).toNat := by
    rw [secondOfDay]
    omega
  rw [shownSecond, inLeapSecond, hday]
  split
  · rename_i h
    have hleap := of_decide_eq_true h
    have := hend hleap
    omega
  · rename_i h
    have hplain : ¬ 1000000000 ≤ t.nano := fun h' => h (decide_eq_true h')
    omega

/-- The parts that are shown make up the instant. -/
theorem ofLocal?_parts :
    ofLocal? t.date (t.secondOfDay.toNat / 3600) (t.secondOfDay.toNat / 60 % 60) t.shownSecond
      (t.nano % 1000000000) 0 = some t := by
  obtain ⟨hlow, hhigh⟩ := t.secondOfDay_bounds
  obtain ⟨hshown, hleap, hle⟩ := t.shownSecond_spec
  have hfirst := t.first_le
  have hlast := t.le_last
  rw [firstSecond] at hfirst
  rw [lastSecond] at hlast
  have hyear := Date.year_ofDayNumber_bounds (n := t.second / 86400) (by omega) (by omega)
  have hnumber : t.date.dayNumber = t.second / 86400 := Date.dayNumber_ofDayNumber _
  have hone : (if t.shownSecond = 60 then 1 else 0) = t.nano / 1000000000 := by
    split <;> omega
  rw [ofLocal?, if_pos ⟨t.isValid_date, hyear.1, hyear.2, by omega, by omega, by omega, by decide,
    by decide⟩, hone, hnumber]
  have hsecond : t.second / 86400 * 86400 + (t.secondOfDay.toNat / 3600 * 3600 +
      t.secondOfDay.toNat / 60 % 60 * 60 + (t.shownSecond - t.nano / 1000000000) : Nat) - 0 =
      t.second := by
    rw [hshown, secondOfDay]
    omega
  have hnano : t.nano % 1000000000 + t.nano / 1000000000 * 1000000000 = t.nano := by omega
  dsimp only
  rw [hsecond, hnano, ofParts?_self]

omit t in
/-- The printed form of an instant is read as the instant. -/
theorem restores_text : Restores ofText? text := by
  intro t
  obtain ⟨hlow, hhigh⟩ := t.secondOfDay_bounds
  obtain ⟨-, hmonth, -, hday⟩ := (Date.isValid_iff _).1 t.isValid_date
  have hdays := Date.daysInMonth_le t.date.year t.date.month
  have hsecond := t.shownSecond_spec
  have hzone : zone ['Z'] = some (0, []) := rfl
  have hread : lenient (isoChars ['Z'] t) = some (t, []) := by
    rw [isoChars_eq, lenient, bind_of_eq_some (blanks_of_stops (stops_yearText _)),
      bind_of_eq_some (year_yearText _), bind_of_eq_some (mark_cons rfl),
      bind_of_eq_some (field_padded (by omega)), bind_of_eq_some (mark_cons rfl),
      bind_of_eq_some (field_padded (by omega)), dateTimeMark, bind_of_eq_some (satisfy_cons rfl),
      bind_of_eq_some (field_padded (by omega)), bind_of_eq_some (mark_cons rfl),
      bind_of_eq_some (field_padded (by omega)), bind_of_eq_some (mark_cons rfl),
      bind_of_eq_some (field_padded (by omega)),
      bind_of_eq_some (fraction_fractionText (Nat.mod_lt _ (by decide))),
      bind_of_eq_some (blanks_of_stops (stops_cons rfl)),
      bind_of_eq_some hzone, bind_of_eq_some (blanks_of_stops stops_nil), ofLocal?_parts]
    rfl
  rw [ofText?, text, String.toList_ofList, readAll?, hread]

end Admission.Instant
