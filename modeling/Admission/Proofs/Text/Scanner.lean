import Admission.Proofs.Text.Digits
import Admission.Text.Scanner

/-!
What scanners read off a text that starts with what they are after. A run of characters is read
whole if the text does not go on with such a character (`Stops`), or if the run is as long as it
may be; so a number that is printed with a fixed width is read whatever follows (`number_padded`).
-/

namespace Admission.Text

section Stops

variable {α : Type} {p : α → Bool} {a : α} {l rest : List α}

/-- The list does not start with an element that passes the test. -/
def Stops (p : α → Bool) (l : List α) : Prop := ∀ a ∈ l.head?, p a = false

theorem stops_nil : Stops p [] := nofun

theorem stops_cons (h : p a = false) : Stops p (a :: l) := by
  rintro b ⟨⟩
  exact h

theorem stops_append (h : l ≠ []) (hl : ∀ a ∈ l, p a = false) : Stops p (l ++ rest) := by
  cases l with
  | nil => exact absurd rfl h
  | cons a l => exact stops_cons (hl a List.mem_cons_self)

theorem takeWhile_of_stops (h : Stops p l) : l.takeWhile p = [] := by
  cases l with
  | nil => rfl
  | cons a l => rw [List.takeWhile_cons, h a rfl, if_neg Bool.false_ne_true]

theorem dropWhile_of_stops (h : Stops p l) : l.dropWhile p = l := by
  cases l with
  | nil => rfl
  | cons a l => rw [List.dropWhile_cons, h a rfl, if_neg Bool.false_ne_true]

theorem takeWhile_append (hl : ∀ a ∈ l, p a) (hrest : Stops p rest) :
    (l ++ rest).takeWhile p = l := by
  rw [List.takeWhile_append_of_pos hl, takeWhile_of_stops hrest, List.append_nil]

theorem dropWhile_append (hl : ∀ a ∈ l, p a) (hrest : Stops p rest) :
    (l ++ rest).dropWhile p = rest := by
  rw [List.dropWhile_append_of_pos hl, dropWhile_of_stops hrest]

end Stops

namespace Scanner

variable {α β : Type} {p : Char → Bool} {least most : Nat} {ds rest : List Char}

/-- What is read first leaves the rest to be read. -/
theorem bind_of_eq_some {s : Scanner α} {cs : List Char} {a : α} (h : s cs = some (a, rest))
    (f : α → Scanner β) : (s >>= f) cs = f a rest := by
  show (s cs).bind (fun r => f r.1 r.2) = f a rest
  rw [h, Option.bind_some]

theorem satisfy_cons {c : Char} (h : p c = true) : satisfy p (c :: rest) = some (c, rest) := by
  rw [satisfy, if_pos h]

theorem char_cons (c : Char) (rest : List Char) : char c (c :: rest) = some ((), rest) := by
  rw [char, satisfy_cons (p := (· == c)) (beq_self_eq_true c), Option.map_some]

theorem optional_of_stops (h : Stops p rest) : optional (satisfy p) rest = some (none, rest) := by
  rw [optional]
  cases rest with
  | nil => rfl
  | cons c rest => rw [satisfy, h c rfl, if_neg Bool.false_ne_true]

theorem optional_of_eq_some {s : Scanner α} {cs : List Char} {a : α} (h : s cs = some (a, rest)) :
    optional s cs = some (some a, rest) := by
  rw [optional, h]

section Run

variable (hds : ∀ c ∈ ds, p c) (hleast : least ≤ ds.length)

include hds hleast

theorem run_append_of_stops (hmost : ds.length ≤ most) (hrest : Stops p rest) :
    run p least most (ds ++ rest) = some (ds, rest) := by
  have htake : (ds ++ rest).take most = ds ++ rest.take (most - ds.length) := by
    rw [List.take_append, List.take_of_length_le hmost]
  have hstop : Stops p (rest.take (most - ds.length)) := by
    intro c hc
    rw [List.head?_take] at hc
    split at hc
    · cases hc
    · exact hrest c hc
  rw [run, htake, takeWhile_append hds hstop, if_neg (Nat.not_lt.2 hleast), List.drop_left]

theorem run_append_of_length_eq (hmost : ds.length = most) :
    run p least most (ds ++ rest) = some (ds, rest) := by
  rw [run, ← hmost, List.take_left, ← ds.append_nil, takeWhile_append hds stops_nil,
    List.append_nil, if_neg (Nat.not_lt.2 hleast), List.drop_left]

end Run

/-- A number that is printed with a fixed width is read whatever follows it. -/
theorem number_padded {w n : Nat} (hleast : least ≤ w) (hw : 0 < w) (h : n < 10 ^ w) :
    number least w (padded w n ++ rest) = some (n, rest) := by
  have hlen := length_padded hw h
  rw [number, run_append_of_length_eq (fun _ => isDigit_of_mem_padded) (by omega) hlen,
    Option.map_some, decimalValue_padded]

end Scanner

end Admission.Text
