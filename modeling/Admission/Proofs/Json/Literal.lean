import Admission.Json.Parser
import Admission.Json.Printer
import Admission.Proofs.Text.Scanner

/-!
String literals and numbers of JSON documents, printed and read again. Every character of a text
comes back as one piece, escaped where the printer escapes it (`pieces?_escapeChar`), so every text
comes back (`literal?_literalChars`), written plainly where nothing is escaped. A whole number comes
back if the text does not go on as a number would (`unsigned?_repr`).
-/

namespace Admission.Json

open Text

variable {rest : List Symbol}

/-! ### Texts -/

/-- The piece that a character is read as after it was printed. -/
def pieceOf (c : Char) : Piece := if escapeChar c = [c] then .plain c else .escaped c

theorem piece?_digitChar {n : Nat} (h : n < 0x20) :
    piece? '0' '0' (Nat.digitChar (n / 16)) (Nat.digitChar (n % 16)) =
      some (.escaped (Char.ofNat n)) := by
  have hhigh := hexDigitValue?_digitChar ⟨n / 16, by omega⟩
  have hlow := hexDigitValue?_digitChar ⟨n % 16, by omega⟩
  have hzero : hexDigitValue? '0' = some 0 := by decide
  have hn : n / 16 * 16 + n % 16 = n := by omega
  have hvalue : hexValue? ['0', '0', Nat.digitChar (n / 16), Nat.digitChar (n % 16)] = some n := by
    simp only [hexValue?, List.foldlM_cons, List.foldlM_nil, hzero, hhigh, hlow]
    simp [hn]
  rw [piece?, hvalue]
  exact congrArg some (if_neg fun h' => by omega)

theorem pieces?_short {e c : Char} (he : e ≠ 'u') (hc : shortEscape? e = some c) :
    pieces? (some '\\' :: some e :: rest) =
      (pieces? rest).map fun r => (.escaped c :: r.1, r.2) := by
  rw [pieces?, hc]
  · cases pieces? rest <;> rfl
  · exact fun _ _ _ _ _ _ => he

theorem pieces?_unicode {a b c d : Char} {p : Piece} (hp : piece? a b c d = some p) :
    pieces? (some '\\' :: some 'u' :: some a :: some b :: some c :: some d :: rest) =
      (pieces? rest).map fun r => (p :: r.1, r.2) := by
  rw [pieces?, hp]
  cases pieces? rest <;> rfl

theorem pieces?_plain {c : Char} (hq : c ≠ '"') (hb : c ≠ '\\') (hn : ¬ c.toNat < 0x20) :
    pieces? (some c :: rest) = (pieces? rest).map fun r => (.plain c :: r.1, r.2) := by
  rw [pieces?, if_neg (by simp [hb, hn])]
  · cases pieces? rest <;> rfl
  · exact hq
  · exact fun _ _ _ _ _ _ => hb
  · exact fun _ _ _ => hb

/-- The three ways in which a character is printed. -/
theorem escapeChar_cases (c : Char) :
    (∃ e, e ≠ 'u' ∧ shortEscape? e = some c ∧ escapeChar c = ['\\', e]) ∨
      (c.toNat < 0x20 ∧ escapeChar c =
        ['\\', 'u', '0', '0', Nat.digitChar (c.toNat / 16), Nat.digitChar (c.toNat % 16)]) ∨
      c ≠ '"' ∧ c ≠ '\\' ∧ ¬ c.toNat < 0x20 ∧ escapeChar c = [c] := by
  by_cases hshort : c ∈ ['"', '\\', '\x08', '\t', '\n', '\x0c', '\r']
  · left
    simp only [List.mem_cons, List.not_mem_nil, or_false] at hshort
    rcases hshort with rfl | rfl | rfl | rfl | rfl | rfl | rfl
    all_goals exact ⟨_, by decide, by decide, rfl⟩
  · right
    simp only [List.mem_cons, List.not_mem_nil, or_false, not_or] at hshort
    by_cases hn : c.toNat < 0x20
    · exact .inl ⟨hn, by simp [escapeChar, hshort, hn]⟩
    · exact .inr ⟨hshort.1, hshort.2.1, hn, by simp [escapeChar, hshort, hn]⟩

theorem pieces?_escapeChar (c : Char) :
    pieces? ((escapeChar c).map some ++ rest) =
      (pieces? rest).map fun r => (pieceOf c :: r.1, r.2) := by
  rcases escapeChar_cases c with ⟨e, he, hc, hesc⟩ | ⟨hn, hesc⟩ | ⟨hq, hb, hn, hesc⟩
  · rw [pieceOf, hesc, if_neg (by simp)]
    exact pieces?_short he hc
  · have hp := piece?_digitChar hn
    rw [Char.ofNat_toNat] at hp
    rw [pieceOf, hesc, if_neg (by simp)]
    exact pieces?_unicode hp
  · rw [pieceOf, hesc, if_pos rfl]
    exact pieces?_plain hq hb hn

theorem pieces?_flatMap_escapeChar (cs : List Char) :
    pieces? ((cs.flatMap escapeChar).map some ++ some '"' :: rest) =
      some (cs.map pieceOf, rest) := by
  induction cs with
  | nil => rw [List.flatMap_nil, List.map_nil, List.nil_append, pieces?, List.map_nil]
  | cons c cs ih =>
    rw [List.flatMap_cons, List.map_append, List.append_assoc, pieces?_escapeChar, ih]
    rfl

theorem join?_map_pieceOf (cs : List Char) : join? (cs.map pieceOf) = some cs := by
  induction cs with
  | nil => rfl
  | cons c cs ih =>
    rw [List.map_cons, pieceOf]
    split <;> rw [join?, ih, Option.map_some]

/-- Whether a text is printed without escapes. -/
def printsPlainly (s : String) : Bool := s.toList.all fun c => escapeChar c == [c]

theorem isPlain_map_pieceOf (s : String) : isPlain (s.toList.map pieceOf) = printsPlainly s := by
  rw [isPlain, printsPlainly, List.all_map]
  refine List.all_congr rfl fun c => ?_
  by_cases h : escapeChar c = [c]
  · simp [pieceOf, h]
  · simp [pieceOf, h]

theorem escapeChar_of_isDigit {c : Char} (h : c.isDigit = true) : escapeChar c = [c] := by
  have hne (d : Char) (hd : d.isDigit = false) : (c == d) = false := by
    refine beq_eq_false_iff_ne.2 ?_
    rintro rfl
    rw [h] at hd
    cases hd
  have hn : ¬ c.toNat < 0x20 := by
    have hlow : 48 ≤ c.toNat := (Char.isDigit_iff_toNat.1 h).1
    omega
  simp [escapeChar, hne, hn]

/-- A text that is printed is read as that text. -/
theorem literal?_literalChars (s : String) :
    literal? ((s.toList.flatMap escapeChar).map some ++ some '"' :: rest) =
      some (some ⟨s, printsPlainly s⟩, rest) := by
  rw [literal?, pieces?_flatMap_escapeChar]
  simp only [bind, Option.bind, pure, join?_map_pieceOf, isPlain_map_pieceOf, Option.map_some,
    String.ofList_toList]

/-! ### Whole numbers -/

/-- Whether a number could go on with this symbol. -/
def continuesNumber (c : Symbol) : Bool :=
  isDigit c || c == some '.' || c == some 'e' || c == some 'E'

theorem digits?_map_some {ds : List Char} (hne : ds ≠ []) (hds : ∀ c ∈ ds, c.isDigit = true)
    (hrest : Stops isDigit rest) : digits? (ds.map some ++ rest) = some (ds, rest) := by
  have hall : ∀ c ∈ ds.map some, isDigit c = true := by
    intro c hc
    obtain ⟨d, hd, rfl⟩ := List.mem_map.1 hc
    exact hds d hd
  have hid : (ds.map some).filterMap id = ds := by simp [List.filterMap_map]
  rw [digits?, takeWhile_append hall hrest, dropWhile_append hall hrest, hid]
  exact if_neg (by simp [hne])

section Ends

variable (h : Stops continuesNumber rest)

include h

theorem stops_isDigit : Stops isDigit rest := by
  intro c hc
  have := h c hc
  simp only [continuesNumber, Bool.or_eq_false_iff] at this
  exact this.1.1.1

theorem fraction?_of_stops : fraction? rest = some ([], rest) := by
  rw [fraction?]
  rintro rest rfl
  cases h _ rfl

theorem exponent?_of_stops : exponent? rest = some ([], rest) := by
  cases rest with
  | nil => rfl
  | cons c rest =>
    have hc := h c rfl
    cases c with
    | none => rfl
    | some c =>
      simp only [continuesNumber, Bool.or_eq_false_iff, beq_eq_false_iff_ne, ne_eq,
        Option.some.injEq] at hc
      exact if_neg (by simp [hc])

end Ends

/-- A whole number that is printed is read as that number, unless it is zero with a sign. -/
theorem unsigned?_repr (h : Stops continuesNumber rest) {negative : Bool} {n : Nat}
    (hn : negative = true → n ≠ 0) :
    unsigned? negative ((Nat.repr n).toList.map some ++ rest) =
      some (.int (if negative then -(n : Int) else n), rest) := by
  have hwhole : ¬ ((Nat.repr n).toList.length > 1 ∧ (Nat.repr n).toList.head? = some '0') := by
    rintro ⟨hlen, hhead⟩
    obtain ⟨ds, hds⟩ := List.head?_eq_some_iff.1 hhead
    by_cases hzero : n = 0
    · rw [hzero] at hlen
      exact absurd hlen (by decide)
    · exact repr_ne_zero_cons hzero ds hds
  have hsigned : ¬ (negative = true ∧ (Nat.repr n).toList = ['0']) :=
    fun hz => repr_ne_zero_cons (hn hz.1) _ hz.2
  rw [unsigned?, digits?_map_some repr_ne_nil (fun _ => isDigit_of_mem_repr) (stops_isDigit h)]
  simp only [bind, Option.bind, pure, if_neg hwhole, fraction?_of_stops h, exponent?_of_stops h]
  rw [if_pos ⟨rfl, rfl, hsigned⟩, decimalValue_repr]

end Admission.Json
