import Admission.Proofs.Json.Literal
import Admission.Proofs.Restoring

/-!
JSON documents, printed and read again. Both printed forms put the texts of the items one after
another, with commas between them and white space at the same places (`joined`), and such a text is
read as the document if the texts of the items are read as the items (`readsAs_arr`, `readsAs_obj`).
So a document that can be printed (`Written`) is read back from either form
(`Written.parse?_compact`, `Written.parse?_pretty`).
-/

namespace Admission.Json

open Text

variable {rest : List Symbol} {brk : List Char}

/-! ### White space -/

/-- The text is white space that a printer puts between items. -/
def IsBreak (brk : List Char) : Prop := ∀ c ∈ brk, c = ' ' ∨ c = '\n'

theorem isBreak_nil : IsBreak [] := nofun

theorem isBreak_lineBreak (level : Nat) : IsBreak (lineBreak level) := by
  intro c hc
  rcases List.mem_cons.1 hc with rfl | hc
  · exact .inr rfl
  · exact .inl (List.eq_of_mem_replicate hc)

theorem isBreak_space : IsBreak [' '] := by
  intro c hc
  exact .inl (List.mem_singleton.1 hc)

theorem skipSpace_break (h : IsBreak brk) (cs : List Symbol) :
    skipSpace (brk.map some ++ cs) = skipSpace cs := by
  refine List.dropWhile_append_of_pos fun c hc => ?_
  obtain ⟨d, hd, rfl⟩ := List.mem_map.1 hc
  rcases h d hd with rfl | rfl <;> rfl

theorem value?_break (h : IsBreak brk) (fuel : Nat) (cs : List Symbol) :
    value? fuel (brk.map some ++ cs) = value? fuel cs := by
  cases fuel with
  | zero => rfl
  | succ fuel => rw [value?, value?, skipSpace_break h]

theorem stops_break (h : IsBreak brk) {c : Char} (hc : continuesNumber (some c) = false) :
    Stops continuesNumber (brk.map some ++ some c :: rest) := by
  cases brk with
  | nil => exact stops_cons hc
  | cons d brk =>
    refine stops_cons ?_
    rcases h d List.mem_cons_self with rfl | rfl <;> rfl

/-! ### Values -/

/-- Wherever the text of a value stands before something that is no part of a number, it is read
    as the value. -/
def ReadsAs (cs : List Char) (j : Json) : Prop :=
  ∀ (fuel : Nat) (rest : List Symbol), cs.length < fuel → Stops continuesNumber rest →
    value? fuel (cs.map some ++ rest) = some (j, rest)

theorem readsAs_null : ReadsAs "null".toList .null := by
  rintro (_ | fuel) rest hfuel -
  · cases hfuel
  · rfl

theorem readsAs_bool (b : Bool) : ReadsAs (if b then "true" else "false").toList (.bool b) := by
  rintro (_ | fuel) rest hfuel -
  · cases hfuel
  · cases b <;> rfl

theorem readsAs_str (s : String) : ReadsAs (literalChars s) (.str s) := by
  rintro (_ | fuel) rest hfuel -
  · cases hfuel
  · have htext : (literalChars s).map some ++ rest =
        some '"' :: ((s.toList.flatMap escapeChar).map some ++ some '"' :: rest) := by
      simp [literalChars]
    have hvalue (cs : List Symbol) : value? (fuel + 1) (some '"' :: cs) =
        (literal? cs).bind fun r => some (r.1.elim .unreadable (.str ·.text), r.2) := rfl
    rw [htext, hvalue, literal?_literalChars]
    rfl

theorem toList_toString (n : Int) :
    (toString n).toList = if n < 0 then '-' :: (Nat.repr n.natAbs).toList
      else (Nat.repr n.natAbs).toList := by
  cases n with
  | ofNat n => rfl
  | negSucc n =>
    rw [if_pos (Int.negSucc_lt_zero n)]
    show ("-" ++ Nat.repr (n + 1)).toList = _
    rw [String.toList_append]
    rfl

/-- What starts with a digit is read as a number without a sign. -/
theorem value?_digit {c : Char} (h : c.isDigit = true) (fuel : Nat) (cs : List Symbol) :
    value? (fuel + 1) (some c :: cs) = unsigned? false (some c :: cs) := by
  have hskip : skipSpace (some c :: cs) = some c :: cs := by
    refine dropWhile_of_stops (stops_cons (Bool.not_eq_true _ ▸ fun hc => ?_))
    simp only [Bool.or_eq_true, beq_iff_eq, Option.some.injEq] at hc
    rcases hc with ((rfl | rfl) | rfl) | rfl <;> cases h
  rw [value?, hskip]
  split
  -- Only the last alternative of the grammar starts with a digit.
  all_goals first | rfl | (rename_i heq; cases heq; cases h)

theorem readsAs_int (n : Int) : ReadsAs (toString n).toList (.int n) := by
  rintro (_ | fuel) rest hfuel hrest
  · cases hfuel
  rw [toList_toString]
  split
  · have hvalue (cs : List Symbol) : value? (fuel + 1) (some '-' :: cs) = unsigned? true cs := rfl
    rw [List.map_cons, List.cons_append, hvalue, unsigned?_repr hrest fun _ => by omega, if_pos rfl]
    congr 3
    omega
  · cases hd : (Nat.repr n.natAbs).toList with
    | nil => exact absurd hd repr_ne_nil
    | cons c cs =>
      have hc : c.isDigit = true := isDigit_of_mem_repr (hd ▸ List.mem_cons_self)
      rw [List.map_cons, List.cons_append, value?_digit hc, ← List.cons_append, ← List.map_cons,
        ← hd, unsigned?_repr hrest (by simp), if_neg Bool.false_ne_true]
      congr 3
      omega

/-! ### Arrays and objects -/

/-- The text of a member, with white space before its value. -/
def memberText (gap : List Char) (name : MemberName) (t : List Char) : List Char :=
  literalChars name.text ++ ':' :: gap ++ t

theorem length_lt_memberText (gap : List Char) (name : MemberName) (t : List Char) :
    t.length + 2 < (memberText gap name t).length := by
  simp only [memberText, literalChars, List.length_append, List.length_cons]
  omega

/-- After white space, a member starts with the quote before its name. -/
theorem skipSpace_memberText (h : IsBreak brk) (gap : List Char) (name : MemberName)
    (t : List Char) (cs : List Symbol) :
    skipSpace (brk.map some ++ ((memberText gap name t).map some ++ cs)) =
      some '"' :: ((name.text.toList.flatMap escapeChar).map some ++
        some '"' :: (some ':' :: (gap.map some ++ (t.map some ++ cs)))) := by
  have htext : (memberText gap name t).map some ++ cs =
      some '"' :: ((name.text.toList.flatMap escapeChar).map some ++
        some '"' :: (some ':' :: (gap.map some ++ (t.map some ++ cs)))) := by
    simp [memberText, literalChars]
  rw [skipSpace_break h, htext]
  rfl

/-- The texts of some items one after another, with white space before each and commas between. -/
def joined (brk : List Char) : List (List Char) → List Char
  | [] => []
  | [t] => brk ++ t
  | t :: ts => brk ++ t ++ ',' :: joined brk ts

section Steps

variable {fuel : Nat} {cs r : List Symbol} {j : Json} (h : value? fuel cs = some (j, r))

include h

theorem items?_last (hr : skipSpace r = some ']' :: rest) :
    items? (fuel + 1) cs = some ([j], rest) := by
  simp only [items?, h, hr, bind, Option.bind]

theorem items?_more (hr : skipSpace r = some ',' :: rest) :
    items? (fuel + 1) cs = (items? fuel rest).map fun r => (j :: r.1, r.2) := by
  simp only [items?, h, hr, bind, Option.bind]

theorem members?_last {name : Option MemberName} {ds es : List Symbol}
    (hs : skipSpace ds = some '"' :: es) (hname : literal? es = some (name, some ':' :: cs))
    (hr : skipSpace r = some '\x7d' :: rest) :
    members? (fuel + 1) ds = some ([(name, j)], rest) := by
  have hcolon : skipSpace (some ':' :: cs) = some ':' :: cs := rfl
  simp only [members?, hs, hname, hcolon, h, hr, bind, Option.bind]

theorem members?_more {name : Option MemberName} {ds es : List Symbol}
    (hs : skipSpace ds = some '"' :: es) (hname : literal? es = some (name, some ':' :: cs))
    (hr : skipSpace r = some ',' :: rest) :
    members? (fuel + 1) ds = (members? fuel rest).map fun r => ((name, j) :: r.1, r.2) := by
  have hcolon : skipSpace (some ':' :: cs) = some ':' :: cs := rfl
  simp only [members?, hs, hname, hcolon, h, hr, bind, Option.bind]

end Steps

/-- No item starts with the bracket that closes the array. -/
theorem items?_bracket {cs r : List Symbol} (h : skipSpace cs = some ']' :: r) :
    ∀ fuel, items? fuel cs = none
  | 0 => rfl
  | 1 => rfl
  | fuel + 2 => by
    have hvalue : value? (fuel + 1) cs = none := by
      simp only [value?, h]
      rfl
    rw [items?, hvalue]
    rfl

theorem members?_brace {cs r : List Symbol} (h : skipSpace cs = some '\x7d' :: r) :
    ∀ fuel, members? fuel cs = none
  | 0 => rfl
  | fuel + 1 => by
    simp only [members?, h]
    rfl

theorem ofMembers_map_some (members : List (MemberName × Json)) :
    ofMembers (members.map fun m => (some m.1, m.2)) = .obj members := by
  have hnames : Restores (fun m : Option MemberName × Json => m.1.map (·, m.2))
      fun m => (some m.1, m.2) := fun _ => rfl
  rw [ofMembers, hnames.mapM]

section Opened

variable {fuel : Nat} {cs r : List Symbol}

theorem value?_emptyArr (h : skipSpace cs = some ']' :: r) :
    value? (fuel + 1) (some '[' :: cs) = some (.arr [], r) := by
  have hopen : skipSpace (some '[' :: cs) = some '[' :: cs := rfl
  simp only [value?, hopen, h]

theorem value?_arr {items : List Json} (h : items? fuel cs = some (items, r)) :
    value? (fuel + 1) (some '[' :: cs) = some (.arr items, r) := by
  have hopen : skipSpace (some '[' :: cs) = some '[' :: cs := rfl
  simp only [value?, hopen]
  split
  · rename_i hclose
    rw [items?_bracket hclose] at h
    cases h
  · rw [h, Option.map_some]

theorem value?_emptyObj (h : skipSpace cs = some '\x7d' :: r) :
    value? (fuel + 1) (some '\x7b' :: cs) = some (.obj [], r) := by
  have hopen : skipSpace (some '\x7b' :: cs) = some '\x7b' :: cs := rfl
  simp only [value?, hopen, h]

theorem value?_obj {members : List (MemberName × Json)}
    (h : members? fuel cs = some (members.map fun m => (some m.1, m.2), r)) :
    value? (fuel + 1) (some '\x7b' :: cs) = some (.obj members, r) := by
  have hopen : skipSpace (some '\x7b' :: cs) = some '\x7b' :: cs := rfl
  simp only [value?, hopen]
  split
  · rename_i hclose
    rw [members?_brace hclose] at h
    cases h
  · rw [h, Option.map_some, ofMembers_map_some]

end Opened

section Joined

variable {brk' gap : List Char} (hbrk : IsBreak brk) (hbrk' : IsBreak brk')
  (chars : Json → List Char)

include hbrk hbrk'

theorem items?_joined {items : List Json} (hne : items ≠ [])
    (h : ∀ j ∈ items, ReadsAs (chars j) j) (fuel : Nat) (rest : List Symbol)
    (hfuel : (joined brk (items.map chars)).length + 1 < fuel) :
    items? fuel ((joined brk (items.map chars)).map some ++ (brk'.map some ++ some ']' :: rest)) =
      some (items, rest) := by
  induction items generalizing fuel with
  | nil => exact absurd rfl hne
  | cons j items ih =>
    have hj := h j List.mem_cons_self
    cases fuel with
    | zero => cases hfuel
    | succ fuel =>
      cases items with
      | nil =>
        simp only [List.map_cons, List.map_nil, joined, List.length_append, List.map_append,
          List.append_assoc] at hfuel ⊢
        refine items?_last (r := brk'.map some ++ some ']' :: rest) ?_ (skipSpace_break hbrk' _)
        rw [value?_break hbrk, hj _ _ (by omega) (stops_break hbrk' rfl)]
      | cons i items =>
        have hrest := ih (by simp) (fun i hi => h i (List.mem_cons_of_mem _ hi)) fuel
        simp only [List.map_cons, joined, List.length_append, List.length_cons, List.map_append,
          List.append_assoc, List.cons_append] at hfuel hrest ⊢
        rw [items?_more (r := some ',' :: _) _ rfl, hrest (by omega)]
        · rfl
        · rw [value?_break hbrk, hj _ _ (by omega) (stops_cons rfl)]

/-- An array is read if its items are. -/
theorem readsAs_arr {items : List Json} (h : ∀ j ∈ items, ReadsAs (chars j) j) :
    ReadsAs ('[' :: joined brk (items.map chars) ++ brk' ++ [']']) (.arr items) := by
  rintro (_ | fuel) rest hfuel -
  · cases hfuel
  have htext : ('[' :: joined brk (items.map chars) ++ brk' ++ [']']).map some ++ rest =
      some '[' ::
        ((joined brk (items.map chars)).map some ++ (brk'.map some ++ some ']' :: rest)) := by
    simp
  rw [htext]
  cases items with
  | nil => exact value?_emptyArr (skipSpace_break hbrk' _)
  | cons j items =>
    simp only [List.length_append, List.length_cons] at hfuel
    exact value?_arr
      (items?_joined hbrk hbrk' chars (List.cons_ne_nil j items) h fuel rest (by omega))

variable (hgap : IsBreak gap)

include hgap

theorem members?_joined {members : List (MemberName × Json)} (hne : members ≠ [])
    (hnames : ∀ m ∈ members, m.1.plain = printsPlainly m.1.text)
    (h : ∀ m ∈ members, ReadsAs (chars m.2) m.2) (fuel : Nat) (rest : List Symbol)
    (hfuel : (joined brk (members.map fun m => memberText gap m.1 (chars m.2))).length + 1 < fuel) :
    members? fuel ((joined brk (members.map fun m => memberText gap m.1 (chars m.2))).map some ++
        (brk'.map some ++ some '\x7d' :: rest)) =
      some (members.map fun m => (some m.1, m.2), rest) := by
  induction members generalizing fuel with
  | nil => exact absurd rfl hne
  | cons m members ih =>
    obtain ⟨name, j⟩ := m
    have hj : ReadsAs (chars j) j := h _ List.mem_cons_self
    have hname : name.plain = printsPlainly name.text := hnames _ List.mem_cons_self
    have hstart (cs : List Symbol) := skipSpace_memberText hbrk gap name (chars j) cs
    have hlit (cs : List Symbol) : literal? ((name.text.toList.flatMap escapeChar).map some ++
        some '"' :: cs) = some (some name, cs) := by
      rw [literal?_literalChars, ← hname]
    have hlen := length_lt_memberText gap name (chars j)
    cases fuel with
    | zero => cases hfuel
    | succ fuel =>
      cases members with
      | nil =>
        simp only [List.map_cons, List.map_nil, joined, List.length_append, List.map_append,
          List.append_assoc] at hfuel ⊢
        refine members?_last (r := brk'.map some ++ some '\x7d' :: rest) ?_ (hstart _) (hlit _)
          (skipSpace_break hbrk' _)
        rw [value?_break hgap, hj _ _ (by omega) (stops_break hbrk' rfl)]
      | cons n members =>
        have hrest := ih (by simp) (fun m hm => hnames m (List.mem_cons_of_mem _ hm))
          (fun m hm => h m (List.mem_cons_of_mem _ hm)) fuel
        simp only [List.map_cons, joined, List.length_append, List.length_cons, List.map_append,
          List.append_assoc, List.cons_append] at hfuel hrest ⊢
        rw [members?_more (r := some ',' :: _) _ (hstart _) (hlit _) rfl, hrest (by omega)]
        · rfl
        · rw [value?_break hgap, hj _ _ (by omega) (stops_cons rfl)]

/-- An object is read if the values of its members are. -/
theorem readsAs_obj {members : List (MemberName × Json)}
    (hnames : ∀ m ∈ members, m.1.plain = printsPlainly m.1.text)
    (h : ∀ m ∈ members, ReadsAs (chars m.2) m.2) :
    ReadsAs ('\x7b' :: joined brk (members.map fun m => memberText gap m.1 (chars m.2)) ++ brk' ++
      ['\x7d']) (.obj members) := by
  rintro (_ | fuel) rest hfuel -
  · cases hfuel
  have htext : ('\x7b' :: joined brk (members.map fun m => memberText gap m.1 (chars m.2)) ++
      brk' ++ ['\x7d']).map some ++ rest = some '\x7b' ::
        ((joined brk (members.map fun m => memberText gap m.1 (chars m.2))).map some ++
          (brk'.map some ++ some '\x7d' :: rest)) := by
    simp
  rw [htext]
  cases members with
  | nil => exact value?_emptyObj (skipSpace_break hbrk' _)
  | cons m members =>
    simp only [List.length_append, List.length_cons] at hfuel
    exact value?_obj (members?_joined hbrk hbrk' chars hgap (List.cons_ne_nil m members) hnames h
      fuel rest (by omega))

end Joined

/-! ### Documents -/

/-- The document has a text: no decimals, nothing unreadable, and names that are said to be written
    plainly just where they are. -/
inductive Written : Json → Prop
  | null : Written .null
  | bool (b : Bool) : Written (.bool b)
  | int (n : Int) : Written (.int n)
  | str (s : String) : Written (.str s)
  | arr {items : List Json} (h : ∀ j ∈ items, Written j) : Written (.arr items)
  | obj {members : List (MemberName × Json)}
      (hnames : ∀ m ∈ members, m.1.plain = printsPlainly m.1.text)
      (h : ∀ m ∈ members, Written m.2) : Written (.obj members)

theorem compactItems_eq (items : List Json) :
    compactItems items = joined [] (items.map compactChars) := by
  induction items with
  | nil => rfl
  | cons j items ih =>
    cases items with
    | nil => rfl
    | cons i items =>
      rw [compactItems, ih]
      · rfl
      · simp

theorem compactMembers_eq (members : List (MemberName × Json)) :
    compactMembers members =
      joined [] (members.map fun m => memberText [] m.1 (compactChars m.2)) := by
  induction members with
  | nil => rfl
  | cons m members ih =>
    cases members with
    | nil => simp [compactMembers, joined, memberText]
    | cons n members =>
      rw [compactMembers, ih]
      · simp [joined, memberText]
      · simp

theorem prettyItems_eq (level : Nat) (items : List Json) :
    prettyItems level items = joined (lineBreak level) (items.map (prettyChars level)) := by
  induction items with
  | nil => rfl
  | cons j items ih =>
    cases items with
    | nil => rfl
    | cons i items =>
      rw [prettyItems, ih]
      · rfl
      · simp

theorem prettyMembers_eq (level : Nat) (members : List (MemberName × Json)) :
    prettyMembers level members = joined (lineBreak level)
      (members.map fun m => memberText [' '] m.1 (prettyChars level m.2)) := by
  induction members with
  | nil => rfl
  | cons m members ih =>
    cases members with
    | nil => simp [prettyMembers, joined, memberText]
    | cons n members =>
      rw [prettyMembers, ih]
      · simp [joined, memberText]
      · simp

namespace Written

variable {j : Json}

theorem readsAs_compact (h : Written j) : ReadsAs (compactChars j) j := by
  induction h with
  | null => exact readsAs_null
  | bool b => exact readsAs_bool b
  | int n => exact readsAs_int n
  | str s => exact readsAs_str s
  | @arr items _ ih =>
    have hread := readsAs_arr isBreak_nil isBreak_nil compactChars ih
    rw [List.append_nil, ← compactItems_eq, ← compactChars] at hread
    exact hread
  | @obj members hnames _ ih =>
    have hread := readsAs_obj isBreak_nil isBreak_nil compactChars isBreak_nil hnames ih
    rw [List.append_nil, ← compactMembers_eq, ← compactChars] at hread
    exact hread

theorem readsAs_pretty (h : Written j) (level : Nat) : ReadsAs (prettyChars level j) j := by
  induction h generalizing level with
  | null => exact readsAs_null
  | bool b => exact readsAs_bool b
  | int n => exact readsAs_int n
  | str s => exact readsAs_str s
  | @arr items _ ih =>
    cases items with
    | nil => exact readsAs_arr isBreak_nil isBreak_nil compactChars (List.forall_mem_nil _)
    | cons i items =>
      rw [prettyChars, prettyItems_eq]
      exact readsAs_arr (isBreak_lineBreak _) (isBreak_lineBreak _) _ fun j hj => ih j hj _
  | @obj members hnames _ ih =>
    cases members with
    | nil =>
      exact readsAs_obj isBreak_nil isBreak_nil compactChars isBreak_nil (List.forall_mem_nil _)
        (List.forall_mem_nil _)
    | cons m members =>
      rw [prettyChars, prettyMembers_eq]
      exact readsAs_obj (isBreak_lineBreak _) (isBreak_lineBreak _) _ isBreak_space hnames
        fun m hm => ih m hm _

end Written

theorem parseSymbols?_map_some {cs : List Char} {j : Json} (h : ReadsAs cs j) :
    parseSymbols? (cs.map some) = some j := by
  have hread := h (cs.length + 1) [] (by omega) stops_nil
  rw [List.append_nil] at hread
  rw [parseSymbols?, List.length_map, hread]
  rfl

/-- A document is read back from its form on one line. -/
theorem Written.parse?_compact {j : Json} (h : Written j) : parse? j.compact = some j := by
  rw [parse?, compact, String.toList_ofList, parseSymbols?_map_some h.readsAs_compact]

/-- A document is read back from its form with one item a line. -/
theorem Written.parse?_pretty {j : Json} (h : Written j) : parse? j.pretty = some j := by
  rw [parse?, pretty, String.toList_ofList, parseSymbols?_map_some (h.readsAs_pretty 0)]

theorem parseContent?_toUTF8 (s : String) : parseContent? s.toUTF8 = parse? s := by
  have hutf8 : String.fromUTF8? s.toUTF8 = some s := dif_pos s.isValidUTF8
  rw [parseContent?, symbols, hutf8, parse?]

end Admission.Json
