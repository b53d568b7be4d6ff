import Admission.Proofs.Config.Substitution

/-!
What a placeholder stands for. The three forms are told apart by the first colon with a hyphen
after it, and only where there is none by the first colon with a question mark. There is no colon in
the name of a variable, so a variable alone and one with a default are read as they are written; one
with a message is exactly if no hyphen follows a colon in the message (`fills_placeholders_iff`).
-/

namespace Admission.Placeholder

variable {x y a b : Char} {text l r tail : List Char} {name default message rest : String}

/-! ### Two characters side by side -/

theorem infix_cons_of_not (h : ¬(a = x ∧ b = y)) :
    [x, y] <:+: a :: b :: tail ↔ [x, y] <:+: b :: tail := by
  have hfront : ¬[x, y] <+: a :: b :: tail := by
    simpa [List.cons_prefix_cons, eq_comm] using h
  rw [List.infix_cons_iff, or_iff_right hfront]

theorem not_infix_of_notMem (h : x ∉ l) : ¬[x, y] <:+: l :=
  fun hpair => h (hpair.subset List.mem_cons_self)

theorem infix_append_of_notMem (h : x ∉ l) : [x, y] <:+: l ++ tail ↔ [x, y] <:+: tail := by
  induction l with
  | nil => rfl
  | cons a l ih =>
    obtain ⟨hne, hl⟩ := not_or.1 (mt List.mem_cons.2 h)
    have hfront : ¬[x, y] <+: a :: (l ++ tail) := by
      simp [List.cons_prefix_cons, hne]
    rw [List.cons_append, List.infix_cons_iff, or_iff_right hfront, ih hl]

theorem splitAt?_eq_none_iff : splitAt? x y text = none ↔ ¬[x, y] <:+: text := by
  fun_induction splitAt? x y text with
  | case1 a b rest h =>
    obtain ⟨rfl, rfl⟩ := h
    have hpair : [a, b] <:+: a :: b :: rest := ⟨[], rest, rfl⟩
    simp only [hpair, not_true_eq_false, reduceCtorEq]
  | case2 a b rest h ih => rw [Option.map_eq_none_iff, ih, infix_cons_of_not h]
  | case3 text h =>
    have hshort : ¬[x, y] <:+: text := by
      rintro ⟨s, t, rfl⟩
      rcases s with _ | ⟨a, _ | ⟨b, s⟩⟩ <;> exact h _ _ _ rfl
    simp only [hshort, not_false_eq_true]

/-- A text is split at the first place where the two characters stand side by side. -/
theorem splitAt?_eq_some_iff (hne : x ≠ y) :
    splitAt? x y text = some (l, r) ↔ text = l ++ x :: y :: r ∧ ¬[x, y] <:+: l := by
  fun_induction splitAt? x y text generalizing l with
  | case1 a b rest h =>
    obtain ⟨rfl, rfl⟩ := h
    constructor
    · rintro ⟨⟩
      exact ⟨rfl, by simp⟩
    · rintro ⟨hsplit, hl⟩
      rcases l with _ | ⟨c, _ | ⟨d, l⟩⟩
      · cases hsplit
        rfl
      · cases hsplit
        exact absurd rfl hne
      · cases hsplit
        exact absurd ⟨[], l, rfl⟩ hl
  | case2 a b rest h ih =>
    rw [Option.map_eq_some_iff]
    constructor
    · rintro ⟨⟨l, r⟩, hsome, ⟨⟩⟩
      obtain ⟨hsplit, hl⟩ := ih.1 hsome
      refine ⟨congrArg (a :: ·) hsplit, ?_⟩
      cases l with
      | nil => exact fun hpair => absurd hpair.length_le (by simp)
      | cons c l =>
        obtain ⟨rfl, -⟩ := List.cons.inj hsplit
        rwa [infix_cons_of_not h]
    · rintro ⟨hsplit, hl⟩
      cases l with
      | nil =>
        cases hsplit
        exact absurd ⟨rfl, rfl⟩ h
      | cons c l =>
        obtain ⟨rfl, hrest⟩ := List.cons.inj hsplit
        exact ⟨(l, r), ih.2 ⟨hrest, fun hpair => hl (List.infix_cons_iff.2 (.inr hpair))⟩, rfl⟩
  | case3 text h =>
    constructor
    · rintro ⟨⟩
    · rintro ⟨rfl, -⟩
      rcases l with _ | ⟨a, _ | ⟨b, l⟩⟩ <;> exact absurd rfl (h _ _ _)

/-! ### Texts in which nothing opens -/

theorem not_stands_of_not_opening (h : ¬['$', '\x7b'] <:+: text) (b e r : List Char) :
    ¬Stands text b e r := by
  rintro ⟨rfl, -⟩
  exact h ⟨b, e ++ ['\x7d'] ++ r, by simp [enclosed]⟩

/-- A text without an opening brace after a dollar sign does not begin the placeholder that follows
    it either. -/
theorem length_le_of_not_opening {before after b e r : List Char}
    (h : ¬['$', '\x7b'] <:+: before) (hstands : Stands (before ++ '$' :: after) b e r) :
    before.length ≤ b.length := by
  have hsplit := hstands.split
  rw [List.append_assoc] at hsplit
  rcases List.append_eq_append_iff.1 hsplit with ⟨l, rfl, -⟩ | ⟨l, rfl, hl⟩
  · simp
  · rcases l with _ | ⟨c, _ | ⟨d, l⟩⟩
    · simp
    -- what follows the last dollar sign of the text before is the next dollar sign, not a brace
    · cases hl
    · simp only [enclosed, List.cons_append, List.cons.injEq] at hl
      obtain ⟨rfl, rfl, -⟩ := hl
      exact absurd ⟨b, l, by simp⟩ h

/-! ### The forms of a placeholder -/

/-- What is written between the braces. -/
def body : Placeholder → String
  | plain name => name
  | withDefault name default => name ++ ":-" ++ default
  | required name message => name ++ ":?" ++ message

/-- The placeholder as it is written. -/
def written (p : Placeholder) : String := "$\x7b" ++ p.body ++ "\x7d"

/-- The name of a variable: letters, digits and underscores, at least one. -/
structure VariableName (name : String) : Prop where
  ne_empty : name ≠ ""
  plain : ∀ c ∈ name.toList, c.isAlphanum = true ∨ c = '_'

theorem variableName_of_all (h : name ≠ "")
    (hplain : name.toList.all fun c => c.isAlphanum || c == '_') : VariableName name := by
  refine ⟨h, fun c hc => ?_⟩
  simpa using List.all_eq_true.1 hplain c hc

theorem toList_written (p : Placeholder) : p.written.toList = enclosed p.body.toList := by
  simp [written, enclosed]

theorem VariableName.notMem (h : VariableName name) {c : Char} (hc : c.isAlphanum = false)
    (hne : c ≠ '_') : c ∉ name.toList := by
  intro hmem
  rcases h.plain c hmem with halpha | rfl
  · rw [hc] at halpha
    cases halpha
  · exact hne rfl

theorem VariableName.notMem_colon (h : VariableName name) : ':' ∉ name.toList :=
  h.notMem rfl (by decide)

/-- The forms of a placeholder for a variable. -/
def forms (name rest : String) : List Placeholder :=
  [.plain name, .withDefault name rest, .required name rest]

theorem VariableName.body_of_mem_forms (h : VariableName name) (hrest : '\x7d' ∉ rest.toList)
    {p : Placeholder} (hp : p ∈ forms name rest) :
    p.body.toList ≠ [] ∧ '\x7d' ∉ p.body.toList := by
  have hne : name.toList ≠ [] := mt String.toList_eq_nil_iff.1 h.ne_empty
  have hbrace : '\x7d' ∉ name.toList := h.notMem rfl (by decide)
  simp only [forms, List.mem_cons, List.not_mem_nil, or_false] at hp
  rcases hp with rfl | rfl | rfl <;> simp [body, hne, hbrace, hrest]

theorem ofChars_plain (h : ':' ∉ name.toList) : ofChars name.toList = .plain name := by
  rw [ofChars, splitAt?_eq_none_iff.2 (not_infix_of_notMem h),
    splitAt?_eq_none_iff.2 (not_infix_of_notMem h), String.ofList_toList]

/-- A hyphen after a colon has a default after it, whatever stands before. -/
theorem ofChars_withDefault (h : ¬[':', '-'] <:+: name.toList) :
    ofChars (name ++ ":-" ++ default).toList = .withDefault name default := by
  have hsplit : splitAt? ':' '-' (name ++ ":-" ++ default).toList =
      some (name.toList, default.toList) := by
    rw [splitAt?_eq_some_iff (by decide)]
    exact ⟨by simp, h⟩
  simp only [ofChars, hsplit, String.ofList_toList]

/-- With a message, it is only there that a hyphen can follow a colon. -/
theorem infix_required_iff (h : ':' ∉ name.toList) :
    [':', '-'] <:+: (name ++ ":?" ++ message).toList ↔ [':', '-'] <:+: message.toList := by
  rw [String.toList_append, String.toList_append, List.append_assoc, infix_append_of_notMem h]
  have hmark : ':' ∉ ['?'] := by decide
  exact (infix_cons_of_not (by decide)).trans (infix_append_of_notMem hmark)

theorem ofChars_required (h : ':' ∉ name.toList) (hmessage : ¬[':', '-'] <:+: message.toList) :
    ofChars (name ++ ":?" ++ message).toList = .required name message := by
  have hnone : splitAt? ':' '-' (name ++ ":?" ++ message).toList = none := by
    rwa [splitAt?_eq_none_iff, infix_required_iff h]
  have hsplit : splitAt? ':' '?' (name ++ ":?" ++ message).toList =
      some (name.toList, message.toList) := by
    rw [splitAt?_eq_some_iff (by decide)]
    exact ⟨by simp, not_infix_of_notMem h⟩
  simp only [ofChars, hnone, hsplit, String.ofList_toList]

theorem infix_of_split {l r : String} (h : rest = l ++ ":-" ++ r) :
    [':', '-'] <:+: rest.toList :=
  ⟨l.toList, r.toList, by simp [h]⟩

/-- A text with a hyphen after a colon has a first one. -/
theorem exists_split (h : [':', '-'] <:+: rest.toList) :
    ∃ l r : String, rest = l ++ ":-" ++ r ∧ ¬[':', '-'] <:+: l.toList := by
  cases hsplit : splitAt? ':' '-' rest.toList with
  | none => exact absurd h (splitAt?_eq_none_iff.1 hsplit)
  | some e =>
    obtain ⟨hrest, hfirst⟩ := (splitAt?_eq_some_iff (by decide)).1 hsplit
    exact ⟨.ofList e.1, .ofList e.2, by simp [String.ext_iff, hrest], by simpa using hfirst⟩

end Admission.Placeholder

namespace Admission.Config

open Machine Placeholder

variable {s : Machine} {before after name rest l r : String} {p : Placeholder}

/-! ### A placeholder in a text -/

theorem around_inj {v w : String} (h : before ++ v ++ after = before ++ w ++ after) : v = w := by
  have hlist := congrArg String.toList h
  simpa [String.ext_iff] using hlist

section Filling

variable (hname : VariableName name) (hrest : '\x7d' ∉ rest.toList)
  (hbefore : ¬['$', '\x7b'] <:+: before.toList) (hafter : ¬['$', '\x7b'] <:+: after.toList)

include hname hrest hbefore hafter

/-- A placeholder with nothing like one around it is the only one of the text. -/
theorem fillIn_form (hp : p ∈ forms name rest) :
    fillIn host (before ++ p.written ++ after) s =
      (((ofChars p.body.toList).value s.environment.find?).map (before ++ · ++ after), s) := by
  obtain ⟨hne, hclosed⟩ := hname.body_of_mem_forms hrest hp
  have hsplit : (before ++ p.written ++ after).toList =
      before.toList ++ enclosed p.body.toList ++ after.toList := by
    rw [String.toList_append, String.toList_append, toList_written]
  have hcut : Cut (before ++ p.written ++ after).toList [⟨before.toList, p.body.toList⟩]
      after.toList := by
    refine .more ⟨⟨hsplit, hne, hclosed⟩, ?_⟩ (.last (not_stands_of_not_opening hafter))
    intro b e r hstands
    rw [hsplit, List.append_assoc] at hstands
    exact length_le_of_not_opening hbefore hstands
  rw [fillIn_eq_iff, hcut.pieces_eq, List.flatMap_singleton, fill_pieces_append, fill_map_char,
    Segment.value]
  cases (ofChars p.body.toList).value s.environment.find? with
  | error e => rfl
  | ok v =>
    simp [Except.bind, Except.map, Segment.filled, String.ofList_append, String.append_assoc]

theorem fillIn_plain :
    fillIn host (before ++ (plain name).written ++ after) s =
      ((s.environment.find? name).elim (.error ⟨name, none⟩) fun v => .ok (before ++ v ++ after),
        s) := by
  have hread : ofChars (plain name).body.toList = .plain name := ofChars_plain hname.notMem_colon
  rw [fillIn_form hname hrest hbefore hafter (by simp [forms]), hread, value]
  cases s.environment.find? name <;> rfl

theorem fillIn_withDefault :
    fillIn host (before ++ (withDefault name rest).written ++ after) s =
      (.ok (before ++ (s.environment.find? name).getD rest ++ after), s) := by
  have hread : ofChars (withDefault name rest).body.toList = .withDefault name rest :=
    ofChars_withDefault (not_infix_of_notMem hname.notMem_colon)
  rw [fillIn_form hname hrest hbefore hafter (by simp [forms]), hread]
  rfl

theorem fillIn_required (hmessage : ¬[':', '-'] <:+: rest.toList) :
    fillIn host (before ++ (required name rest).written ++ after) s =
      ((s.environment.find? name).elim (.error ⟨name, some rest⟩) fun v =>
        .ok (before ++ v ++ after), s) := by
  have hread : ofChars (required name rest).body.toList = .required name rest :=
    ofChars_required hname.notMem_colon hmessage
  rw [fillIn_form hname hrest hbefore hafter (by simp [forms]), hread, value]
  cases s.environment.find? name <;> rfl

/-- A message with a hyphen after a colon is split there: what follows is a default, and what comes
    before belongs to the name. -/
theorem fillIn_required_of_split (hmessage : rest = l ++ ":-" ++ r)
    (hl : ¬[':', '-'] <:+: l.toList) :
    fillIn host (before ++ (required name rest).written ++ after) s =
      (.ok (before ++ (s.environment.find? (name ++ ":?" ++ l)).getD r ++ after), s) := by
  have hread : ofChars (required name rest).body.toList = .withDefault (name ++ ":?" ++ l) r := by
    have hfirst : ¬[':', '-'] <:+: (name ++ ":?" ++ l).toList := by
      rwa [infix_required_iff hname.notMem_colon]
    rw [← ofChars_withDefault hfirst, body, hmessage]
    simp only [String.append_assoc]
  rw [fillIn_form hname hrest hbefore hafter (by simp [forms]), hread]
  rfl

end Filling

/-- In a text with no other placeholder the value of a variable is put in; of one that is not set,
    the default, or there is none and it is told of. Where a message is given for that case, this is
    so exactly if no hyphen follows a colon in the message, or else what is put in instead happens
    to be the value. -/
theorem fills_placeholders_iff (hname : VariableName name) (hrest : '\x7d' ∉ rest.toList)
    (hbefore : ¬['$', '\x7b'] <:+: before.toList) (hafter : ¬['$', '\x7b'] <:+: after.toList) :
    let value? := s.environment.find? name
    let filled (p : Placeholder) := fillIn host (before ++ p.written ++ after) s
    filled (.plain name) =
        (value?.elim (.error ⟨name, none⟩) fun v => .ok (before ++ v ++ after), s) ∧
      filled (.withDefault name rest) = (.ok (before ++ value?.getD rest ++ after), s) ∧
      (filled (.required name rest) =
          (value?.elim (.error ⟨name, some rest⟩) fun v => .ok (before ++ v ++ after), s) ↔
        ∀ l r, rest = l ++ ":-" ++ r → ¬[':', '-'] <:+: l.toList →
          value? = some ((s.environment.find? (name ++ ":?" ++ l)).getD r)) ∧
      UnsetVariable.message ⟨name, some rest⟩ =
        "Required environment variable '" ++ name ++ "' is not set" ++ (": " ++ rest) := by
  intro value? filled
  refine ⟨fillIn_plain hname hrest hbefore hafter, fillIn_withDefault hname hrest hbefore hafter,
    ⟨fun h l r hsplit hl => ?_, fun h => ?_⟩, rfl⟩
  · have hread : filled (.required name rest) = _ :=
      fillIn_required_of_split hname hrest hbefore hafter hsplit hl
    have hanswer := congrArg Prod.fst (h.symm.trans hread)
    cases hv : value? with
    | none => simp [hv] at hanswer
    | some v =>
      simp only [hv, Option.elim_some, Except.ok.injEq] at hanswer
      rw [around_inj hanswer]
  · by_cases hmessage : [':', '-'] <:+: rest.toList
    · obtain ⟨l, r, hsplit, hl⟩ := exists_split hmessage
      rw [h l r hsplit hl]
      exact fillIn_required_of_split hname hrest hbefore hafter hsplit hl
    · exact fillIn_required hname hrest hbefore hafter hmessage

/-- A machine on which a period is set, and nothing else. -/
def timed : Machine := .start .empty [("PERIOD", "120")] .epoch

theorem variableName_period : VariableName "PERIOD" :=
  variableName_of_all (by decide) (by decide +kernel)

theorem variableName_limit : VariableName "LIMIT_2" :=
  variableName_of_all (by decide) (by decide +kernel)

theorem not_opening_empty : ¬['$', '\x7b'] <:+: "".toList := by decide +kernel

theorem fills_placeholders_iff_timed :
    fillIn host ("$$" ++ (plain "PERIOD").written ++ "$ \x7b") timed =
        (.ok "$$120$ \x7b", timed) ∧
      fillIn host ("$$" ++ (withDefault "LIMIT_2" "a:?b:-$\x7b").written ++ "$ \x7b") timed =
        (.ok "$$a:?b:-$\x7b$ \x7b", timed) ∧
      fillIn host ("$$" ++ (required "LIMIT_2" "a:?b: -$\x7b").written ++ "$ \x7b") timed =
        (.error ⟨"LIMIT_2", some "a:?b: -$\x7b"⟩, timed) ∧
      fillIn host ("" ++ (required "PERIOD" "seconds:-45").written ++ "") timed ≠
        (.ok "120", timed) := by
  have hempty : '\x7d' ∉ "".toList := by decide
  have hbefore : ¬['$', '\x7b'] <:+: "$$".toList := by decide +kernel
  have hafter : ¬['$', '\x7b'] <:+: "$ \x7b".toList := by decide +kernel
  refine ⟨?_, ?_, ?_, ?_⟩
  · exact (fills_placeholders_iff variableName_period hempty hbefore hafter).1
  · exact (fills_placeholders_iff variableName_limit (by decide +kernel) hbefore hafter).2.1
  · refine (fills_placeholders_iff variableName_limit (by decide +kernel) hbefore hafter).2.2.1.2 ?_
    intro l r h
    exact absurd (infix_of_split h) (by decide +kernel)
  · intro h
    have hvalue := (fills_placeholders_iff variableName_period (by decide +kernel)
      not_opening_empty not_opening_empty).2.2.1.1 h "seconds" "45" rfl (by decide +kernel)
    exact absurd hvalue (by decide +kernel)

/-- A message with a hyphen after a colon keeps an unset variable from being told of. -/
theorem not_fills_placeholders :
    ¬∀ (s : Machine) (before name message after : String), VariableName name →
      '\x7d' ∉ message.toList → ¬['$', '\x7b'] <:+: before.toList →
      ¬['$', '\x7b'] <:+: after.toList →
        fillIn host (before ++ (required name message).written ++ after) s =
          ((s.environment.find? name).elim (.error ⟨name, some message⟩) fun v =>
            .ok (before ++ v ++ after), s) := by
  intro h
  have hmessage : '\x7d' ∉ "seconds:-45".toList := by decide +kernel
  have hsplit : "seconds:-45" = "seconds" ++ ":-" ++ "45" := rfl
  have hclaimed := h timed "" "LIMIT_2" "seconds:-45" "" variableName_limit hmessage
    not_opening_empty not_opening_empty
  rw [fillIn_required_of_split variableName_limit hmessage not_opening_empty not_opening_empty
    hsplit (by decide +kernel)] at hclaimed
  exact absurd (congrArg Prod.fst hclaimed) (by decide +kernel)

end Admission.Config
