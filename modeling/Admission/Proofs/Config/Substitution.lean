import Mathlib.Data.List.Forall2
import Mathlib.Data.List.TakeWhile
import Admission.Config.File
import Admission.Proofs.Machine
import Admission.Proofs.Text.Scanner

/-!
Where the placeholders of a text stand and what the text becomes. A text is cut into its
placeholders, each the first after the one before it, and what lies between them (`Cut`). Filling
it in puts the values between the same texts, or fails with the first placeholder that has none,
and texts are filled in one after another as one, unless a placeholder reaches from the one into
the other (`fillIn_in_one_pass`).
-/

namespace Admission.Placeholder

variable {text before expr after rest last : List Char} {c : Char}

/-- A placeholder as it is written. -/
def enclosed (expr : List Char) : List Char := '$' :: '\x7b' :: (expr ++ ['\x7d'])

/-- A placeholder stands in a text, with something between its braces. -/
structure Stands (text before expr after : List Char) : Prop where
  split : text = before ++ enclosed expr ++ after
  ne_nil : expr ≠ []
  unclosed : '\x7d' ∉ expr

/-- It is the first placeholder of the text. -/
structure StandsFirst (text before expr after : List Char) : Prop
    extends Stands text before expr after where
  first : ∀ b e r, Stands text b e r → before.length ≤ b.length

/-- A placeholder with the text before it. -/
structure Segment where
  before : List Char
  expr : List Char

/-- The placeholders of a text, each the first after the one before it, and what is left after the
    last. -/
inductive Cut : List Char → List Segment → List Char → Prop
  | last {text : List Char} (h : ∀ b e r, ¬Stands text b e r) : Cut text [] text
  | more {text before expr after last : List Char} {segments : List Segment}
      (h : StandsFirst text before expr after) (hcut : Cut after segments last) :
      Cut text (⟨before, expr⟩ :: segments) last

namespace Segment

def written (g : Segment) : List Char := g.before ++ enclosed g.expr

def pieces (g : Segment) : List TextPiece := g.before.map .char ++ [.placeholder g.expr]

/-- What is put in for the placeholder. -/
def value (setting? : String → Option String) (g : Segment) : Except UnsetVariable String :=
  (ofChars g.expr).value setting?

/-- The segment with a value in the place of its placeholder. -/
def filled (g : Segment) (value : String) : List Char := g.before ++ value.toList

end Segment

/-! ### Where placeholders stand -/

theorem Stands.cons (h : Stands text before expr after) :
    Stands (c :: text) (c :: before) expr after :=
  ⟨by rw [h.split]; rfl, h.ne_nil, h.unclosed⟩

theorem Stands.tail {d : Char} (h : Stands (c :: text) (d :: before) expr after) :
    Stands text before expr after :=
  ⟨(List.cons.inj h.split).2, h.ne_nil, h.unclosed⟩

theorem Stands.append (h : Stands text before expr after) (rest : List Char) :
    Stands (text ++ rest) before expr (after ++ rest) :=
  ⟨by rw [h.split, List.append_assoc], h.ne_nil, h.unclosed⟩

/-- A placeholder at the front ends at the first closing brace. -/
theorem atFront?_eq_some_iff :
    atFront? text = some (expr, after) ↔ Stands text [] expr after := by
  constructor
  · intro h
    unfold atFront? at h
    split at h
    · next rest =>
      split at h
      · next c e x r htake hdrop =>
        cases h
        have hsplit := List.takeWhile_append_dropWhile (p := (· != '\x7d')) (l := rest)
        have hbrace : x = '\x7d' := by
          have hhead := List.head?_dropWhile_not (· != '\x7d') rest
          simpa [hdrop] using hhead
        have hclosed : '\x7d' ∉ c :: e := by
          intro hmem
          rw [← htake] at hmem
          simpa using List.mem_takeWhile_imp hmem
        refine ⟨?_, List.cons_ne_nil _ _, hclosed⟩
        rw [← hsplit, htake, hdrop, hbrace]
        simp [enclosed]
      · cases h
    · cases h
  · rintro ⟨rfl, hne, hclosed⟩
    have hpass : ∀ a ∈ expr, (a != '\x7d') = true := by
      intro a ha
      exact bne_iff_ne.2 fun h => hclosed (h ▸ ha)
    have hstops : Text.Stops (· != '\x7d') ('\x7d' :: after) := Text.stops_cons rfl
    obtain ⟨c, e, rfl⟩ := List.exists_cons_of_ne_nil hne
    simp only [enclosed, List.nil_append, List.cons_append, List.append_assoc, atFront?]
    rw [← List.cons_append, Text.takeWhile_append hpass hstops, Text.dropWhile_append hpass hstops]

theorem atFront?_enclosed (hne : expr ≠ []) (hclosed : '\x7d' ∉ expr) (after : List Char) :
    atFront? (enclosed expr ++ after) = some (expr, after) :=
  atFront?_eq_some_iff.2 ⟨rfl, hne, hclosed⟩

theorem not_stands_nil : ¬Stands [] before expr after := by
  intro h
  simpa [enclosed] using h.split

theorem pieces_nil : pieces [] = [] := by
  rw [pieces]
  rfl

theorem pieces_of_atFront? (h : atFront? text = some (expr, after)) :
    pieces text = .placeholder expr :: pieces after := by
  rw [pieces]
  split
  · simp_all
  · simp_all

theorem pieces_cons (h : atFront? (c :: rest) = none) :
    pieces (c :: rest) = .char c :: pieces rest := by
  rw [pieces]
  split
  · simp_all
  · rfl

/-- Before the first placeholder each character is a piece of its own. -/
theorem pieces_append_of_stands
    (h : ∀ b e r, Stands (before ++ rest) b e r → before.length ≤ b.length) :
    pieces (before ++ rest) = before.map .char ++ pieces rest := by
  induction before with
  | nil => rfl
  | cons c before ih =>
    have hnone : atFront? (c :: (before ++ rest)) = none := by
      rw [Option.eq_none_iff_forall_ne_some]
      rintro ⟨e, r⟩ hsome
      exact absurd (h _ _ _ (atFront?_eq_some_iff.1 hsome)) (by simp)
    rw [List.cons_append, pieces_cons hnone, ih, List.map_cons, List.cons_append]
    intro b e r hstands
    exact Nat.le_of_succ_le_succ (h _ _ _ hstands.cons)

theorem pieces_of_forall_not_stands (h : ∀ b e r, ¬Stands text b e r) :
    pieces text = text.map .char := by
  have hpieces : pieces (text ++ []) = text.map .char ++ pieces [] :=
    pieces_append_of_stands fun b e r hstands =>
      absurd (List.append_nil text ▸ hstands) (h b e r)
  rwa [pieces_nil, List.append_nil, List.append_nil] at hpieces

/-- Nothing stands before the first place that a placeholder starts at. -/
theorem length_le_of_stands {n : Nat} (h : ∀ k < n, atFront? (text.drop k) = none)
    (hstands : Stands text before expr after) : n ≤ before.length := by
  obtain ⟨rfl, hne, hclosed⟩ := hstands
  by_contra hlt
  have hnone := h before.length (Nat.lt_of_not_le hlt)
  rw [List.append_assoc, List.drop_left, atFront?_enclosed hne hclosed] at hnone
  cases hnone

theorem not_stands_of_drop (h : ∀ k < text.length, atFront? (text.drop k) = none) :
    ¬Stands text before expr after := by
  intro hstands
  have hle := length_le_of_stands h hstands
  have hlength := congrArg List.length hstands.split
  simp only [enclosed, List.length_append, List.length_cons] at hlength
  omega

/-! ### Texts cut into segments -/

theorem Cut.text_eq {segments : List Segment} (h : Cut text segments last) :
    text = segments.flatMap Segment.written ++ last := by
  induction h with
  | last => rfl
  | more h _ ih =>
    rw [h.split, List.flatMap_cons, List.append_assoc (Segment.written _), ← ih]
    rfl

theorem Cut.pieces_eq {segments : List Segment} (h : Cut text segments last) :
    pieces text = segments.flatMap Segment.pieces ++ last.map .char := by
  induction h with
  | last h => exact pieces_of_forall_not_stands h
  | @more text before expr after last segments h _ ih =>
    obtain ⟨⟨rfl, hne, hclosed⟩, hfirst⟩ := h
    rw [List.append_assoc] at hfirst ⊢
    rw [pieces_append_of_stands hfirst, pieces_of_atFront? (atFront?_enclosed hne hclosed after),
      ih, List.flatMap_cons, Segment.pieces]
    simp

/-- A character that no placeholder starts with goes to the segment after it. -/
theorem Cut.cons {segments : List Segment} (h : Cut rest segments last)
    (hnone : atFront? (c :: rest) = none) :
    ∃ segments last, Cut (c :: rest) segments last := by
  have hfront : ∀ e r, ¬Stands (c :: rest) [] e r := by
    intro e r hstands
    rw [atFront?_eq_some_iff.2 hstands] at hnone
    cases hnone
  -- a placeholder further on stands in the rest already, one place earlier
  cases h with
  | last h =>
    refine ⟨[], _, .last fun b e r hstands => ?_⟩
    cases b with
    | nil => exact hfront e r hstands
    | cons d b => exact h b e r hstands.tail
  | more h hcut =>
    refine ⟨_ :: _, _, .more ⟨h.toStands.cons, fun b e r hstands => ?_⟩ hcut⟩
    cases b with
    | nil => exact absurd hstands (hfront e r)
    | cons d b => exact Nat.succ_le_succ (h.first b e r hstands.tail)

theorem exists_cut (text : List Char) : ∃ segments last, Cut text segments last := by
  induction text using pieces.induct with
  | case1 text expr after hfront ih =>
    obtain ⟨segments, last, hcut⟩ := ih
    exact ⟨_, last, .more ⟨atFront?_eq_some_iff.1 hfront, fun _ _ _ _ => Nat.zero_le _⟩ hcut⟩
  | case2 => exact ⟨[], [], .last fun _ _ _ => not_stands_nil⟩
  | case3 c rest hnone ih =>
    obtain ⟨segments, last, hcut⟩ := ih
    exact hcut.cons hnone

/-! ### What is put in -/

/-- What pieces are written as, one after another. -/
def fill (setting? : String → Option String) (ps : List TextPiece) :
    Except UnsetVariable (List Char) := do
  return (← ps.mapM (pieceText setting?)).flatten

variable {setting? : String → Option String}

theorem substitute_eq (setting? : String → Option String) (text : List Char) :
    substitute setting? text = fill setting? (pieces text) := rfl

theorem fill_append (ps qs : List TextPiece) :
    fill setting? (ps ++ qs) = do return (← fill setting? ps) ++ (← fill setting? qs) := by
  simp only [fill, List.mapM_append, bind_assoc, pure_bind, List.flatten_append]

theorem fill_map_char (text : List Char) : fill setting? (text.map .char) = .ok text := by
  have hpieces : (text.map TextPiece.char).mapM (pieceText setting?) = pure (text.map ([·])) := by
    rw [List.mapM_map]
    exact List.mapM_pure
  rw [fill, hpieces, pure_bind, ← List.flatMap_def, List.flatMap_singleton']
  rfl

theorem fill_pieces_append (g : Segment) (ps : List TextPiece) :
    fill setting? (g.pieces ++ ps) =
      (g.value setting?).bind fun v => (fill setting? ps).map (g.filled v ++ ·) := by
  have hpiece : fill setting? [.placeholder g.expr] = (g.value setting?).map String.toList := by
    rw [fill, List.mapM_cons, List.mapM_nil, pieceText, Segment.value]
    cases (ofChars g.expr).value setting? with
    | error e => rfl
    | ok v => exact congrArg Except.ok (List.append_nil v.toList)
  rw [Segment.pieces, fill_append, fill_append, fill_map_char, hpiece]
  cases g.value setting? with
  | error e => rfl
  | ok v =>
    cases fill setting? ps with
    | error e => rfl
    | ok out => rfl

theorem fill_pieces_append_eq_ok_iff {g : Segment} {ps : List TextPiece} {out : List Char} :
    fill setting? (g.pieces ++ ps) = .ok out ↔
      ∃ v o, g.value setting? = .ok v ∧ fill setting? ps = .ok o ∧ out = g.filled v ++ o := by
  rw [fill_pieces_append]
  cases g.value setting? with
  | error e => simp [Except.bind]
  | ok v => cases fill setting? ps <;> simp [Except.bind, Except.map, eq_comm]

theorem fill_pieces_append_eq_error_iff {g : Segment} {ps : List TextPiece} {e : UnsetVariable} :
    fill setting? (g.pieces ++ ps) = .error e ↔
      g.value setting? = .error e ∨
        (∃ v, g.value setting? = .ok v) ∧ fill setting? ps = .error e := by
  rw [fill_pieces_append]
  cases g.value setting? with
  | error e => simp [Except.bind]
  | ok v => cases fill setting? ps <;> simp [Except.bind, Except.map]

/-- All placeholders have values, and these stand between the texts. -/
theorem fill_eq_ok_iff {segments : List Segment} {out : List Char} :
    fill setting? (segments.flatMap Segment.pieces ++ last.map .char) = .ok out ↔
      ∃ values, List.Forall₂ (fun g v => g.value setting? = .ok v) segments values ∧
        out = (List.zipWith Segment.filled segments values).flatten ++ last := by
  induction segments generalizing out with
  | nil =>
    rw [List.flatMap_nil, List.nil_append, fill_map_char, Except.ok.injEq]
    constructor
    · rintro rfl
      exact ⟨[], .nil, rfl⟩
    · rintro ⟨values, hvalues, rfl⟩
      cases hvalues
      rfl
  | cons g segments ih =>
    rw [List.flatMap_cons, List.append_assoc, fill_pieces_append_eq_ok_iff]
    constructor
    · rintro ⟨v, o, hv, hrest, rfl⟩
      obtain ⟨values, hvalues, rfl⟩ := ih.1 hrest
      refine ⟨v :: values, .cons hv hvalues, ?_⟩
      rw [List.zipWith_cons_cons, List.flatten_cons, List.append_assoc]
    · rintro ⟨_, ⟨⟩ | ⟨hv, hvalues⟩, rfl⟩
      refine ⟨_, _, hv, ih.2 ⟨_, hvalues, rfl⟩, ?_⟩
      rw [List.zipWith_cons_cons, List.flatten_cons, List.append_assoc]

/-- Some placeholder has no value, and the error is that of the first of them. -/
theorem fill_eq_error_iff {segments : List Segment} {e : UnsetVariable} :
    fill setting? (segments.flatMap Segment.pieces ++ last.map .char) = .error e ↔
      ∃ l g r, segments = l ++ g :: r ∧ (∀ d ∈ l, ∃ v, d.value setting? = .ok v) ∧
        g.value setting? = .error e := by
  induction segments with
  | nil =>
    rw [List.flatMap_nil, List.nil_append, fill_map_char]
    constructor
    · rintro ⟨⟩
    · rintro ⟨l, g, r, h, -⟩
      cases l <;> cases h
  | cons g segments ih =>
    rw [List.flatMap_cons, List.append_assoc, fill_pieces_append_eq_error_iff, ih]
    constructor
    · rintro (he | ⟨hv, l, g', r, rfl, hl, he⟩)
      · exact ⟨[], g, segments, rfl, nofun, he⟩
      · exact ⟨g :: l, g', r, rfl, List.forall_mem_cons.2 ⟨hv, hl⟩, he⟩
    · rintro ⟨_ | ⟨d, l⟩, g', r, h, hl, he⟩
      · cases h
        exact .inl he
      · cases h
        obtain ⟨hv, hl⟩ := List.forall_mem_cons.1 hl
        exact .inr ⟨hv, l, g', r, rfl, hl, he⟩

/-! ### Texts one after another -/

/-- No placeholder reaches beyond the end of the text, whatever comes after it: it does not end
    with a dollar sign, and each brace that opens a placeholder is followed by one that closes. -/
structure SelfContained (text : List Char) : Prop where
  getLast?_ne : text.getLast? ≠ some '$'
  closes : ∀ l r, text = l ++ '$' :: '\x7b' :: r → '\x7d' ∈ r

theorem SelfContained.of_append (h : SelfContained (before ++ rest)) : SelfContained rest := by
  constructor
  · intro hlast
    exact h.getLast?_ne (by rw [List.getLast?_append, hlast]; rfl)
  · rintro l r rfl
    exact h.closes (before ++ l) r (List.append_assoc ..).symm

theorem selfContained_concat (text : List Char) : SelfContained (text ++ ['\x7d']) := by
  constructor
  · rw [List.getLast?_concat]
    decide
  · intro l r h
    have hlast : (l ++ '$' :: '\x7b' :: r).getLast? = some '\x7d' := h ▸ List.getLast?_concat
    cases r with
    | nil => simp at hlast
    | cons c r =>
      rw [List.getLast?_append_cons, List.getLast?_cons_cons, List.getLast?_cons_cons] at hlast
      exact List.mem_of_getLast? hlast

/-- What comes after the text makes no placeholder at its front. -/
theorem SelfContained.atFront?_append (h : SelfContained (c :: text))
    (hnone : atFront? (c :: text) = none) (rest : List Char) :
    atFront? (c :: (text ++ rest)) = none := by
  rw [Option.eq_none_iff_forall_ne_some]
  rintro ⟨e, r⟩ hsome
  obtain ⟨hsplit, hne, hclosed⟩ := atFront?_eq_some_iff.1 hsome
  obtain ⟨rfl, hdollar⟩ := List.cons.inj hsplit
  cases text with
  | nil => exact h.getLast?_ne rfl
  | cons d text =>
    obtain ⟨rfl, hbrace⟩ := List.cons.inj hdollar
    obtain ⟨l, r', rfl, hl⟩ := List.eq_append_cons_of_mem (h.closes [] text rfl)
    -- between the braces stands what is before the first closing one, and that is in the text
    cases l with
    | nil =>
      obtain ⟨d, e, rfl⟩ := List.exists_cons_of_ne_nil hne
      exact hclosed ((List.cons.inj hbrace).1 ▸ List.mem_cons_self)
    | cons d l =>
      have hfront : atFront? ('$' :: '\x7b' :: (d :: l ++ '\x7d' :: r')) = some (d :: l, r') := by
        simpa [enclosed] using atFront?_enclosed (List.cons_ne_nil d l) hl r'
      rw [hfront] at hnone
      cases hnone

theorem SelfContained.pieces_append (h : SelfContained text) (rest : List Char) :
    pieces (text ++ rest) = pieces text ++ pieces rest := by
  induction text using pieces.induct with
  | case1 text expr after hfront ih =>
    have hstands := atFront?_eq_some_iff.1 hfront
    have hlonger := atFront?_eq_some_iff.2 (hstands.append rest)
    rw [pieces_of_atFront? hfront, pieces_of_atFront? hlonger, List.cons_append,
      ih (hstands.split ▸ h).of_append]
  | case2 => rw [pieces_nil, List.nil_append, List.nil_append]
  | case3 c text hnone ih =>
    have hrest : SelfContained text := (show SelfContained ([c] ++ text) from h).of_append
    rw [pieces_cons hnone, List.cons_append, pieces_cons (h.atFront?_append hnone rest), ih hrest,
      List.cons_append]

/-! ### Variables of a machine -/

theorem value_congr {f g : String → Option String} {p : Placeholder} (h : f p.name = g p.name) :
    p.value f = p.value g := by
  cases p <;> simp only [name] at h <;> simp only [value, h]

theorem fill_congr {f g : String → Option String} {ps : List TextPiece}
    (h : ∀ e, .placeholder e ∈ ps → f (ofChars e).name = g (ofChars e).name) :
    fill f ps = fill g ps := by
  induction ps with
  | nil => rfl
  | cons p ps ih =>
    have hp : pieceText f p = pieceText g p := by
      cases p with
      | char c => rfl
      | placeholder e => rw [pieceText, pieceText, value_congr (h e List.mem_cons_self)]
    have hfirst : fill f [p] = fill g [p] := by
      rw [fill, fill, List.mapM_cons, List.mapM_cons, hp]
      rfl
    rw [← List.singleton_append, fill_append, fill_append, hfirst,
      ih fun e he => h e (List.mem_cons_of_mem _ he)]

/-- Only the variables that the placeholders ask for matter. -/
theorem substitute_congr {f g : String → Option String} (h : ∀ n ∈ names text, f n = g n) :
    substitute f text = substitute g text :=
  fill_congr fun _ he => h _ (List.mem_filterMap.2 ⟨_, he, rfl⟩)

end Admission.Placeholder

namespace Admission.Config

open Machine Placeholder

theorem run_lookUp (names : List String) (s : Machine) :
    lookUp host names s = (names.map fun name => (name, s.environment.find? name), s) := by
  induction names with
  | nil => rfl
  | cons name names ih =>
    change (_ :: (lookUp host names s).1, (lookUp host names s).2) = _
    rw [ih]
    rfl

/-- A machine fills a text in with the variables of its environment, and stays as it is. -/
theorem run_fillIn (text : String) (s : Machine) :
    fillIn host text s = ((substitute s.environment.find? text.toList).map String.ofList, s) := by
  rw [fillIn, run_bind, run_lookUp, run_pure]
  congr 2
  refine substitute_congr fun name hname => ?_
  rw [List.lookup_graph _ hname, Option.join_some]

theorem fillIn_eq_iff {text : String} {answer : Except UnsetVariable String} {s : Machine} :
    fillIn host text s = (answer, s) ↔
      (fill s.environment.find? (pieces text.toList)).map String.ofList = answer := by
  rw [run_fillIn, substitute_eq]
  exact ⟨congrArg Prod.fst, congrArg (·, s)⟩

theorem fillIn_eq_ok_iff {text out : String} {s : Machine} :
    fillIn host text s = (.ok out, s) ↔
      fill s.environment.find? (pieces text.toList) = .ok out.toList := by
  rw [fillIn_eq_iff]
  cases fill s.environment.find? (pieces text.toList) with
  | error e => simp [Except.map]
  | ok cs => simp [Except.map, String.ext_iff]

theorem fillIn_eq_error_iff {text : String} {e : UnsetVariable} {s : Machine} :
    fillIn host text s = (.error e, s) ↔
      fill s.environment.find? (pieces text.toList) = .error e := by
  rw [fillIn_eq_iff]
  cases fill s.environment.find? (pieces text.toList) <;> simp [Except.map]

/-- Filling a text in keeps what lies between its placeholders, and puts their values between, which
    are not looked at again; or else it fails with the first placeholder that has no value. So a
    text without placeholders stays as it is, and texts are filled in one after another unless a
    placeholder could reach from the first into the second. -/
theorem fillIn_in_one_pass (s : Machine) :
    (∀ text : String, (∃ segments last, Cut text.toList segments last) ∧
      ∀ segments last, Cut text.toList segments last →
        text.toList = segments.flatMap Segment.written ++ last ∧
        (∀ out, fillIn host text s = (.ok out, s) ↔
          ∃ values, List.Forall₂ (fun g v => g.value s.environment.find? = .ok v) segments values ∧
            out.toList = (List.zipWith Segment.filled segments values).flatten ++ last) ∧
        ∀ e, fillIn host text s = (.error e, s) ↔
          ∃ l g r, segments = l ++ g :: r ∧ (∀ d ∈ l, ∃ v, d.value s.environment.find? = .ok v) ∧
            g.value s.environment.find? = .error e) ∧
      (∀ text : String, (∀ before expr after, ¬Stands text.toList before expr after) →
        fillIn host text s = (.ok text, s)) ∧
      ∀ a b : String, SelfContained a.toList →
        fillIn host (a ++ b) s =
          (do return (← (fillIn host a s).1) ++ (← (fillIn host b s).1), s) := by
  refine ⟨fun text => ⟨exists_cut _, fun segments last hcut => ⟨hcut.text_eq, ?_, ?_⟩⟩, ?_, ?_⟩
  · intro out
    rw [fillIn_eq_ok_iff, hcut.pieces_eq, fill_eq_ok_iff]
  · intro e
    rw [fillIn_eq_error_iff, hcut.pieces_eq, fill_eq_error_iff]
  · intro text hnone
    rw [fillIn_eq_ok_iff, pieces_of_forall_not_stands hnone, fill_map_char]
  · intro a b ha
    simp only [run_fillIn, substitute_eq, String.toList_append, ha.pieces_append, fill_append]
    cases fill s.environment.find? (pieces a.toList) with
    | error e => rfl
    | ok x =>
      cases fill s.environment.find? (pieces b.toList) with
      | error e => rfl
      | ok y => exact congrArg (fun out => (Except.ok out, s)) (String.ofList_append)

/-- A machine on which one variable is set, to what looks like a placeholder. -/
def echoing : Machine := .start .empty [("A", "$\x7bB\x7d")] .epoch

/-- What has nothing between its braces or no end is no placeholder, and neither is a value. -/
theorem fillIn_in_one_pass_echoing :
    fillIn host "é$\x7b\x7d$$\x7bA\x7d\x7d$\x7bB:-x:?y\x7d$\x7bC" echoing =
        (.ok "é$\x7b\x7d$$\x7bB\x7d\x7dx:?y$\x7bC", echoing) ∧
      fillIn host "é$\x7b\x7d $\x7bC" echoing = (.ok "é$\x7b\x7d $\x7bC", echoing) ∧
      fillIn host ("$\x7b\x7d$\x7bA\x7d" ++ "$\x7bB:?x\x7d$\x7bC\x7d") echoing =
        (.error ⟨"B", some "x"⟩, echoing) := by
  obtain ⟨hpass, hplain, happend⟩ := fillIn_in_one_pass echoing
  have hlast : Cut "$\x7bC".toList [] "$\x7bC".toList :=
    .last fun b e r => not_stands_of_drop (by decide +kernel)
  have hsecond : Cut "\x7d$\x7bB:-x:?y\x7d$\x7bC".toList
      [⟨"\x7d".toList, "B:-x:?y".toList⟩] "$\x7bC".toList := by
    refine .more ⟨⟨?_, ?_, ?_⟩, fun b e r => length_le_of_stands ?_⟩ hlast
    all_goals decide +kernel
  have hcut : Cut "é$\x7b\x7d$$\x7bA\x7d\x7d$\x7bB:-x:?y\x7d$\x7bC".toList
      [⟨"é$\x7b\x7d$".toList, "A".toList⟩, ⟨"\x7d".toList, "B:-x:?y".toList⟩] "$\x7bC".toList := by
    refine .more ⟨⟨?_, ?_, ?_⟩, fun b e r => length_le_of_stands ?_⟩ hsecond
    all_goals decide +kernel
  refine ⟨(((hpass _).2 _ _ hcut).2.1 _).2 ⟨["$\x7bB\x7d", "x:?y"], .cons ?_ (.cons ?_ .nil), ?_⟩,
    hplain _ fun b e r => not_stands_of_drop ?_, (happend _ _ ?_).trans ?_⟩
  · decide +kernel
  · decide +kernel
  · decide +kernel
  · decide +kernel
  · exact selfContained_concat "$\x7b\x7d$\x7bA".toList
  · exact congrArg (·, echoing) (by decide +kernel)

end Admission.Config
