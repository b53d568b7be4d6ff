import Mathlib.Data.List.Basic
import Mathlib.Data.List.Induction
import Admission.Files.Tree
import Admission.Proofs.Files.Path

/-!
What the operations on files do to a tree, said by where a path leads. A path that names a file
leads to a place that does not depend on what stands there (`place?`), and reading, writing and
removing are look-up, update and erasure at that place (`read_eq_ok_iff`, `write_eq_ok_iff`,
`remove_eq_ok_iff`). Directories are only ever added, so a place once found is found again in every
later tree (`KeepsDirectories.place?`). Files whose names differ are out of reach of each other's
paths (`SameFiles`).
-/

namespace Admission

namespace FileTree

variable {t t' : FileTree} {p q : Place} {e : FileEntry} {path : String} {content : ByteArray}

/-- The names that two places end in are the same where the places are. -/
theorem name_eq_of_child_eq {d d' : Place} {n n' : String} (h : d ++ [n] = d' ++ [n']) :
    n = n' := by
  have hlast := congrArg List.getLast? h
  rwa [List.getLast?_concat, List.getLast?_concat, Option.some.injEq] at hlast

/-! ### What stands where -/

theorem entry?_of_above (h : p <+: t.working) : t.entry? p = some .directory := if_pos h

theorem entry?_root : t.entry? [] = some .directory := entry?_of_above List.nil_prefix

/-- What is no directory is not above the working directory. -/
theorem not_above (h : t.entry? p ≠ some .directory) : ¬p <+: t.working :=
  fun hp => h (entry?_of_above hp)

theorem entry?_put_of_ne (h : q ≠ p) : entry? (t.put p e) q = t.entry? q := by
  unfold entry? put
  rw [SortedMap.find?_insert_of_ne _ _ h]

theorem entry?_put_self (h : t.entry? p ≠ some .directory) : entry? (t.put p e) p = some e :=
  (if_neg (not_above h)).trans (SortedMap.find?_insert_self _ _ _)

theorem entry?_erase_of_ne (h : q ≠ p) : entry? (t.erase p) q = t.entry? q := by
  unfold entry? erase
  rw [SortedMap.find?_erase, if_neg h]

theorem entry?_erase_self (h : t.entry? p ≠ some .directory) : entry? (t.erase p) p = none :=
  (if_neg (not_above h)).trans ((SortedMap.find?_erase _ _ _).trans (if_pos rfl))

/-! ### Following steps -/

theorem bind_eq_ok_iff {α β : Type} {x : Except FileError α} {f : α → Except FileError β} {b : β} :
    (x >>= f) = .ok b ↔ ∃ a, x = .ok a ∧ f a = .ok b := by
  cases x with
  | error e => exact ⟨nofun, fun ⟨_, h, _⟩ => nomatch h⟩
  | ok a => simp [bind, Except.bind]

theorem below_eq_ok_iff {n : String} :
    t.below p n = .ok q ↔ t.entry? p = some .directory ∧
      n.utf8ByteSize ≤ Path.maxNameBytes ∧ p ++ [n] = q := by
  rw [below]
  split
  · rename_i he
    simp [he]
  · rename_i he
    simp [he]
  · rename_i he
    split
    · rename_i hn
      simp [he, Nat.not_le.2 hn]
    · rename_i hn
      simp [he, Nat.not_lt.1 hn]

/-- A step can be followed from a directory only. -/
theorem directory_of_follow {s : PathStep} (h : t.follow p s = .ok q) :
    t.entry? p = some .directory := by
  unfold follow at h
  split at h
  all_goals first
    | assumption
    | cases h

theorem follow_here_eq_ok_iff :
    t.follow p .here = .ok q ↔ t.entry? p = some .directory ∧ p = q := by
  constructor
  · intro h
    have hd := directory_of_follow h
    simp only [follow, hd] at h
    exact ⟨hd, Except.ok.inj h⟩
  · rintro ⟨hd, rfl⟩
    simp only [follow, hd]

theorem follow_up_eq_ok_iff :
    t.follow p .up = .ok q ↔ t.entry? p = some .directory ∧ p.dropLast = q := by
  constructor
  · intro h
    have hd := directory_of_follow h
    simp only [follow, hd] at h
    exact ⟨hd, Except.ok.inj h⟩
  · rintro ⟨hd, rfl⟩
    simp only [follow, hd]

theorem follow_name_eq_ok_iff {n : String} :
    t.follow p (.name n) = .ok q ↔ t.below p n = .ok q ∧ (t.entry? q).isSome = true := by
  constructor
  · intro h
    simp only [follow, directory_of_follow h] at h
    obtain ⟨q', hb, h⟩ := bind_eq_ok_iff.1 h
    split at h
    · rename_i hs
      cases h
      exact ⟨hb, hs⟩
    · cases h
  · rintro ⟨hb, hs⟩
    simp only [follow, (below_eq_ok_iff.1 hb).1]
    exact bind_eq_ok_iff.2 ⟨q, hb, if_pos hs⟩

theorem walk_concat_eq_ok_iff {rooted : Bool} {steps : List PathStep} {s : PathStep} :
    t.walk rooted (steps ++ [s]) = .ok q ↔
      ∃ p, t.walk rooted steps = .ok p ∧ t.follow p s = .ok q := by
  rw [walk, List.foldlM_append, bind_eq_ok_iff]
  simp only [List.foldlM_cons, List.foldlM_nil, bind_pure, walk]

/-- A directory at the end of steps. -/
theorem walk_here_eq_ok_iff {rooted : Bool} {steps : List PathStep} :
    t.walk rooted (steps ++ [.here]) = .ok p ↔
      t.walk rooted steps = .ok p ∧ t.entry? p = some .directory := by
  simp only [walk_concat_eq_ok_iff, follow_here_eq_ok_iff]
  constructor
  · rintro ⟨p', hp, hd, rfl⟩
    exact ⟨hp, hd⟩
  · rintro ⟨hp, hd⟩
    exact ⟨p, hp, hd, rfl⟩

/-- A place with directories all the way down to it. -/
def Reached (t : FileTree) (p : Place) : Prop :=
  ∀ d, d <+: p → d ≠ p → t.entry? d = some .directory

theorem Reached.child {n : String} (h : t.Reached p) (hd : t.entry? p = some .directory) :
    t.Reached (p ++ [n]) := by
  intro d hdp hne
  rcases List.prefix_concat_iff.1 hdp with rfl | hdp
  · exact absurd rfl hne
  · by_cases he : d = p
    · rw [he, hd]
    · exact h d hdp he

theorem Reached.parent (h : t.Reached p) :
    t.Reached p.dropLast ∧ t.entry? p.dropLast = some .directory := by
  rcases List.eq_nil_or_concat' p with rfl | ⟨d, n, rfl⟩
  · exact ⟨h, entry?_root⟩
  · rw [List.dropLast_concat]
    have hlonger {d' : Place} (hd' : d' <+: d) : d' ≠ d ++ [n] := fun he => by
      have hlength := hd'.length_le
      rw [he, List.length_append, List.length_singleton] at hlength
      omega
    exact ⟨fun d' hd' _ => h d' (hd'.trans (List.prefix_append _ _)) (hlonger hd'),
      h d (List.prefix_append _ _) (hlonger (List.prefix_refl _))⟩

theorem origin_above (t : FileTree) (rooted : Bool) : t.origin rooted <+: t.working := by
  cases rooted with
  | true => exact List.nil_prefix
  | false => exact List.prefix_refl _

/-- Whatever steps lead to lies below directories only. -/
theorem reached_walk {rooted : Bool} {steps : List PathStep} (h : t.walk rooted steps = .ok p) :
    t.Reached p := by
  induction steps using List.reverseRecOn generalizing p with
  | nil =>
    obtain rfl := Except.ok.inj h
    exact fun d hd _ => entry?_of_above (hd.trans (t.origin_above rooted))
  | append_singleton steps s ih =>
    obtain ⟨p₀, h₀, hs⟩ := walk_concat_eq_ok_iff.1 h
    have hr := ih h₀
    cases s with
    | here =>
      obtain ⟨-, rfl⟩ := follow_here_eq_ok_iff.1 hs
      exact hr
    | up =>
      obtain ⟨-, rfl⟩ := follow_up_eq_ok_iff.1 hs
      exact hr.parent.1
    | name n =>
      obtain ⟨hb, -⟩ := follow_name_eq_ok_iff.1 hs
      obtain ⟨hd, -, rfl⟩ := below_eq_ok_iff.1 hb
      exact hr.child hd

/-! ### Where a path leads -/

/-- The place of the name that a path ends in, whether or not something stands there. A path with a
    slash at its end, or with a step here or up, does not end in a name. -/
def place? (t : FileTree) (path : String) : Option Place :=
  let place : Except FileError Place := do
    let p ← Path.ofText path
    if p.slashed then .error .isDirectory
    else
      let (directory, n) ← t.lastName p
      t.below directory n
  place.toOption

theorem lastName_eq_ok_iff {written : Path} {n : String} :
    t.lastName written = .ok (p, n) ↔ ∃ steps, written.steps = steps ++ [.name n] ∧
      t.walk written.rooted steps = .ok p ∧ t.entry? p = some .directory := by
  rw [lastName]
  constructor
  · intro h
    split at h
    · rename_i m hm
      obtain ⟨steps, hsteps⟩ := List.getLast?_eq_some_iff.1 hm
      obtain ⟨d, hw, h⟩ := bind_eq_ok_iff.1 h
      cases h
      rw [hsteps, List.dropLast_concat, walk_here_eq_ok_iff] at hw
      exact ⟨steps, hsteps, hw⟩
    · obtain ⟨_, -, h⟩ := bind_eq_ok_iff.1 h
      cases h
  · rintro ⟨steps, hsteps, hw⟩
    simp only [hsteps, List.getLast?_concat, List.dropLast_concat]
    exact bind_eq_ok_iff.2 ⟨p, walk_here_eq_ok_iff.2 hw, rfl⟩

theorem place?_eq_some_iff :
    t.place? path = some p ↔ ∃ written, Path.ofText path = .ok written ∧
      written.slashed = false ∧ ∃ d n, t.lastName written = .ok (d, n) ∧ t.below d n = .ok p := by
  have htoOption {x : Except FileError Place} : x.toOption = some p ↔ x = .ok p := by
    cases x <;> simp [Except.toOption]
  simp only [place?, htoOption, bind_eq_ok_iff]
  refine exists_congr fun written => and_congr_right fun _ => ?_
  cases written.slashed <;> simp [bind_eq_ok_iff]

/-- A path leads to the name that it ends in, in some directory. -/
theorem exists_child_of_place? (h : t.place? path = some p) :
    ∃ (d : Place) (n : String), d ++ [n] = p ∧ Path.lastName? path = some n.toList := by
  obtain ⟨written, hpath, -, d, n, hn, hb⟩ := place?_eq_some_iff.1 h
  obtain ⟨steps, hsteps, -⟩ := lastName_eq_ok_iff.1 hn
  have hwritten : written.steps = Path.stepsOf path.toList := by
    unfold Path.ofText at hpath
    repeat' split at hpath
    · cases hpath
    · cases hpath
    · cases hpath
    · rw [← Except.ok.inj hpath]
  exact ⟨d, n, (below_eq_ok_iff.1 hb).2.2, Path.lastName?_of_steps (hwritten ▸ hsteps)⟩

/-- Where something stands at the place, following the path leads there. -/
theorem walk_of_place? {written : Path} (hpath : Path.ofText path = .ok written)
    (h : t.place? path = some p) (hs : (t.entry? p).isSome = true) :
    t.walk written.rooted written.steps = .ok p := by
  obtain ⟨written', hpath', -, d, n, hn, hb⟩ := place?_eq_some_iff.1 h
  obtain rfl := Except.ok.inj (hpath.symm.trans hpath')
  obtain ⟨steps, hsteps, hw, -⟩ := lastName_eq_ok_iff.1 hn
  rw [hsteps, walk_concat_eq_ok_iff]
  exact ⟨d, hw, follow_name_eq_ok_iff.2 ⟨hb, hs⟩⟩

/-- Following a path to anything but a directory, its last step is a name. -/
theorem place?_of_walk {written : Path} (hpath : Path.ofText path = .ok written)
    (hslash : written.slashed = false) (h : t.walk written.rooted written.steps = .ok p)
    (hd : t.entry? p ≠ some .directory) : t.place? path = some p := by
  refine place?_eq_some_iff.2 ⟨written, hpath, hslash, ?_⟩
  rcases List.eq_nil_or_concat' written.steps with hsteps | ⟨steps, s, hsteps⟩
  · rw [hsteps] at h
    obtain rfl := Except.ok.inj h
    exact absurd (entry?_of_above (t.origin_above _)) hd
  · rw [hsteps] at h
    obtain ⟨p₀, h₀, hs⟩ := walk_concat_eq_ok_iff.1 h
    cases s with
    | here =>
      obtain ⟨hd₀, rfl⟩ := follow_here_eq_ok_iff.1 hs
      exact absurd hd₀ hd
    | up =>
      obtain ⟨-, rfl⟩ := follow_up_eq_ok_iff.1 hs
      exact absurd (reached_walk h₀).parent.2 hd
    | name n =>
      obtain ⟨hb, -⟩ := follow_name_eq_ok_iff.1 hs
      exact ⟨p₀, n, lastName_eq_ok_iff.2 ⟨steps, hsteps, h₀, (below_eq_ok_iff.1 hb).1⟩, hb⟩

/-! ### Reading, writing and removing -/

/-- Reading a file is looking it up at its place. -/
theorem read_eq_ok_iff :
    t.read path = .ok content ↔
      ∃ p, t.place? path = some p ∧ t.entry? p = some (.file content) := by
  have hread : t.read path = .ok content ↔
      ∃ p, t.locate path = .ok p ∧ t.entry? p = some (.file content) := by
    rw [read, bind_eq_ok_iff]
    refine exists_congr fun p => and_congr_right fun _ => ?_
    split <;> simp_all
  rw [hread]
  simp only [locate, bind_eq_ok_iff]
  constructor
  · rintro ⟨p, ⟨written, hpath, hw⟩, he⟩
    refine ⟨p, ?_, he⟩
    cases hslash : written.slashed with
    | true =>
      rw [hslash, if_pos rfl] at hw
      have hd := (walk_here_eq_ok_iff.1 hw).2
      rw [he] at hd
      cases hd
    | false =>
      rw [hslash, if_neg Bool.false_ne_true] at hw
      exact place?_of_walk hpath hslash hw (by simp [he])
  · rintro ⟨p, hp, he⟩
    obtain ⟨written, hpath, hslash, -⟩ := place?_eq_some_iff.1 hp
    refine ⟨p, ⟨written, hpath, ?_⟩, he⟩
    rw [hslash, if_neg Bool.false_ne_true]
    exact walk_of_place? hpath hp (by simp [he])

/-- Writing a file is filing it at its place, unless a directory stands there. -/
theorem write_eq_ok_iff :
    t.write path content = .ok t' ↔ ∃ p, t.place? path = some p ∧
      t.entry? p ≠ some .directory ∧ t.put p (.file content) = t' := by
  simp only [write, place?_eq_some_iff, bind_eq_ok_iff]
  constructor
  · rintro ⟨written, hpath, ⟨d, n⟩, hn, h⟩
    dsimp only at h
    split at h
    · cases h
    · rename_i hslash
      obtain ⟨p, hb, h⟩ := bind_eq_ok_iff.1 h
      split at h
      · cases h
      · rename_i hd
        exact ⟨p, ⟨written, hpath, by simpa using hslash, d, n, hn, hb⟩, hd, Except.ok.inj h⟩
  · rintro ⟨p, ⟨written, hpath, hslash, d, n, hn, hb⟩, hd, rfl⟩
    refine ⟨written, hpath, (d, n), hn, ?_⟩
    dsimp only
    rw [hslash, if_neg Bool.false_ne_true]
    refine bind_eq_ok_iff.2 ⟨p, hb, ?_⟩
    split
    · exact absurd ‹_› hd
    · rfl

/-- Removing a file is erasing it at its place. -/
theorem remove_eq_ok_iff :
    t.remove path = .ok t' ↔ ∃ p content, t.place? path = some p ∧
      t.entry? p = some (.file content) ∧ t.erase p = t' := by
  simp only [remove, place?_eq_some_iff, bind_eq_ok_iff]
  constructor
  · rintro ⟨written, hpath, ⟨d, n⟩, hn, p, hb, h⟩
    split at h
    · rename_i content he
      split at h
      · cases h
      · rename_i hslash
        exact ⟨p, content, ⟨written, hpath, by simpa using hslash, d, n, hn, hb⟩, he,
          Except.ok.inj h⟩
    · cases h
    · cases h
  · rintro ⟨p, content, ⟨written, hpath, hslash, d, n, hn, hb⟩, he, rfl⟩
    refine ⟨written, hpath, (d, n), hn, p, hb, ?_⟩
    simp only [he, hslash, Bool.false_eq_true, if_false]

/-- A file that is there can be written. -/
theorem exists_write_of_read {old : ByteArray} (h : t.read path = .ok old) (new : ByteArray) :
    ∃ t', t.write path new = .ok t' := by
  obtain ⟨p, hp, he⟩ := read_eq_ok_iff.1 h
  exact ⟨_, write_eq_ok_iff.2 ⟨p, hp, by simp [he], rfl⟩⟩

theorem read_eq_ok_iff_of_place? (h : t.place? path = some p) :
    t.read path = .ok content ↔ t.entry? p = some (.file content) := by
  rw [read_eq_ok_iff]
  constructor
  · rintro ⟨p', hp', he⟩
    rwa [Option.some.inj (h.symm.trans hp')]
  · exact fun he => ⟨p, h, he⟩

/-! ### Trees that come later -/

/-- The working directory is the same, and every directory of the one tree is one in the other. -/
structure KeepsDirectories (t t' : FileTree) : Prop where
  working : t'.working = t.working
  directory : ∀ p, t.entry? p = some .directory → t'.entry? p = some .directory

theorem KeepsDirectories.refl (t : FileTree) : t.KeepsDirectories t := ⟨rfl, fun _ hd => hd⟩

theorem KeepsDirectories.trans {t'' : FileTree} (h : t.KeepsDirectories t')
    (h' : t'.KeepsDirectories t'') : t.KeepsDirectories t'' :=
  ⟨h'.working.trans h.working, fun p hd => h'.directory p (h.directory p hd)⟩

theorem KeepsDirectories.below (h : t.KeepsDirectories t') {n : String}
    (hb : t.below p n = .ok q) : t'.below p n = .ok q := by
  obtain ⟨hd, hn⟩ := below_eq_ok_iff.1 hb
  exact below_eq_ok_iff.2 ⟨h.directory p hd, hn⟩

/-- Steps to a directory lead there again. -/
theorem KeepsDirectories.walk (h : t.KeepsDirectories t') {rooted : Bool} {steps : List PathStep}
    (hw : t.walk rooted steps = .ok p) (hd : t.entry? p = some .directory) :
    t'.walk rooted steps = .ok p := by
  induction steps using List.reverseRecOn generalizing p with
  | nil =>
    obtain rfl := Except.ok.inj hw
    show Except.ok (t'.origin rooted) = _
    rw [origin, origin, h.working]
  | append_singleton steps s ih =>
    obtain ⟨p₀, h₀, hs⟩ := walk_concat_eq_ok_iff.1 hw
    have hd₀ := directory_of_follow hs
    refine walk_concat_eq_ok_iff.2 ⟨p₀, ih h₀ hd₀, ?_⟩
    have hd₀' := h.directory p₀ hd₀
    cases s with
    | here => exact follow_here_eq_ok_iff.2 ⟨hd₀', (follow_here_eq_ok_iff.1 hs).2⟩
    | up => exact follow_up_eq_ok_iff.2 ⟨hd₀', (follow_up_eq_ok_iff.1 hs).2⟩
    | name n =>
      have hb := (follow_name_eq_ok_iff.1 hs).1
      exact follow_name_eq_ok_iff.2 ⟨h.below hb, by rw [h.directory p hd]; rfl⟩

/-- A path leads to the same place again. -/
theorem KeepsDirectories.place? (h : t.KeepsDirectories t') (hp : t.place? path = some p) :
    t'.place? path = some p := by
  obtain ⟨written, hpath, hslash, d, n, hn, hb⟩ := place?_eq_some_iff.1 hp
  obtain ⟨steps, hsteps, hw, hd⟩ := lastName_eq_ok_iff.1 hn
  have hn' := lastName_eq_ok_iff.2 ⟨steps, hsteps, h.walk hw hd, h.directory d hd⟩
  exact place?_eq_some_iff.2 ⟨written, hpath, hslash, d, n, hn', h.below hb⟩

theorem keepsDirectories_put (he : t.entry? p ≠ some .directory) :
    t.KeepsDirectories (t.put p e) := by
  refine ⟨rfl, fun q hd => ?_⟩
  rwa [entry?_put_of_ne]
  rintro rfl
  exact he hd

theorem keepsDirectories_erase (he : t.entry? p ≠ some .directory) :
    t.KeepsDirectories (t.erase p) := by
  refine ⟨rfl, fun q hd => ?_⟩
  rwa [entry?_erase_of_ne]
  rintro rfl
  exact he hd

theorem keepsDirectories_of_write (h : t.write path content = .ok t') : t.KeepsDirectories t' := by
  obtain ⟨p, -, he, rfl⟩ := write_eq_ok_iff.1 h
  exact keepsDirectories_put he

theorem keepsDirectories_of_remove (h : t.remove path = .ok t') : t.KeepsDirectories t' := by
  obtain ⟨p, content, -, he, rfl⟩ := remove_eq_ok_iff.1 h
  exact keepsDirectories_erase (by simp [he])

/-- Once a file is written, what is read is what was written where the path leads to the same place,
    and what was read before where it does not. -/
theorem read_write_iff {other : String} {new : ByteArray} (h : t.write path new = .ok t')
    (hp : t.place? path = some p) (hq : t.place? other = some q) :
    t'.read other = .ok content ↔
      if q = p then content = new else t.read other = .ok content := by
  have hkeeps := keepsDirectories_of_write h
  obtain ⟨p', hp', he, rfl⟩ := write_eq_ok_iff.1 h
  obtain rfl := Option.some.inj (hp.symm.trans hp')
  rw [read_eq_ok_iff_of_place? (hkeeps.place? hq)]
  split
  · rename_i hqp
    rw [hqp, entry?_put_self he, Option.some.injEq, FileEntry.file.injEq, eq_comm]
  · rename_i hqp
    rw [entry?_put_of_ne hqp, read_eq_ok_iff_of_place? hq]

/-- A file holds what is written to it. -/
theorem read_of_write (h : t.write path content = .ok t') : t'.read path = .ok content := by
  obtain ⟨p, hp, -⟩ := write_eq_ok_iff.1 h
  rw [read_write_iff h hp hp, if_pos rfl]

/-- Once a file is removed, the paths to its place read nothing, and all others what they read. -/
theorem read_remove_iff {other : String} (h : t.remove path = .ok t')
    (hp : t.place? path = some p) (hq : t.place? other = some q) :
    t'.read other = .ok content ↔ q ≠ p ∧ t.read other = .ok content := by
  have hkeeps := keepsDirectories_of_remove h
  obtain ⟨p', old, hp', he, rfl⟩ := remove_eq_ok_iff.1 h
  obtain rfl := Option.some.inj (hp.symm.trans hp')
  rw [read_eq_ok_iff_of_place? (hkeeps.place? hq), read_eq_ok_iff_of_place? hq]
  by_cases hqp : q = p
  · simp [hqp, entry?_erase_self (t := t) (p := p) (by simp [he])]
  · simp [hqp, entry?_erase_of_ne hqp]

/-- A file is removed if there is one that can be. -/
def Clears (t : FileTree) (path : String) (t' : FileTree) : Prop :=
  t.remove path = .ok t' ∨ t' = t ∧ ∀ files, t.remove path ≠ .ok files

theorem Clears.keepsDirectories (h : t.Clears path t') : t.KeepsDirectories t' := by
  rcases h with h | ⟨rfl, -⟩
  · exact keepsDirectories_of_remove h
  · exact .refl _

/-- What cannot be removed is no file, so no path to it reads anything before either. -/
theorem Clears.read_iff {other : String} (h : t.Clears path t') (hp : t.place? path = some p)
    (hq : t.place? other = some q) :
    t'.read other = .ok content ↔ q ≠ p ∧ t.read other = .ok content := by
  rcases h with h | ⟨rfl, hnot⟩
  · exact read_remove_iff h hp hq
  · refine ⟨fun hr => ⟨?_, hr⟩, And.right⟩
    rintro rfl
    exact hnot _ (remove_eq_ok_iff.2 ⟨q, content, hp, (read_eq_ok_iff_of_place? hq).1 hr, rfl⟩)

/-! ### Making directories -/

/-- The one tree is the other with some directories more. -/
structure Extends (t t' : FileTree) : Prop where
  working : t'.working = t.working
  entry : ∀ p, t'.entry? p = t.entry? p ∨ t.entry? p = none ∧ t'.entry? p = some .directory

theorem Extends.refl (t : FileTree) : t.Extends t := ⟨rfl, fun _ => .inl rfl⟩

theorem Extends.trans {t'' : FileTree} (h : t.Extends t') (h' : t'.Extends t'') :
    t.Extends t'' := by
  refine ⟨h'.working.trans h.working, fun p => ?_⟩
  rcases h.entry p with hp | ⟨hp, hd⟩ <;> rcases h'.entry p with hp' | ⟨hp', hd'⟩
  · exact .inl (hp'.trans hp)
  · exact .inr ⟨hp.symm.trans hp', hd'⟩
  · exact .inr ⟨hp, hp'.trans hd⟩
  · exact .inr ⟨hp, hd'⟩

theorem Extends.keepsDirectories (h : t.Extends t') : t.KeepsDirectories t' := by
  refine ⟨h.working, fun p hd => ?_⟩
  rcases h.entry p with hp | ⟨hp, -⟩
  · rw [hp, hd]
  · rw [hp] at hd
    cases hd

theorem Extends.file_iff (h : t.Extends t') :
    t'.entry? p = some (.file content) ↔ t.entry? p = some (.file content) := by
  rcases h.entry p with hp | ⟨hp, hd⟩
  · rw [hp]
  · simp [hp, hd]

theorem extends_put_directory (h : t.entry? p = none) : t.Extends (t.put p .directory) := by
  refine ⟨rfl, fun q => ?_⟩
  by_cases hqp : q = p
  · subst hqp
    exact .inr ⟨h, entry?_put_self (by simp [h])⟩
  · exact .inl (entry?_put_of_ne hqp)

theorem extends_makeDirectory {rooted : Bool} {steps : List PathStep}
    (h : t.makeDirectory rooted steps = .ok t') : t.Extends t' := by
  obtain ⟨parent, -, h⟩ := bind_eq_ok_iff.1 h
  split at h
  · obtain ⟨p, -, h⟩ := bind_eq_ok_iff.1 h
    split at h
    · cases h
    · rename_i hs
      cases h
      exact extends_put_directory (by simpa using hs)
  · obtain ⟨_, -, h⟩ := bind_eq_ok_iff.1 h
    cases h

theorem extends_ensureDirectory (t : FileTree) (rooted : Bool) (steps : List PathStep) :
    t.Extends (t.ensureDirectory rooted steps).1 := by
  rw [ensureDirectory]
  split
  · exact extends_makeDirectory ‹_›
  · exact .refl t

theorem extends_createFrom (t : FileTree) (rooted : Bool) (steps : List PathStep) :
    t.Extends (t.createFrom rooted steps).1 := by
  fun_induction createFrom t rooted steps with
  | case1 => exact .refl _
  | case2 _ _ _ made hmissing hparent ih =>
    simp only [hmissing, hparent] at ih ⊢
    exact ih.trans (extends_ensureDirectory made _ _)
  | case3 _ _ _ hmissing hparent ih =>
    simp only [hmissing]
    exact ih
  | case4 _ _ hfirst =>
    have hext := extends_ensureDirectory t rooted
    split
    · exact absurd ‹_› (hfirst _)
    · exact hext _

/-- Making directories takes nothing away and makes nothing else. -/
theorem extends_createDirectories (t : FileTree) (path : String) :
    t.Extends (t.createDirectories path).1 := by
  rw [createDirectories]
  split
  · exact .refl t
  · split
    · exact .refl t
    · exact extends_createFrom t _ _

/-! ### Files of one name -/

/-- The files of a name are the same in both trees. -/
def SameFiles (t t' : FileTree) (n : String) : Prop :=
  ∀ (d : Place) (content : ByteArray),
    t'.entry? (d ++ [n]) = some (.file content) ↔ t.entry? (d ++ [n]) = some (.file content)

variable {n : String}

theorem SameFiles.refl (t : FileTree) (n : String) : t.SameFiles t n := fun _ _ => Iff.rfl

theorem SameFiles.trans {t'' : FileTree} (h : t.SameFiles t' n) (h' : t'.SameFiles t'' n) :
    t.SameFiles t'' n :=
  fun d content => (h' d content).trans (h d content)

theorem Extends.sameFiles (h : t.Extends t') (n : String) : t.SameFiles t' n :=
  fun _ _ => h.file_iff

/-- A path does not lead to a name that it does not end in. -/
theorem child_ne_of_place? (h : t.place? path = some p)
    (hn : Path.lastName? path ≠ some n.toList) (d : Place) : d ++ [n] ≠ p := by
  obtain ⟨d', n', rfl, hn'⟩ := exists_child_of_place? h
  intro he
  rw [hn', name_eq_of_child_eq he] at hn
  exact hn rfl

theorem sameFiles_of_write (h : t.write path content = .ok t')
    (hn : Path.lastName? path ≠ some n.toList) : t.SameFiles t' n := by
  obtain ⟨p, hp, -, rfl⟩ := write_eq_ok_iff.1 h
  intro d _
  rw [entry?_put_of_ne (child_ne_of_place? hp hn d)]

theorem sameFiles_of_remove (h : t.remove path = .ok t')
    (hn : Path.lastName? path ≠ some n.toList) : t.SameFiles t' n := by
  obtain ⟨p, _, hp, -, rfl⟩ := remove_eq_ok_iff.1 h
  intro d _
  rw [entry?_erase_of_ne (child_ne_of_place? hp hn d)]

theorem Clears.sameFiles (h : t.Clears path t') (hn : Path.lastName? path ≠ some n.toList) :
    t.SameFiles t' n := by
  rcases h with h | ⟨rfl, -⟩
  · exact sameFiles_of_remove h hn
  · exact .refl _ _

/-- A path that ends in the name reads what it read. -/
theorem SameFiles.read (h : t.SameFiles t' n) (hk : t.KeepsDirectories t')
    (hn : Path.lastName? path = some n.toList) (hr : t.read path = .ok content) :
    t'.read path = .ok content := by
  obtain ⟨p, hp, he⟩ := read_eq_ok_iff.1 hr
  obtain ⟨d, n', rfl, hn'⟩ := exists_child_of_place? hp
  obtain rfl : n' = n := String.toList_inj.1 (Option.some.inj (hn'.symm.trans hn))
  exact read_eq_ok_iff.2 ⟨_, hk.place? hp, (h d content).2 he⟩

end FileTree

end Admission
