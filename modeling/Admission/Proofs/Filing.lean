import Admission.SortedMap

/-!
Maps that file each value under its own key. What a list of values leaves when they are put in one
after another can be read off the list (`find?_foldl_insert`): the last one of each key stays.
Values picked out of such a map and filed anew give the map cut down to them
(`ofValues_filter_values`).
-/

namespace Admission.SortedMap

variable {κ ν : Type} [Ord κ]

/-- Every value stands under its own key. -/
def Filed (m : SortedMap κ ν) (key : ν → κ) : Prop := ∀ e ∈ m.entries, key e.2 = e.1

instance [DecidableEq κ] (m : SortedMap κ ν) (key : ν → κ) : Decidable (m.Filed key) :=
  inferInstanceAs (Decidable (∀ e ∈ m.entries, key e.2 = e.1))

theorem values_filter (m : SortedMap κ ν) (p : ν → Bool) :
    (m.filter fun _ v => p v).values = m.values.filter p := by
  simp [values, filter, List.filter_map, Function.comp_def]

theorem contains_iff {m : SortedMap κ ν} {k : κ} :
    m.contains k = true ↔ ∃ v, m.find? k = some v := by
  rw [contains, Option.isSome_iff_exists]

theorem filed_empty {key : ν → κ} : (empty : SortedMap κ ν).Filed key := by
  intro e he
  cases he

theorem Filed.map_key_values {key : ν → κ} {m : SortedMap κ ν} (h : m.Filed key) :
    m.values.map key = m.keys := by
  rw [values, keys, List.map_map]
  exact List.map_congr_left h

theorem pairwise_keys (m : SortedMap κ ν) : m.keys.Pairwise fun a b => compare a b = .lt :=
  List.pairwise_map.2 m.sorted

/-- The map with each value made into another. -/
def mapValues (m : SortedMap κ ν) (f : ν → ν) : SortedMap κ ν :=
  ⟨m.entries.map fun e => (e.1, f e.2), List.pairwise_map.2 m.sorted⟩

theorem find?_mapValues (m : SortedMap κ ν) (f : ν → ν) (k : κ) :
    (m.mapValues f).find? k = (m.find? k).map f := by
  show lookup k (m.entries.map fun e => (e.1, f e.2)) = (lookup k m.entries).map f
  induction m.entries with
  | nil => rfl
  | cons e rest ih =>
    rw [List.map_cons, lookup, lookup, ih]
    split <;> rfl

section Laws

variable [Std.LawfulEqOrd κ] {key : ν → κ} {m : SortedMap κ ν} {k : κ} {v : ν}

theorem Filed.key_eq (h : m.Filed key) (hv : m.find? k = some v) : key v = k :=
  h (k, v) (find?_eq_some_iff.1 hv)

theorem filed_iff : m.Filed key ↔ ∀ k v, m.find? k = some v → key v = k := by
  constructor
  · intro h k v hv
    exact h.key_eq hv
  · rintro h ⟨k, v⟩ he
    exact h k v (find?_eq_some_iff.2 he)

/-- What is filed under a key is found by that key. -/
theorem Filed.mem_values_iff (h : m.Filed key) : v ∈ m.values ↔ m.find? (key v) = some v := by
  rw [SortedMap.mem_values_iff]
  constructor
  · rintro ⟨k, hk⟩
    rw [h.key_eq hk, hk]
  · intro hv
    exact ⟨_, hv⟩

theorem Filed.eq_of_key_eq (h : m.Filed key) {w : ν} (hv : v ∈ m.values) (hw : w ∈ m.values)
    (hk : key v = key w) : v = w := by
  rw [h.mem_values_iff] at hv hw
  rw [hk, hw] at hv
  exact (Option.some.inj hv).symm

theorem contains_erase [DecidableEq κ] {k' : κ} :
    (m.erase k).contains k' = true ↔ k' ≠ k ∧ m.contains k' = true := by
  rw [contains, find?_erase]
  split <;> simp_all [contains]

theorem mem_keys_iff : k ∈ m.keys ↔ m.contains k = true := by
  rw [contains_iff]
  simp [keys, find?_eq_some_iff]

/-- An entry of a new key comes in among the others. -/
theorem perm_insertEntry {l : List (κ × ν)} (h : ∀ e ∈ l, e.1 ≠ k) :
    (insertEntry k v l).Perm ((k, v) :: l) := by
  induction l with
  | nil => exact .refl _
  | cons e rest ih =>
    obtain ⟨k', v'⟩ := e
    rw [insertEntry]
    split
    · exact .refl _
    · rename_i heq
      exact absurd (Std.LawfulEqCmp.compare_eq_iff_eq.1 heq).symm (h _ List.mem_cons_self)
    · have hrest := ih fun e he => h e (List.mem_cons_of_mem _ he)
      exact (hrest.cons _).trans (.swap _ _ _)

variable [Std.TransOrd κ]

theorem ofValues_eq_foldl (key : ν → κ) (l : List ν) :
    ofValues key l = l.foldl (fun m v => m.insert (key v) v) empty := by
  rw [ofValues, ofList, List.foldl_map]

/-- Where each look-up answers what has become of the value, so do all values, in the same order. -/
theorem values_eq_map {m' : SortedMap κ ν} {f : ν → ν}
    (h : ∀ k, m'.find? k = (m.find? k).map f) : m'.values = m.values.map f := by
  have hm : m' = m.mapValues f := ext_find? fun k => (h k).trans (m.find?_mapValues f k).symm
  rw [hm, values, mapValues, values, List.map_map, List.map_map]
  rfl

theorem perm_foldl_insert {l : List (κ × ν)} {m : SortedMap κ ν}
    (h : ((m.entries ++ l).map (·.1)).Nodup) :
    (l.foldl (fun m e => m.insert e.1 e.2) m).entries.Perm (m.entries ++ l) := by
  induction l generalizing m with
  | nil => rw [List.foldl_nil, List.append_nil]
  | cons e l ih =>
    have hnew : ∀ e' ∈ m.entries, e'.1 ≠ e.1 := by
      intro e' he' hk
      rw [List.map_append, List.nodup_append] at h
      exact h.2.2 _ (List.mem_map_of_mem he') _ (List.mem_map_of_mem List.mem_cons_self) hk
    have hput : (m.insert e.1 e.2).entries.Perm (e :: m.entries) := perm_insertEntry hnew
    have hall : ((m.insert e.1 e.2).entries ++ l).Perm (m.entries ++ e :: l) :=
      (hput.append_right l).trans List.perm_middle.symm
    exact (ih ((hall.map _).nodup_iff.2 h)).trans hall

/-- Where no key comes twice, a map has just the entries of the list it is made of. -/
theorem perm_ofList {l : List (κ × ν)} (h : (l.map (·.1)).Nodup) :
    (ofList l).entries.Perm l :=
  perm_foldl_insert h

/-- The entries of a map, put in one after another, make up the map. -/
theorem ofList_entries (m : SortedMap κ ν) : ofList m.entries = m := by
  have hnodup : (m.entries.map (·.1)).Nodup :=
    m.pairwise_keys.imp fun hlt heq => by simp [heq] at hlt
  refine ext_find? fun k => Option.ext fun v => ?_
  rw [find?_eq_some_iff, find?_eq_some_iff, (perm_ofList hnodup).mem_iff]

variable [DecidableEq κ]

theorem contains_insert {k' : κ} :
    (m.insert k v).contains k' = true ↔ k' = k ∨ m.contains k' = true := by
  rw [contains, find?_insert]
  split <;> simp_all [contains]

/-- Of two values put in under one key the second stays. -/
theorem insert_insert (m : SortedMap κ ν) (k : κ) (v w : ν) :
    (m.insert k v).insert k w = m.insert k w := by
  refine ext_find? fun k' => ?_
  simp only [find?_insert]
  split <;> rfl

/-- Putting in what is there already changes nothing. -/
theorem insert_eq_self (h : m.find? k = some v) : m.insert k v = m := by
  refine ext_find? fun k' => ?_
  rw [find?_insert]
  split
  · rename_i hk
    rw [hk, h]
  · rfl

/-- What was not there before is gone once it is taken out again. -/
theorem erase_insert (h : m.contains k = false) : (m.insert k v).erase k = m := by
  refine ext_find? fun k' => ?_
  rw [find?_erase, find?_insert]
  by_cases hk : k' = k
  · rw [if_pos hk, hk]
    exact (Option.isNone_iff_eq_none.1 (by simpa [contains] using h)).symm
  · rw [if_neg hk, if_neg hk]

theorem Filed.insert_of_eq (h : m.Filed key) (hv : key v = k) : (m.insert k v).Filed key := by
  rw [filed_iff] at h ⊢
  intro k' w hw
  rw [find?_insert] at hw
  split at hw
  · cases hw
    rw [hv]
    exact Eq.symm ‹_›
  · exact h k' w hw

theorem Filed.insert (h : m.Filed key) (v : ν) : (m.insert (key v) v).Filed key :=
  h.insert_of_eq rfl

theorem Filed.foldl_insert (l : List ν) :
    ∀ {m : SortedMap κ ν}, m.Filed key → (l.foldl (fun m v => m.insert (key v) v) m).Filed key := by
  induction l with
  | nil => intro m h; exact h
  | cons v l ih => intro m h; exact ih (h.insert v)

theorem filed_ofValues (key : ν → κ) (l : List ν) : (ofValues key l).Filed key := by
  rw [ofValues_eq_foldl]
  exact Filed.foldl_insert l filed_empty

/-- After a value is filed, there are that value and those filed under other keys. -/
theorem Filed.mem_values_insert (h : m.Filed key) (hv : key v = k) {w : ν} :
    w ∈ (m.insert k v).values ↔ w = v ∨ w ∈ m.values ∧ key w ≠ k := by
  rw [(h.insert_of_eq hv).mem_values_iff, h.mem_values_iff, find?_insert]
  split
  · rename_i hk
    constructor
    · intro hw
      exact .inl (Option.some.inj hw).symm
    · rintro (rfl | ⟨-, hne⟩)
      · rfl
      · exact absurd hk hne
  · rename_i hk
    constructor
    · intro hw
      exact .inr ⟨hw, hk⟩
    · rintro (rfl | ⟨hw, -⟩)
      · exact absurd hv hk
      · exact hw

/-- After the values of a list are put in, a key finds the last of them that has it, or else what
    was there. -/
theorem find?_foldl_insert (key : ν → κ) (l : List ν) (m : SortedMap κ ν) (k : κ) :
    (l.foldl (fun m v => m.insert (key v) v) m).find? k =
      (l.reverse.find? fun v => key v = k).or (m.find? k) := by
  induction l generalizing m with
  | nil => simp
  | cons v l ih =>
    rw [List.foldl_cons, ih, List.reverse_cons, List.find?_append, Option.or_assoc, find?_insert]
    by_cases hk : k = key v
    · simp [hk]
    · simp [hk, Ne.symm hk]

theorem find?_foldl_insert_of_forall_ne (key : ν → κ) {l : List ν} (m : SortedMap κ ν)
    (h : ∀ v ∈ l, key v ≠ k) :
    (l.foldl (fun m v => m.insert (key v) v) m).find? k = m.find? k := by
  rw [find?_foldl_insert, List.find?_eq_none.2, Option.none_or]
  intro v hv
  simpa using h v (List.mem_reverse.1 hv)

/-- No two values of the list share a key, so each is found by its own. -/
theorem find?_foldl_insert_of_mem (key : ν → κ) {l : List ν} (m : SortedMap κ ν)
    (hl : ∀ v ∈ l, ∀ w ∈ l, key v = key w → v = w) (hv : v ∈ l) :
    (l.foldl (fun m v => m.insert (key v) v) m).find? (key v) = some v := by
  rw [find?_foldl_insert]
  cases hw : l.reverse.find? fun w => key w = key v with
  | none => simpa using List.find?_eq_none.1 hw v (List.mem_reverse.2 hv)
  | some w =>
    have hkey : key w = key v := by simpa using List.find?_some hw
    have hmem : w ∈ l := List.mem_reverse.1 (List.mem_of_find?_eq_some hw)
    rw [hl w hmem v hv hkey, Option.some_or]

/-- Of several values under one key the last is found. -/
theorem find?_ofValues (key : ν → κ) (l : List ν) (k : κ) :
    (ofValues key l).find? k = l.reverse.find? fun v => key v = k := by
  rw [ofValues_eq_foldl, find?_foldl_insert, find?_empty, Option.or_none]

theorem find?_ofValues_eq_some_iff {l : List ν}
    (hl : ∀ v ∈ l, ∀ w ∈ l, key v = key w → v = w) :
    (ofValues key l).find? k = some v ↔ v ∈ l ∧ key v = k := by
  constructor
  · intro h
    rw [find?_ofValues] at h
    exact ⟨List.mem_reverse.1 (List.mem_of_find?_eq_some h), by simpa using List.find?_some h⟩
  · rintro ⟨hv, rfl⟩
    rw [ofValues_eq_foldl]
    exact find?_foldl_insert_of_mem key empty hl hv

/-- Values picked out of a map and filed anew are the map cut down to them. -/
theorem ofValues_filter_values (h : m.Filed key) (p : ν → Bool) :
    ofValues key (m.values.filter p) = m.filter fun _ v => p v := by
  apply ext_find?
  intro k
  have hl : ∀ v ∈ m.values.filter p, ∀ w ∈ m.values.filter p, key v = key w → v = w :=
    fun v hv w hw => h.eq_of_key_eq (List.mem_filter.1 hv).1 (List.mem_filter.1 hw).1
  apply Option.ext
  intro v
  rw [find?_ofValues_eq_some_iff hl, find?_filter, Option.filter_eq_some_iff, List.mem_filter,
    h.mem_values_iff]
  constructor
  · rintro ⟨⟨hv, hp⟩, rfl⟩
    exact ⟨hv, hp⟩
  · rintro ⟨hv, hp⟩
    obtain rfl := h.key_eq hv
    exact ⟨⟨hv, hp⟩, rfl⟩

/-- Filing the values of a map in any order gives the map back. -/
theorem ofValues_of_perm (h : m.Filed key) {l : List ν} (hl : l.Perm m.values) :
    ofValues key l = m := by
  have hinj : ∀ v ∈ l, ∀ w ∈ l, key v = key w → v = w :=
    fun v hv w hw => h.eq_of_key_eq (hl.mem_iff.1 hv) (hl.mem_iff.1 hw)
  refine ext_find? fun k => Option.ext fun v => ?_
  rw [find?_ofValues_eq_some_iff hinj, hl.mem_iff, h.mem_values_iff]
  constructor
  · rintro ⟨hv, rfl⟩
    exact hv
  · intro hv
    obtain rfl := h.key_eq hv
    exact ⟨hv, rfl⟩

theorem ofValues_values (h : m.Filed key) : ofValues key m.values = m :=
  ofValues_of_perm h (.refl _)

end Laws

end Admission.SortedMap
