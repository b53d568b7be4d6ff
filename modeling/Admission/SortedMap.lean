/-!
Finite maps kept as lists of entries in strictly ascending key order. The main statements say what
a look-up answers after each operation (`find?_insert`, `find?_erase`) and that two maps with the
same look-ups are the same map (`ext_find?`), so a map stands for the content of a store and
nothing else.
-/

namespace Admission

/-- A finite map: its entries in strictly ascending order of their keys. -/
structure SortedMap (κ ν : Type) [Ord κ] where
  entries : List (κ × ν)
  sorted : entries.Pairwise fun a b => compare a.1 b.1 = .lt
deriving DecidableEq

namespace SortedMap

variable {κ ν : Type} [Ord κ]

/-- The value of the first entry under the key. -/
def lookup (k : κ) : List (κ × ν) → Option ν
  | [] => none
  | (k', v) :: rest => if compare k k' = .eq then some v else lookup k rest

/-- Puts an entry at its place in an ordered list, over an entry of the same key. -/
def insertEntry (k : κ) (v : ν) : List (κ × ν) → List (κ × ν)
  | [] => [(k, v)]
  | (k', v') :: rest =>
    match compare k k' with
    | .lt => (k, v) :: (k', v') :: rest
    | .eq => (k, v) :: rest
    | .gt => (k', v') :: insertEntry k v rest

theorem mem_insertEntry {k : κ} {v : ν} {a : κ × ν} {l : List (κ × ν)}
    (h : a ∈ insertEntry k v l) : a = (k, v) ∨ a ∈ l := by
  induction l with
  | nil => simpa [insertEntry] using h
  | cons e rest ih =>
    obtain ⟨k', v'⟩ := e
    rw [insertEntry] at h
    split at h <;> simp only [List.mem_cons] at h ⊢ <;> grind

/-- The map without entries. -/
def empty : SortedMap κ ν := ⟨[], .nil⟩

instance : EmptyCollection (SortedMap κ ν) := ⟨empty⟩
instance : Inhabited (SortedMap κ ν) := ⟨empty⟩

/-- The value filed under a key. -/
def find? (m : SortedMap κ ν) (k : κ) : Option ν := lookup k m.entries

/-- Whether a value is filed under the key. -/
def contains (m : SortedMap κ ν) (k : κ) : Bool := (m.find? k).isSome

/-- The values, in key order. -/
def values (m : SortedMap κ ν) : List ν := m.entries.map (·.2)

/-- The keys, in order. -/
def keys (m : SortedMap κ ν) : List κ := m.entries.map (·.1)

/-- The number of entries. -/
def size (m : SortedMap κ ν) : Nat := m.entries.length

/-- The entries that pass a test. -/
def filter (m : SortedMap κ ν) (p : κ → ν → Bool) : SortedMap κ ν :=
  ⟨m.entries.filter fun e => p e.1 e.2, m.sorted.filter _⟩

/-- The map without what it files under the key. -/
def erase (m : SortedMap κ ν) (k : κ) : SortedMap κ ν :=
  m.filter fun k' _ => compare k k' ≠ .eq

section Laws

variable [Std.TransOrd κ] [Std.LawfulEqOrd κ]

theorem sorted_insertEntry (k : κ) (v : ν) {l : List (κ × ν)}
    (h : l.Pairwise fun a b => compare a.1 b.1 = .lt) :
    (insertEntry k v l).Pairwise fun a b => compare a.1 b.1 = .lt := by
  induction l with
  | nil => simp [insertEntry]
  | cons e rest ih =>
    obtain ⟨k', v'⟩ := e
    rw [insertEntry]
    have hrest := (List.pairwise_cons.1 h).1
    split
    · rename_i hlt
      refine h.cons fun a ha => ?_
      rcases List.mem_cons.1 ha with rfl | ha
      · exact hlt
      · exact Std.TransCmp.lt_trans hlt (hrest _ ha)
    · rename_i heq
      have : k = k' := Std.LawfulEqCmp.compare_eq_iff_eq.1 heq
      subst this
      exact h.of_cons.cons fun a ha => hrest _ ha
    · rename_i hgt
      refine (ih h.of_cons).cons fun a ha => ?_
      rcases mem_insertEntry ha with rfl | ha
      · exact Std.OrientedCmp.gt_iff_lt.1 hgt
      · exact hrest _ ha

/-- Files a value under a key, over what was filed there. -/
def insert (m : SortedMap κ ν) (k : κ) (v : ν) : SortedMap κ ν :=
  ⟨insertEntry k v m.entries, sorted_insertEntry k v m.sorted⟩

/-- Files the entries of a list one after another, so that the last one under a key stays. -/
def ofList (l : List (κ × ν)) : SortedMap κ ν := l.foldl (fun m e => m.insert e.1 e.2) empty

/-- Files each value under its own key, so that the last one of a key stays. -/
def ofValues (key : ν → κ) (l : List ν) : SortedMap κ ν := ofList (l.map fun v => (key v, v))

omit [Std.TransOrd κ] in
theorem compare_self (k : κ) : compare k k = .eq := Std.compare_eq_iff_eq.2 rfl

omit [Std.TransOrd κ] in
theorem lookup_insertEntry (k k' : κ) (v : ν) (l : List (κ × ν)) :
    lookup k' (insertEntry k v l) = if compare k' k = .eq then some v else lookup k' l := by
  induction l with
  | nil => simp [insertEntry, lookup]
  | cons e rest ih =>
    obtain ⟨k₁, v₁⟩ := e
    rw [insertEntry]
    split
    · simp [lookup]
    · rename_i heq
      have : k = k₁ := Std.LawfulEqCmp.compare_eq_iff_eq.1 heq
      subst this
      by_cases h : compare k' k = .eq <;> simp [lookup, h]
    · rename_i hgt
      simp only [lookup, ih]
      by_cases h : compare k' k₁ = .eq
      · have : k' = k₁ := Std.LawfulEqCmp.compare_eq_iff_eq.1 h
        subst this
        have hne : compare k' k ≠ .eq := by
          intro h'
          have : k' = k := Std.LawfulEqCmp.compare_eq_iff_eq.1 h'
          subst this
          simp at hgt
        simp [hne]
      · simp [h]

theorem find?_insert [DecidableEq κ] (m : SortedMap κ ν) (k k' : κ) (v : ν) :
    (m.insert k v).find? k' = if k' = k then some v else m.find? k' := by
  simp only [find?, insert, lookup_insertEntry, Std.compare_eq_iff_eq]

@[simp] theorem find?_insert_self (m : SortedMap κ ν) (k : κ) (v : ν) :
    (m.insert k v).find? k = some v := by
  simp [find?, insert, lookup_insertEntry]

theorem find?_insert_of_ne (m : SortedMap κ ν) {k k' : κ} (v : ν) (h : k' ≠ k) :
    (m.insert k v).find? k' = m.find? k' := by
  simp [find?, insert, lookup_insertEntry, h]

omit [Std.TransOrd κ] [Std.LawfulEqOrd κ] in
@[simp] theorem find?_empty (k : κ) : (empty : SortedMap κ ν).find? k = none := rfl

omit [Std.TransOrd κ] in
theorem lookup_eq_some_iff {k : κ} {v : ν} {l : List (κ × ν)}
    (h : l.Pairwise fun a b => compare a.1 b.1 = .lt) :
    lookup k l = some v ↔ (k, v) ∈ l := by
  induction l with
  | nil => simp [lookup]
  | cons e rest ih =>
    obtain ⟨k', v'⟩ := e
    have hrest := (List.pairwise_cons.1 h).1
    rw [lookup]
    by_cases hk : compare k k' = .eq
    · have : k = k' := Std.LawfulEqCmp.compare_eq_iff_eq.1 hk
      subst this
      simp only [compare_self, if_true, Option.some.injEq, List.mem_cons, Prod.mk.injEq, true_and]
      constructor
      · exact fun hv => .inl hv.symm
      · rintro (hv | hmem)
        · exact hv.symm
        · have := hrest _ hmem
          simp at this
    · have hne : k ≠ k' := fun hkk => hk (hkk ▸ compare_self k)
      simp [hk, ih h.of_cons, hne]

omit [Std.TransOrd κ] in
theorem find?_eq_some_iff {m : SortedMap κ ν} {k : κ} {v : ν} :
    m.find? k = some v ↔ (k, v) ∈ m.entries := lookup_eq_some_iff m.sorted

omit [Std.TransOrd κ] in
/-- A value is filed in the map exactly when some key finds it. -/
theorem mem_values_iff {m : SortedMap κ ν} {v : ν} :
    v ∈ m.values ↔ ∃ k, m.find? k = some v := by
  simp [values, find?_eq_some_iff]

omit [Std.TransOrd κ] in
theorem lookup_filter (p : κ → ν → Bool) (k : κ) {l : List (κ × ν)}
    (h : l.Pairwise fun a b => compare a.1 b.1 = .lt) :
    lookup k (l.filter fun e => p e.1 e.2) = (lookup k l).filter (p k) := by
  have hf := h.filter fun e => p e.1 e.2
  apply Option.ext
  intro v
  rw [lookup_eq_some_iff hf, Option.filter_eq_some_iff, lookup_eq_some_iff h]
  simp

omit [Std.TransOrd κ] in
theorem find?_filter (m : SortedMap κ ν) (p : κ → ν → Bool) (k : κ) :
    (m.filter p).find? k = (m.find? k).filter (p k) := lookup_filter p k m.sorted

omit [Std.TransOrd κ] in
theorem find?_erase [DecidableEq κ] (m : SortedMap κ ν) (k k' : κ) :
    (m.erase k).find? k' = if k' = k then none else m.find? k' := by
  rw [erase, find?_filter]
  by_cases h : k' = k
  · subst h
    cases m.find? k' <;> simp
  · have : k ≠ k' := fun hk => h hk.symm
    cases hm : m.find? k' <;> simp [h, this]

theorem entries_eq_of_mem_iff {l l' : List (κ × ν)}
    (h : l.Pairwise fun a b => compare a.1 b.1 = .lt)
    (h' : l'.Pairwise fun a b => compare a.1 b.1 = .lt)
    (hmem : ∀ e, e ∈ l ↔ e ∈ l') : l = l' := by
  induction l generalizing l' with
  | nil =>
    cases l' with
    | nil => rfl
    | cons e _ => exact absurd ((hmem e).2 (by simp)) (by simp)
  | cons e rest ih =>
    cases l' with
    | nil => exact absurd ((hmem e).1 (by simp)) (by simp)
    | cons e' rest' =>
      have hr := (List.pairwise_cons.1 h).1
      have hr' := (List.pairwise_cons.1 h').1
      have hirr (a b : κ × ν) (hab : compare a.1 b.1 = .lt) : a ≠ b := by
        rintro rfl
        simp at hab
      have he : e = e' := by
        rcases List.mem_cons.1 ((hmem e).1 (by simp)) with he | he
        · exact he
        · rcases List.mem_cons.1 ((hmem e').2 (by simp)) with he' | he'
          · exact he'.symm
          · have h1 := hr' _ he
            have h2 := hr _ he'
            have := Std.OrientedCmp.gt_iff_lt.2 h1
            simp [h2] at this
      subst he
      congr 1
      refine ih h.of_cons h'.of_cons fun a => ?_
      have := hmem a
      simp only [List.mem_cons] at this
      constructor
      · intro ha
        rcases this.1 (.inr ha) with rfl | ha'
        · exact absurd rfl (hirr _ _ (hr _ ha))
        · exact ha'
      · intro ha
        rcases this.2 (.inr ha) with rfl | ha'
        · exact absurd rfl (hirr _ _ (hr' _ ha))
        · exact ha'

/-- Maps with the same look-ups are equal. -/
theorem ext_find? {m m' : SortedMap κ ν} (h : ∀ k, m.find? k = m'.find? k) : m = m' := by
  have : m.entries = m'.entries := by
    refine entries_eq_of_mem_iff m.sorted m'.sorted fun e => ?_
    obtain ⟨k, v⟩ := e
    rw [← find?_eq_some_iff, ← find?_eq_some_iff, h]
  cases m
  cases m'
  simp_all

end Laws

end SortedMap

end Admission
