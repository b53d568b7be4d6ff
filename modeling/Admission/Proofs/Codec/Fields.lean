import Admission.Codec.Fields
import Admission.Proofs.Json.Document
import Admission.Proofs.Time.Text
import Admission.Proofs.Uuid

/-!
What reading and writing the parts of records have in common. A reader is faithful to a writer if it
restores what is written and every value has a text (`Faithful`). The readers of numbers,
identifiers, times, lists and values that may be absent are faithful, and the fields of a record are
found by their names, in whichever order they are asked for (`record?_record`).
-/

namespace Admission.Codec

open Json

variable {α : Type} {read : Json → Option α} {write : α → Json}

/-- Every value is written as a document that has a text, and is read back from it. -/
structure Faithful (read : Json → Option α) (write : α → Json) : Prop where
  restores : Restores read write
  written : ∀ a, (write a).Written

/-! ### Single values -/

theorem ofInt64?_toInt (n : Int64) : ofInt64? n.toInt = some n := by
  have hlow := n.le_toInt
  have hhigh := n.toInt_lt
  rw [ofInt64?, if_pos (by omega), Int64.ofInt_toInt]

theorem faithful_int64 : Faithful int64? ofInt64 := ⟨ofInt64?_toInt, fun _ => .int _⟩

theorem faithful_uint32 : Faithful uint32? ofUInt32 where
  restores n := by
    have hhigh := n.toNat_lt
    rw [ofUInt32, uint32?, if_pos (by omega), Int.toNat_natCast, UInt32.ofNat_toNat]
  written _ := .int _

theorem faithful_uint64 : Faithful uint64? ofUInt64 where
  restores n := by
    have hhigh := n.toNat_lt
    rw [ofUInt64, uint64?, if_pos (by omega), Int.toNat_natCast, UInt64.ofNat_toNat]
  written _ := .int _

theorem faithful_uuid : Faithful uuid? ofUuid where
  restores := Uuid.restores_text
  written _ := .str _

theorem faithful_instant : Faithful instant? ofInstant where
  restores := Instant.restores_text
  written _ := .str _

theorem faithful_text : Faithful text? .str := ⟨fun _ => rfl, .str⟩

theorem faithful_bool : Faithful bool? .bool := ⟨fun _ => rfl, .bool⟩

theorem faithful_list (h : Faithful read write) : Faithful (list? read) (ofList write) where
  restores := h.restores.mapM
  written l := .arr fun j hj => by
    obtain ⟨a, -, rfl⟩ := List.mem_map.1 hj
    exact h.written a

theorem faithful_nullable (h : Faithful read write) (hnull : ∀ a, write a ≠ .null) :
    Faithful (nullable read) (ofNullable write) where
  restores
    | none => rfl
    | some a => by
      rw [ofNullable, nullable, h.restores, Option.map_some]
      exact hnull a
  written
    | none => .null
    | some a => h.written a

/-! ### Records -/

theorem filter_eq_nil_of_notMem {fields : List (String × Json)} {name : String}
    (h : name ∉ fields.map (·.1)) :
    (fields.map fun f => (⟨f.1, true⟩, f.2)).filter
      (fun m : MemberName × Json => m.1.text == name) = [] := by
  refine List.filter_eq_nil_iff.2 fun m hm hname => h ?_
  obtain ⟨f, hf, rfl⟩ := List.mem_map.1 hm
  rw [← eq_of_beq hname]
  exact List.mem_map_of_mem hf

theorem member?_map {fields : List (String × Json)} (h : (fields.map (·.1)).Nodup) (name : String) :
    member? name (fields.map fun f => (⟨f.1, true⟩, f.2)) = some (List.lookup name fields) := by
  induction fields with
  | nil => rfl
  | cons f fields ih =>
    obtain ⟨field, j⟩ := f
    rw [List.map_cons, List.nodup_cons] at h
    rw [List.lookup_cons, List.map_cons]
    by_cases hname : name = field
    · have hrest := filter_eq_nil_of_notMem h.1
      rw [hname, beq_self_eq_true, member?, List.filter_cons_of_pos (by simp), hrest]
    · rw [beq_eq_false_iff_ne.2 hname, ← ih h.2, member?,
        List.filter_cons_of_neg (by simpa using Ne.symm hname), member?]

/-- The fields of a record are found by their names. -/
theorem record?_record {fields : List (String × Json)} (h : (fields.map (·.1)).Nodup)
    (names : List String) :
    record? names (.record fields) = some (names.map fun name => List.lookup name fields) := by
  have hmember : (fun name => member? name (fields.map fun f => (⟨f.1, true⟩, f.2))) =
      fun name => pure (List.lookup name fields) := funext (member?_map h)
  rw [record, record?, hmember]
  exact List.mapM_pure

theorem map_lookup_names {fields : List (String × Json)} (h : (fields.map (·.1)).Nodup) :
    (fields.map (·.1)).map (fun name => List.lookup name fields) =
      fields.map fun f => some f.2 := by
  induction fields with
  | nil => rfl
  | cons f fields ih =>
    obtain ⟨field, j⟩ := f
    rw [List.map_cons, List.nodup_cons] at h
    have hrest : (fields.map (·.1)).map (fun name => List.lookup name ((field, j) :: fields)) =
        (fields.map (·.1)).map fun name => List.lookup name fields := by
      refine List.map_congr_left fun name hname => ?_
      have hne : name ≠ field := fun heq => h.1 (heq ▸ hname)
      rw [List.lookup_cons, beq_eq_false_iff_ne.2 hne]
    rw [List.map_cons, List.map_cons, hrest, ih h.2, List.lookup_cons_self, List.map_cons]

theorem written_record {fields : List (String × Json)}
    (hnames : ∀ name ∈ fields.map (·.1), printsPlainly name = true)
    (h : ∀ f ∈ fields, f.2.Written) : (record fields).Written := by
  refine .obj (fun m hm => ?_) fun m hm => ?_
  · obtain ⟨f, hf, rfl⟩ := List.mem_map.1 hm
    exact (hnames f.1 (List.mem_map_of_mem hf)).symm
  · obtain ⟨f, hf, rfl⟩ := List.mem_map.1 hm
    exact h f hf

/-- A record that is written with all the fields it is read by, in their order, is read back if its
    fields are enough to build it. -/
theorem faithful_record {names : List String} {fields : α → List (String × Json)}
    {build : List (Option Json) → Option α}
    (hnames : names.Nodup ∧ ∀ name ∈ names, printsPlainly name = true)
    (hfields : ∀ a, (fields a).map (·.1) = names) (hwritten : ∀ a, ∀ f ∈ fields a, f.2.Written)
    (hbuild : ∀ a, build ((fields a).map fun f => some f.2) = some a) :
    Faithful (fun j => record? names j >>= build) fun a => record (fields a) where
  restores a := by
    have hnodup : ((fields a).map (·.1)).Nodup := hfields a ▸ hnames.1
    show (record? names (record (fields a))).bind build = some a
    rw [record?_record hnodup, ← hfields a, map_lookup_names hnodup, Option.bind_some, hbuild]
  written a := written_record (hfields a ▸ hnames.2) (hwritten a)

section Bind

variable {β γ : Type}

theorem bind_of_eq_some {x : Option γ} {c : γ} (hx : x = some c) (k : γ → Option β) :
    (x >>= k) = k c := by
  rw [hx]
  rfl

variable (h : Faithful read write) (a : α) (k : α → Option β)

include h

theorem bind_required : (required read (some (write a)) >>= k) = k a :=
  bind_of_eq_some (h.restores a) k

theorem bind_withDefault (default : α) :
    (withDefault default read (some (write a)) >>= k) = k a :=
  bind_of_eq_some (h.restores a) k

end Bind

end Admission.Codec
