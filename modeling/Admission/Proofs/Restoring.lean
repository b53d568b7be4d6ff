/-!
Reading back what was written. A reader restores what a writer writes if it reads each value's
written form as the value (`Restores`), and it restores lists if it restores their elements.
-/

namespace Admission

/-- Whatever is written is read as what it was. -/
def Restores {α β : Type} (read : β → Option α) (write : α → β) : Prop :=
  ∀ a, read (write a) = some a

namespace Restores

variable {α β : Type} {read : β → Option α} {write : α → β}

/-- Lists are restored element by element. -/
theorem mapM (h : Restores read write) (l : List α) : (l.map write).mapM read = some l := by
  have hpure : read ∘ write = pure := funext h
  rw [List.mapM_map, hpure]
  exact (List.mapM_pure (f := id)).trans (congrArg some l.map_id)

end Restores

end Admission
