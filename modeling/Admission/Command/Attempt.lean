import Admission.Command.Error

/-!
Commands as sequences of attempts, of which the first that fails ends the command.
-/

namespace Admission.Command

variable {m : Type → Type} [Monad m]

/-- What acts on a machine and may fail. -/
abbrev Attempt (m : Type → Type) := ExceptT CommandError m

/-- An action whose failure ends the command, told as what the command was doing. -/
def attempt {ε α : Type} (tell : ε → CommandError) (act : m (Except ε α)) : Attempt m α :=
  ExceptT.mk do return (← act).mapError tell

/-- A result whose failure ends the command, told as what the command was doing. -/
def require {ε α : Type} (tell : ε → CommandError) (result : Except ε α) : Attempt m α :=
  ExceptT.mk (return result.mapError tell)

end Admission.Command
