/-!
# Notes

What a run says about itself: lines with a level.  Some lines are only built when somebody listens at their level,
so the listening level is a parameter of whoever writes them.
-/

namespace MailboxSync

/-- The levels of notes, least urgent first. -/
inductive Level where
  | trace
  | debug
  | info
  | warning
  | error
  deriving DecidableEq, Repr, Inhabited

/-- Rank of a level; a listener hears its own rank and above. -/
def Level.rank : Level → Nat
  | .trace => 0
  | .debug => 1
  | .info => 2
  | .warning => 3
  | .error => 4

/-- One line. -/
structure Note where
  level : Level
  text : String
  deriving DecidableEq, Repr, Inhabited

/-- Whether a listener hears notes of `level`; nobody listening hears nothing. -/
def hears (listener : Option Level) (level : Level) : Bool :=
  match listener with
  | none => false
  | some l => l.rank ≤ level.rank

end MailboxSync
