import MailboxSync.Fault
import MailboxSync.Time.Calendar

/-!
# Points in time

* `Instant` — a microsecond of the years 1 to 9999 in UTC;
* `Stamp` — a wall-clock reading, with or without an offset from UTC;
* `Stamp.toInstant` — the instant a stamp denotes: without an offset the reading is taken as UTC, with one the offset
  is subtracted.  It fails exactly when the result leaves the years 1 to 9999.
-/

namespace MailboxSync

/-- A microsecond of the years 1 to 9999 in UTC. -/
structure Instant where
  micros : Nat
  inSpan : micros < Calendar.span
  deriving DecidableEq, Repr

/-- An offset from UTC of less than a day either way. -/
structure Offset where
  micros : Int
  low : -(Calendar.perDay : Int) < micros
  high : micros < (Calendar.perDay : Int)
  deriving DecidableEq, Repr

/-- A wall-clock reading; without an offset it is naive. -/
structure Stamp where
  wall : Nat
  inSpan : wall < Calendar.span
  offset : Option Offset := none
  deriving DecidableEq, Repr

namespace Instant

instance : LE Instant := ⟨fun a b => a.micros ≤ b.micros⟩
instance : LT Instant := ⟨fun a b => a.micros < b.micros⟩
instance (a b : Instant) : Decidable (a ≤ b) := inferInstanceAs (Decidable (a.micros ≤ b.micros))
instance (a b : Instant) : Decidable (a < b) := inferInstanceAs (Decidable (a.micros < b.micros))

/-- `1970-01-01T00:00:00` UTC, the watermark of a user who has never completed a run. -/
def epoch : Instant := ⟨719162 * Calendar.perDay, by decide⟩

instance : Inhabited Instant := ⟨epoch⟩

/-- The instant with a number of microseconds since the first one, if there is one. -/
def ofMicros? (n : Int) : Option Instant :=
  if h : n.toNat < Calendar.span then if 0 ≤ n then some ⟨n.toNat, h⟩ else none else none

end Instant

namespace Offset

def zero : Offset := ⟨0, by decide, by decide⟩

/-- The offset with a number of microseconds, if it is less than a day. -/
def ofMicros? (n : Int) : Option Offset :=
  if h : -(Calendar.perDay : Int) < n ∧ n < (Calendar.perDay : Int) then some ⟨n, h.1, h.2⟩ else none

end Offset

namespace Stamp

def ofInstant (i : Instant) : Stamp := ⟨i.micros, i.inSpan, some .zero⟩

/-- Microseconds since `0001-01-01T00:00:00` UTC; may lie outside the years 1 to 9999. -/
def utcMicros (s : Stamp) : Int :=
  match s.offset with
  | none => s.wall
  | some o => s.wall - o.micros

def toInstant (s : Stamp) : Except Fault Instant :=
  match Instant.ofMicros? s.utcMicros with
  | some i => .ok i
  | none => .error .dateOutOfRange

end Stamp

end MailboxSync
