import MailboxSync.Text.Blank
import MailboxSync.Text.Decimal
import MailboxSync.Text.Digit

/-!
# Integers as people write them

White space around an integer does not count, it may have either sign, its digits may be of any script, and single
underscores between digits may group them.
-/

namespace MailboxSync.Number

/-- Reads digits; between two of them there may be an underscore. -/
def groupedDigits (cs : List Char) : Option (List Nat) :=
  let groups := Text.splitChars '_' cs
  if groups.all (!·.isEmpty) then groups.flatten.mapM Text.digitOf else none

/-- Reads a number of at most `Decimal.maxDigits` digits. -/
def magnitudeOf (cs : List Char) : Option Nat :=
  match groupedDigits cs with
  | none => none
  | some ds => if ds.length ≤ Decimal.maxDigits then some (ds.foldl (fun n d => n * 10 + d) 0) else none

def integerOf (s : String) : Option Int :=
  match Text.trimChars Text.isWhite s.toList with
  | '-' :: cs => (magnitudeOf cs).map fun n => -n
  | '+' :: cs => (magnitudeOf cs).map fun n => n
  | cs => (magnitudeOf cs).map fun n => n

end MailboxSync.Number
