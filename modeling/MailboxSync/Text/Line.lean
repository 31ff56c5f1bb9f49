/-!
# Lines

A text as the list of its lines.  Besides line feed, carriage return and the two together, the vertical tab, the form
feed, the separators `1C`–`1E`, the next line control and the Unicode line and paragraph separators end a line; what
comes after the last of them is a line only if there is something.
-/

namespace MailboxSync.Text

def endsLine (c : Char) : Bool :=
  let n := c.toNat
  (0xA ≤ n && n ≤ 0xD) || (0x1C ≤ n && n ≤ 0x1E) || n == 0x85 || n == 0x2028 || n == 0x2029

/-- The lines that have ended and the characters of the one under way, both newest first. -/
structure LineScan where
  ended : List String := []
  chars : List Char := []
  /-- Whether the last character was a carriage return. -/
  returned : Bool := false
  deriving Repr

namespace LineScan

def step (s : LineScan) (c : Char) : LineScan :=
  if s.returned && c = '\n' then { s with returned := false }
  else if endsLine c then { ended := String.ofList s.chars.reverse :: s.ended, returned := c = '\r' }
  else { s with chars := c :: s.chars, returned := false }

def finish (s : LineScan) : List String :=
  (if s.chars.isEmpty then s.ended else String.ofList s.chars.reverse :: s.ended).reverse

end LineScan

def lines (s : String) : List String := (s.toList.foldl LineScan.step {}).finish

end MailboxSync.Text
