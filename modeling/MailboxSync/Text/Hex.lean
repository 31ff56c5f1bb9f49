/-!
# Hexadecimal digits

Written in lower case, read in either.
-/

namespace MailboxSync.Text

def hexDigit (n : Nat) : Char := if n < 10 then Char.ofNat (48 + n) else Char.ofNat (87 + n)

/-- The last `width` hexadecimal digits of `n`. -/
def hexDigits : (width n : Nat) → String
  | 0, _ => ""
  | width + 1, n => (hexDigits width (n / 16)).push (hexDigit (n % 16))

def hexValue? (c : Char) : Option Nat :=
  if '0' ≤ c && c ≤ '9' then some (c.toNat - 48)
  else if 'a' ≤ c && c ≤ 'f' then some (c.toNat - 87)
  else if 'A' ≤ c && c ≤ 'F' then some (c.toNat - 55)
  else none

def hexNumber? (cs : List Char) : Option Nat :=
  if cs.isEmpty then none else cs.foldlM (fun acc c => (hexValue? c).map (acc * 16 + ·)) 0

end MailboxSync.Text
