/-!
# UTF-8 with replacement

Octets that are no part of a character become U+FFFD: one for every longest start of a character that does not go on,
and one for every octet that starts none.
-/

namespace MailboxSync.Charset

/-- Stands for what cannot be decoded. -/
def replacement : Char := '\uFFFD'

/-- A character under way: how many octets are missing, the range the next must lie in, and the bits so far. -/
structure Utf8Part where
  missing : Nat
  low : Nat := 0x80
  high : Nat := 0xBF
  bits : Nat
  deriving DecidableEq, Repr

/-- The character under way, and the characters read, newest first. -/
structure Utf8State where
  part : Option Utf8Part := none
  chars : List Char := []
  deriving Repr

namespace Utf8State

/-- Takes in an octet that starts a character, or none. -/
def lead (chars : List Char) (b : Nat) : Utf8State :=
  if b < 0x80 then ⟨none, Char.ofNat b :: chars⟩
  else if 0xC2 ≤ b && b ≤ 0xDF then ⟨some { missing := 1, bits := b - 0xC0 }, chars⟩
  else if b = 0xE0 then ⟨some { missing := 2, low := 0xA0, bits := 0 }, chars⟩
  else if b = 0xED then ⟨some { missing := 2, high := 0x9F, bits := 0xD }, chars⟩
  else if 0xE1 ≤ b && b ≤ 0xEF then ⟨some { missing := 2, bits := b - 0xE0 }, chars⟩
  else if b = 0xF0 then ⟨some { missing := 3, low := 0x90, bits := 0 }, chars⟩
  else if b = 0xF4 then ⟨some { missing := 3, high := 0x8F, bits := 4 }, chars⟩
  else if 0xF1 ≤ b && b ≤ 0xF3 then ⟨some { missing := 3, bits := b - 0xF0 }, chars⟩
  else ⟨none, replacement :: chars⟩

def step (s : Utf8State) (byte : UInt8) : Utf8State :=
  let b := byte.toNat
  match s.part with
  | none => lead s.chars b
  | some p =>
    if p.low ≤ b && b ≤ p.high then
      let bits := p.bits * 64 + (b - 0x80)
      if p.missing ≤ 1 then ⟨none, Char.ofNat bits :: s.chars⟩
        else ⟨some { missing := p.missing - 1, bits }, s.chars⟩
    else lead (replacement :: s.chars) b

def finish (s : Utf8State) : List Char :=
  (match s.part with | none => s.chars | some _ => replacement :: s.chars).reverse

end Utf8State

def decodeUtf8 (bytes : List UInt8) : List Char := (bytes.foldl Utf8State.step {}).finish

end MailboxSync.Charset
