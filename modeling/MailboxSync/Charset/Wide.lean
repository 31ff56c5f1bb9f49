import MailboxSync.Charset.Utf8

/-!
# UTF-16 and UTF-32 with replacement
-/

namespace MailboxSync.Charset

def unit (big : Bool) (a b : UInt8) : Nat := if big then a.toNat * 256 + b.toNat else b.toNat * 256 + a.toNat

/-- Octets in pairs, and whether one is left over. -/
def units (big : Bool) : List UInt8 → List Nat × Bool
  | [] => ([], false)
  | [_] => ([], true)
  | a :: b :: r =>
    let (us, odd) := units big r
    (unit big a b :: us, odd)

def isHighSurrogate (u : Nat) : Bool := 0xD800 ≤ u && u ≤ 0xDBFF
def isLowSurrogate (u : Nat) : Bool := 0xDC00 ≤ u && u ≤ 0xDFFF

def joinSurrogates (high low : Nat) : Char := Char.ofNat (0x10000 + (high - 0xD800) * 0x400 + (low - 0xDC00))

/-- Decodes units.  A surrogate without its partner is replaced; a high one at the end takes an odd octet after it
along. -/
def decodeUnits (odd : Bool) : List Nat → List Char
  | [] => if odd then [replacement] else []
  | [u] =>
    if isHighSurrogate u then [replacement]
    else (if isLowSurrogate u then replacement else Char.ofNat u) :: decodeUnits odd []
  | u :: v :: r =>
    if isHighSurrogate u then
      if isLowSurrogate v then joinSurrogates u v :: decodeUnits odd r else replacement :: decodeUnits odd (v :: r)
    else (if isLowSurrogate u then replacement else Char.ofNat u) :: decodeUnits odd (v :: r)

/-- Decodes UTF-16; without a given order a mark at the beginning decides, and is no character. -/
def decodeUtf16 (big : Option Bool) (bytes : List UInt8) : List Char :=
  let go (big : Bool) (bytes : List UInt8) : List Char :=
    let (us, odd) := units big bytes
    decodeUnits odd us
  match big, bytes with
  | some big, bytes => go big bytes
  | none, 0xFE :: 0xFF :: r => go true r
  | none, 0xFF :: 0xFE :: r => go false r
  | none, bytes => go false bytes

def decodeQuads (big : Bool) : List UInt8 → List Char
  | a :: b :: c :: d :: r =>
    let n := if big then unit true a b * 65536 + unit true c d else unit false c d * 65536 + unit false a b
    (if n < 0xD800 || (0xE000 ≤ n && n < 0x110000) then Char.ofNat n else replacement) :: decodeQuads big r
  | [] => []
  | _ => [replacement]

/-- Decodes UTF-32; without a given order a mark at the beginning decides, and is no character. -/
def decodeUtf32 (big : Option Bool) (bytes : List UInt8) : List Char :=
  match big, bytes with
  | some big, bytes => decodeQuads big bytes
  | none, 0 :: 0 :: 0xFE :: 0xFF :: r => decodeQuads true r
  | none, 0xFF :: 0xFE :: 0 :: 0 :: r => decodeQuads false r
  | none, bytes => decodeQuads false bytes

end MailboxSync.Charset
