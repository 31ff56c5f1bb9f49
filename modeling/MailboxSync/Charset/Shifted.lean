import MailboxSync.Charset.Utf8
import MailboxSync.Fault

/-!
# Character sets with escapes

* `decodeUtf7` — characters beyond ASCII stand between `+` and the next octet that is no base 64 digit;
* `decodeEscaped`, `decodeRawEscaped` — octets are characters, backslash escapes give others;
* `decodePunycode` — characters beyond ASCII are inserted into an ASCII text, by positions written after the last `-`.
-/

namespace MailboxSync.Charset

/-- The character with a number, U+FFFD if there is none. -/
def charOr (n : Nat) : Char := if n < 0xD800 || (0xE000 ≤ n && n < 0x110000) then Char.ofNat n else replacement

/-- The value of an octet as a base 64 digit. -/
def base64Value? (b : Nat) : Option Nat :=
  if 65 ≤ b && b ≤ 90 then some (b - 65)
  else if 97 ≤ b && b ≤ 122 then some (b - 71)
  else if 48 ≤ b && b ≤ 57 then some (b + 4)
  else if b = 43 then some 62
  else if b = 47 then some 63
  else none

/-! ## UTF-7 -/

/-- Bits under way in a shifted stretch, and a high surrogate that waits for its partner. -/
structure Shift where
  bits : Nat := 0
  width : Nat := 0
  high : Option Nat := none
  /-- Whether the stretch has just begun. -/
  fresh : Bool := true
  deriving Repr

/-- The stretch under way, and the characters read, newest first. -/
structure Utf7State where
  shift : Option Shift := none
  chars : List Char := []
  deriving Repr

namespace Utf7State

def direct (chars : List Char) (b : Nat) : Utf7State :=
  if b = 43 then ⟨some {}, chars⟩ else if b < 128 then ⟨none, Char.ofNat b :: chars⟩
    else ⟨none, replacement :: chars⟩

def addUnit (s : Shift) (chars : List Char) (u : Nat) : Shift × List Char :=
  match s.high with
  | some h =>
    if 0xDC00 ≤ u && u ≤ 0xDFFF then
      ({ s with high := none }, charOr (0x10000 + (h - 0xD800) * 1024 + (u - 0xDC00)) :: chars)
    else if 0xD800 ≤ u && u ≤ 0xDBFF then ({ s with high := some u }, replacement :: chars)
    else ({ s with high := none }, charOr u :: replacement :: chars)
  | none => if 0xD800 ≤ u && u ≤ 0xDBFF then ({ s with high := some u }, chars) else (s, charOr u :: chars)

def step (s : Utf7State) (byte : UInt8) : Utf7State :=
  let b := byte.toNat
  match s.shift with
  | none => direct s.chars b
  | some sh =>
    match base64Value? b with
    | some v =>
      let bits := sh.bits * 64 + v
      let width := sh.width + 6
      if width < 16 then ⟨some { sh with bits, width, fresh := false }, s.chars⟩
      else
        let rest := width - 16
        let weight := Nat.pow 2 rest
        let (sh, chars) := addUnit { sh with bits := bits % weight, width := rest, fresh := false } s.chars
          (bits / weight)
        ⟨some sh, chars⟩
    | none =>
      if sh.fresh then (if b = 45 then ⟨none, '+' :: s.chars⟩ else ⟨none, replacement :: s.chars⟩)
      else if 6 ≤ sh.width || sh.bits ≠ 0 then ⟨none, replacement :: s.chars⟩
      else
        let chars := match sh.high with | some _ => replacement :: s.chars | none => s.chars
        if b = 45 then ⟨none, chars⟩ else direct chars b

def finish (s : Utf7State) : List Char :=
  let chars := match s.shift with
    | some sh => if sh.high.isSome || 6 ≤ sh.width || sh.bits ≠ 0 then replacement :: s.chars else s.chars
    | none => s.chars
  chars.reverse

end Utf7State

def decodeUtf7 (bytes : List UInt8) : List Char := (bytes.foldl Utf7State.step {}).finish

/-! ## Backslash escapes -/

def hexOctet? (b : UInt8) : Option Nat :=
  let n := b.toNat
  if 48 ≤ n && n ≤ 57 then some (n - 48)
  else if 97 ≤ n && n ≤ 102 then some (n - 87)
  else if 65 ≤ n && n ≤ 70 then some (n - 55)
  else none

/-- Reads `count` hexadecimal digits; also says whether there were as many. -/
def hexRun : (count : Nat) → (acc : Nat) → List UInt8 → Nat × Bool × List UInt8
  | 0, acc, bs => (acc, true, bs)
  | _ + 1, acc, [] => (acc, false, [])
  | count + 1, acc, b :: bs =>
    match hexOctet? b with
    | some v => hexRun count (acc * 16 + v) bs
    | none => (acc, false, b :: bs)

def octalRun : (count : Nat) → (acc : Nat) → List UInt8 → Nat × List UInt8
  | 0, acc, bs => (acc, bs)
  | _ + 1, acc, [] => (acc, [])
  | count + 1, acc, b :: bs =>
    if 48 ≤ b.toNat && b.toNat ≤ 55 then octalRun count (acc * 8 + (b.toNat - 48)) bs else (acc, b :: bs)

/-- The character of an escape with a number. -/
def numbered (r : Nat × Bool × List UInt8) : Char × List UInt8 :=
  if r.2.1 then (charOr r.1, r.2.2) else (replacement, r.2.2)

/-- The characters of what follows a backslash. -/
def escape : List UInt8 → List Char × List UInt8
  | [] => ([replacement], [])
  | b :: bs =>
    let one (r : Char × List UInt8) : List Char × List UInt8 := ([r.1], r.2)
    match b with
    | 10 => ([], bs)
    | 92 => (['\\'], bs)
    | 39 => (['\''], bs)
    | 34 => (['"'], bs)
    | 98 => ([Char.ofNat 8], bs)
    | 102 => ([Char.ofNat 12], bs)
    | 116 => (['\t'], bs)
    | 110 => (['\n'], bs)
    | 114 => (['\r'], bs)
    | 118 => ([Char.ofNat 11], bs)
    | 97 => ([Char.ofNat 7], bs)
    | 120 => one (numbered (hexRun 2 0 bs))
    | 117 => one (numbered (hexRun 4 0 bs))
    | 85 => one (numbered (hexRun 8 0 bs))
    | _ =>
      if 48 ≤ b.toNat && b.toNat ≤ 55 then
        let (n, rest) := octalRun 3 0 (b :: bs)
        ([charOr n], rest)
      else (['\\', Char.ofNat b.toNat], bs)

/-- Decodes octets with backslash escapes; `acc` is newest first. -/
def escapedLoop : (fuel : Nat) → (acc : List Char) → List UInt8 → List Char
  | 0, acc, _ => acc.reverse
  | _ + 1, acc, [] => acc.reverse
  | fuel + 1, acc, b :: bs =>
    if b = 92 then
      let (cs, rest) := escape bs
      escapedLoop fuel (cs.reverse ++ acc) rest
    else escapedLoop fuel (Char.ofNat b.toNat :: acc) bs

def decodeEscaped (bytes : List UInt8) : List Char := escapedLoop (bytes.length + 1) [] bytes

/-- Decodes octets with escapes by four or eight digits; `acc` is newest first. -/
def rawLoop : (fuel : Nat) → (acc : List Char) → List UInt8 → List Char
  | 0, acc, _ => acc.reverse
  | _ + 1, acc, [] => acc.reverse
  | fuel + 1, acc, b :: bs =>
    match b, bs with
    | 92, 117 :: r =>
      let (c, rest) := numbered (hexRun 4 0 r)
      rawLoop fuel (c :: acc) rest
    | 92, 85 :: r =>
      let (c, rest) := numbered (hexRun 8 0 r)
      rawLoop fuel (c :: acc) rest
    | 92, c :: r => rawLoop fuel (Char.ofNat c.toNat :: '\\' :: acc) r
    | _, _ => rawLoop fuel (Char.ofNat b.toNat :: acc) bs

/-- Decodes octets with escapes by four or eight digits. -/
def decodeRawEscaped (bytes : List UInt8) : List Char := rawLoop (bytes.length + 1) [] bytes

/-! ## Punycode -/

/-- How far the next digit counts. -/
def punyThreshold (j bias : Nat) : Nat := min 26 (max 1 (36 * (j + 1) - bias))

/-- Reads a number from base 36 digits; nothing at their end, and `false` for an octet that is no digit. -/
def punyNumber : (digits : List Nat) → (j result weight bias : Nat) → Option (Bool × Nat × List Nat)
  | [], _, _, _, _ => none
  | d :: ds, j, result, weight, bias =>
    let value? := if 65 ≤ d && d ≤ 90 then some (d - 65) else if 48 ≤ d && d ≤ 57 then some (d - 22) else none
    match value? with
    | none => some (false, 0, ds)
    | some v =>
      let t := punyThreshold j bias
      let result := result + v * weight
      if v < t then some (true, result, ds) else punyNumber ds (j + 1) result (weight * (36 - t)) bias

/-- The new bias after an insertion. -/
def punyAdapt (delta : Nat) (first : Bool) (count : Nat) : Nat :=
  let delta := if first then delta / 700 else delta / 2
  let delta := delta + delta / count
  let rec shrink : (fuel : Nat) → Nat → Nat → Nat × Nat
    | 0, delta, k => (delta, k)
    | fuel + 1, delta, k => if 455 < delta then shrink fuel (delta / 35) (k + 36) else (delta, k)
  let (delta, k) := shrink 64 delta 0
  k + 36 * delta / (delta + 38)

/-- Inserts characters; stops at the end of the digits, and at a digit that is none. -/
def punyInsert : (fuel : Nat) → (base : List Char) → (code pos bias : Nat) → (first : Bool) →
    List Nat → List Char
  | 0, base, _, _, _, _, _ => base
  | fuel + 1, base, code, pos, bias, first, ds =>
    match ds with
    | [] => base
    | _ =>
      match punyNumber ds 0 0 1 bias with
      | some (true, delta, rest) =>
        let count := base.length + 1
        let at_ := pos + delta
        let code := code + at_ / count
        let pos := at_ % count
        let c := if code < 0x110000 then charOr code else '?'
        punyInsert fuel (base.take pos ++ c :: base.drop pos) code (pos + 1) (punyAdapt delta first count) false rest
      | _ => base

/-- Decodes Punycode.  Octets beyond ASCII are replaced before the last hyphen and refused after it. -/
def decodePunycode (bytes : List UInt8) : Except CharsetProblem (List Char) :=
  let after := (bytes.reverse.takeWhile (· ≠ 45)).reverse
  let before := bytes.take (bytes.length - after.length - 1)
  let base := before.map fun b => if b < 128 then Char.ofNat b.toNat else replacement
  match after.findIdx? (fun b => 128 ≤ b) with
  | some i => .error (.asciiByte (after.getD i 0) i)
  | none =>
    let digits := after.map fun b => if 97 ≤ b.toNat && b.toNat ≤ 122 then b.toNat - 32 else b.toNat
    .ok (punyInsert (digits.length + 1) base 128 0 72 true digits)

end MailboxSync.Charset
