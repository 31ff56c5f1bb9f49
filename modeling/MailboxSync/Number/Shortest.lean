import MailboxSync.Number.Binary64

/-!
# Doubles as text

A finite double is written with the fewest digits that read back as it, of those the nearest to it.  `Reach` is the
interval of the numbers that read back, in integers over a common denominator; a decimal grid is tried for one digit,
two digits and so on, and on each grid only the two neighbours of the double can lie in the interval.

From `10 ^ -4` up to below `10 ^ 16` the text is positional with at least one digit on either side of the point, else it
has an exponent of at least two digits.
-/

namespace MailboxSync.Binary64

/-- A double and the interval of the numbers nearest to it, as numerators over one denominator. -/
structure Reach where
  low : Nat
  middle : Nat
  high : Nat
  denominator : Nat
  /-- Whether the ends belong to the interval. -/
  closed : Bool
  deriving Repr

/-- The interval of the numbers nearest to `mantissa * 2 ^ (scale - 1074)`. -/
def reach (mantissa scale : Nat) : Reach where
  low := (4 * mantissa - if mantissa = Nat.pow 2 52 && 0 < scale then 1 else 2) * Nat.pow 2 scale
  middle := 4 * mantissa * Nat.pow 2 scale
  high := (4 * mantissa + 2) * Nat.pow 2 scale
  denominator := Nat.pow 2 1076
  closed := mantissa % 2 = 0

/-- Whether `n / d` lies in the interval. -/
def Reach.holds (r : Reach) (n d : Nat) : Bool :=
  let x := n * r.denominator
  if r.closed then r.low * d ≤ x && x ≤ r.high * d else r.low * d < x && x < r.high * d

/-- The `k` with `10 ^ (k - 1) ≤ n / d < 10 ^ k`, for a positive fraction. -/
def decimalPoint (n d : Nat) : Int :=
  if d ≤ n then (Decimal.digits (n / d)).length
  else 1 - ((Decimal.digits ((d - 1) / n)).length : Int)

/-- The point of the grid `10 ^ exponent` in the interval that is nearest to its middle. -/
def Reach.gridPoint (r : Reach) (exponent : Int) : Option Nat :=
  let (up, down) := if 0 ≤ exponent then (Nat.pow 10 exponent.toNat, 1) else (1, Nat.pow 10 exponent.natAbs)
  let n := r.middle * down
  let d := r.denominator * up
  let below := n / d
  let remainder := n % d
  let first := if 2 * remainder < d || (2 * remainder = d && below % 2 = 0) then below else below + 1
  let second := if first = below then below + 1 else below
  if r.holds (first * up) down then some first
  else if r.holds (second * up) down then some second
  else none

/-- Tries grids of `count`, `count + 1`, … digits, at most `fuel` of them. -/
def Reach.search (r : Reach) (point : Int) (count : Nat) : Nat → Nat × Int
  | 0 => (r.middle / r.denominator, 0)
  | fuel + 1 =>
    let exponent := point - count
    match r.gridPoint exponent with
    | some digits => (digits, exponent)
    | none => r.search point (count + 1) fuel

/-- The shortest decimal `digits * 10 ^ exponent` that reads back. -/
def shortest (mantissa scale : Nat) : Nat × Int :=
  let r := reach mantissa scale
  r.search (decimalPoint r.middle r.denominator) 1 17

def dropTrailingZeros (cs : List Char) : List Char := (cs.reverse.dropWhile (· == '0')).reverse

def decimalText (number : Nat × Int) : String :=
  let all := Decimal.digits number.1
  let digits := dropTrailingZeros all
  let point : Int := all.length + number.2
  let zeros (n : Nat) : List Char := List.replicate n '0'
  if -4 < point && point ≤ 16 then
    if point ≤ 0 then "0." ++ String.ofList (zeros point.natAbs ++ digits)
    else if digits.length ≤ point.toNat then
      String.ofList (digits ++ zeros (point.toNat - digits.length)) ++ ".0"
    else String.ofList (digits.take point.toNat) ++ "." ++ String.ofList (digits.drop point.toNat)
  else
    let exponent := point - 1
    let size := Decimal.digits exponent.natAbs
    let size := if size.length < 2 then '0' :: size else size
    String.ofList (digits.take 1) ++ (if digits.length ≤ 1 then "" else "." ++ String.ofList (digits.drop 1)) ++
      (if exponent < 0 then "e-" else "e+") ++ String.ofList size

def text : Binary64 → String
  | .nan => "nan"
  | .infinite negative => if negative then "-inf" else "inf"
  | .finite negative mantissa scale =>
    (if negative then "-" else "") ++ (if mantissa = 0 then "0.0" else decimalText (shortest mantissa scale))

end MailboxSync.Binary64
