import MailboxSync.Text.Decimal

/-!
# Doubles

A finite double is a sign and a magnitude `mantissa * 2 ^ (scale - 1074)`, kept as two natural numbers, so that every
comparison below is one of integers.

* `Binary64.nearest` — the double nearest to a fraction, a tie goes to the even mantissa;
* `Binary64.ofDecimal` — the double nearest to a decimal number;
* `Binary64.ofText?` — reads the decimal notations of a number.
-/

namespace MailboxSync

/-- A double. -/
inductive Binary64 where
  /-- The number `± mantissa * 2 ^ (scale - 1074)`. -/
  | finite (negative : Bool) (mantissa scale : Nat)
  | infinite (negative : Bool)
  | nan
  deriving DecidableEq, Repr, Inhabited

namespace Binary64

/-- The quotient of two numbers rounded to the nearest integer, a tie to the even one. -/
def roundQuotient (n d : Nat) : Nat :=
  let q := n / d
  let r := n % d
  if 2 * r < d then q
  else if d < 2 * r then q + 1
  else q + q % 2

/-- The double nearest to `± n / d`. -/
def nearest (negative : Bool) (n d : Nat) : Binary64 :=
  let n := n * Nat.pow 2 1074
  let scale := (n / d).log2 - 52
  let mantissa := roundQuotient n (d * Nat.pow 2 scale)
  let (mantissa, scale) :=
    if mantissa = Nat.pow 2 53 then (Nat.pow 2 52, scale + 1) else (mantissa, scale)
  if 2045 < scale then .infinite negative else .finite negative mantissa scale

/-- The double nearest to `± digits * 10 ^ exponent`. -/
def ofDecimal (negative : Bool) (digits : Nat) (exponent : Int) : Binary64 :=
  if digits = 0 then .finite negative 0 0
  else
    let magnitude : Int := (Decimal.digits digits).length + exponent
    if 400 < magnitude then .infinite negative
    else if magnitude < -400 then .finite negative 0 0
    else if 0 ≤ exponent then nearest negative (digits * Nat.pow 10 exponent.toNat) 1
    else nearest negative digits (Nat.pow 10 exponent.natAbs)

/-- Reads an exponent: an optional sign and digits. -/
def exponentOf (cs : List Char) : Option Int :=
  match cs with
  | '-' :: ds => (Decimal.number? ds).map fun n => -n
  | '+' :: ds => (Decimal.number? ds).map fun n => n
  | ds => (Decimal.number? ds).map fun n => n

/-- Reads digits with an optional point among them and an optional exponent after them. -/
def magnitudeOf (negative : Bool) (cs : List Char) : Option Binary64 :=
  let whole := cs.takeWhile Decimal.isDigit
  let rest := cs.dropWhile Decimal.isDigit
  let (fraction, rest) :=
    match rest with
    | '.' :: rest => (rest.takeWhile Decimal.isDigit, rest.dropWhile Decimal.isDigit)
    | rest => ([], rest)
  if whole.isEmpty && fraction.isEmpty then none
  else
    let number := ofDecimal negative (Decimal.value (whole ++ fraction))
    let places : Int := fraction.length
    match rest with
    | [] => some (number (-places))
    | 'e' :: rest | 'E' :: rest => (exponentOf rest).map fun e => number (e - places)
    | _ => none

/-- Reads a number: an optional sign, then decimal notation or the name of infinity or of no number. -/
def ofText? (s : String) : Option Binary64 :=
  let (negative, cs) :=
    match s.toList with
    | '-' :: cs => (true, cs)
    | '+' :: cs => (false, cs)
    | cs => (false, cs)
  let word := String.ofList (cs.map Char.toLower)
  if word = "inf" || word = "infinity" then some (.infinite negative)
  else if word = "nan" then some .nan
  else magnitudeOf negative cs

end Binary64

end MailboxSync
