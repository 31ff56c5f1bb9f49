/-!
# Decimal numbers

`digits` writes a number without leading zeros, `number?` reads one or more ASCII digits; `number?_digits` says that
reading undoes writing.  Integers have a minus sign in front when negative; the digits of one that `fits` are not too
many.
-/

namespace MailboxSync.Decimal

def digitChar (n : Nat) : Char := Char.ofNat (48 + n)

def isDigit (c : Char) : Bool := '0' ≤ c && c ≤ '9'

def digitValue (c : Char) : Nat := c.toNat - 48

/-- The digits of a number. -/
def digits (n : Nat) : List Char :=
  if n < 10 then [digitChar n] else digits (n / 10) ++ [digitChar (n % 10)]
termination_by n

def value (cs : List Char) : Nat := cs.foldl (fun acc c => acc * 10 + digitValue c) 0

def number? (cs : List Char) : Option Nat := if !cs.isEmpty && cs.all isDigit then some (value cs) else none

def ofNat (n : Nat) : String := String.ofList (digits n)

def ofInt (n : Int) : String := if n < 0 then "-" ++ ofNat n.natAbs else ofNat n.natAbs

/-- The longest integer that is written or read, in digits. -/
def maxDigits : Nat := 4300

/-- Whether an integer is short enough to be written. -/
def fits (n : Int) : Bool := (digits n.natAbs).length ≤ maxDigits

def int? (s : String) : Option Int :=
  match s.toList with
  | '-' :: cs => (number? cs).map fun n => -n
  | cs => (number? cs).map fun n => n

theorem digitChar_lt {n : Nat} (h : n < 10) : isDigit (digitChar n) = true ∧ digitValue (digitChar n) = n := by
  have : ∀ m : Fin 10, isDigit (digitChar m) = true ∧ digitValue (digitChar m) = m := by decide
  exact this ⟨n, h⟩

theorem digits_ne_nil (n : Nat) : digits n ≠ [] := by unfold digits; split <;> simp

theorem all_isDigit_digits (n : Nat) : (digits n).all isDigit = true := by
  fun_induction digits n with
  | case1 n h => simp [(digitChar_lt h).1]
  | case2 n h ih => simp [ih, (digitChar_lt (Nat.mod_lt n (by decide : 0 < 10))).1]

theorem value_digits (n : Nat) : value (digits n) = n := by
  fun_induction digits n with
  | case1 n h => simp [value, (digitChar_lt h).2]
  | case2 n h ih =>
    have hv : value (digits (n / 10) ++ [digitChar (n % 10)]) =
        value (digits (n / 10)) * 10 + digitValue (digitChar (n % 10)) := by simp [value, List.foldl_append]
    rw [hv, ih, (digitChar_lt (Nat.mod_lt n (by decide : 0 < 10))).2]
    omega

theorem number?_digits (n : Nat) : number? (digits n) = some n := by
  have h := digits_ne_nil n
  simp only [number?, all_isDigit_digits, value_digits, Bool.and_true]
  cases hd : digits n with
  | nil => exact absurd hd h
  | cons c cs => simp

end MailboxSync.Decimal
