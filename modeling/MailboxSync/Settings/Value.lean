import MailboxSync.Number.Binary64
import MailboxSync.Text.Blank

/-!
# Values of settings

How the text of a setting is read as an integer, a number or a truth value.  White space around numbers does not count,
and single underscores between the characters of a number may group them.
-/

namespace MailboxSync.Setting

/-- Drops underscores, of which there must be some, none at an end and no two in a row. -/
def ungroup (cs : List Char) : Option (List Char) :=
  let parts := Text.splitChars '_' cs
  if 2 ≤ parts.length && parts.all (!·.isEmpty) then some parts.flatten else none

/-- The text after zeros and underscores at the front: from the first other digit on, or from the last character before
a point, or the last character alone if nothing else follows; nothing if some other character follows. -/
def afterZeros (last : Char) : List Char → Option (List Char)
  | [] => some [last]
  | c :: cs =>
    if c = '0' || c = '_' then afterZeros c cs
    else if c = '.' then some (last :: c :: cs)
    else if Decimal.isDigit c then some (c :: cs)
    else none

/-- Drops zeros at the front; a negative number keeps them. -/
def dropZeros : List Char → Option (List Char)
  | [] => none
  | c :: cs => if c = '0' then afterZeros c cs else if c = '-' || Decimal.isDigit c then some (c :: cs) else none

/-- Drops a fraction of zeros. -/
def dropZeroFraction (cs : List Char) : List Char :=
  match cs.span (· != '.') with
  | (whole, _ :: z :: zs) => if (z :: zs).all (· == '0') then whole else cs
  | _ => cs

/-- Reads an integer without zeros at the front. -/
def plainInteger (cs : List Char) : Option Int :=
  let (negative, ds) := match cs with
    | '-' :: ds => (true, ds)
    | ds => (false, ds)
  match ds with
  | '0' :: _ :: _ => none
  | ds => (Decimal.number? ds).map fun n => if negative then -n else n

/-- Reads an integer: `7`, `+7`, `007`, `7.0` and `1_000` are integers. -/
def integerOf (s : String) : Option Int :=
  let cs := Text.trimChars Text.isWhite s.toList
  let unsigned := match cs with
    | '+' :: '-' :: _ => none
    | '+' :: cs => some cs
    | cs => some cs
  (unsigned.bind dropZeros).bind fun cs =>
    let cs := dropZeroFraction cs
    match plainInteger cs with
    | some n => some n
    | none => (ungroup cs).bind plainInteger

/-- Reads a number; one with groups has no white space around it. -/
def numberOf (s : String) : Option Binary64 :=
  match Binary64.ofText? (Text.trimWhite s) with
  | some x => some x
  | none => (ungroup s.toList).bind fun cs => Binary64.ofText? (String.ofList cs)

/-- Reads a truth value, in any case. -/
def truthOf (s : String) : Option Bool :=
  let word := String.ofList (s.toList.map Char.toLower)
  if ["1", "t", "y", "on", "yes", "true"].contains word then some true
  else if ["0", "f", "n", "off", "no", "false"].contains word then some false
  else none

/-- The parts of a comma separated list without blanks around them, the empty ones left out. -/
def listOf (s : String) : List String := ((Text.splitAt ',' s).map Text.trimBlank).filter (· != "")

end MailboxSync.Setting
