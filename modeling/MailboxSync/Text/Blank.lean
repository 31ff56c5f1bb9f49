/-!
# Blank characters and trimming

Two sets: `isBlank` also counts the four ASCII separator controls `1C`–`1F`; `isWhite` is the Unicode property
`White_Space`, which leaves them out.
-/

namespace MailboxSync.Text

/-- The Unicode property `White_Space`. -/
def isWhite (c : Char) : Bool :=
  let n := c.toNat
  (9 ≤ n && n ≤ 13) || n == 0x20 || n == 0x85 || n == 0xA0 || n == 0x1680 || (0x2000 ≤ n && n ≤ 0x200A) ||
    n == 0x2028 || n == 0x2029 || n == 0x202F || n == 0x205F || n == 0x3000

/-- White space or one of the separator controls. -/
def isBlank (c : Char) : Bool :=
  isWhite c || (0x1C ≤ c.toNat && c.toNat ≤ 0x1F)

/-- Drops the characters of the set from both ends. -/
def trimChars (p : Char → Bool) (cs : List Char) : List Char :=
  ((cs.dropWhile p).reverse.dropWhile p).reverse

def trimBlank (s : String) : String := String.ofList (trimChars isBlank s.toList)

def trimWhite (s : String) : String := String.ofList (trimChars isWhite s.toList)

/-- Splits at every occurrence of `sep`; there is always at least one part. -/
def splitChars (sep : Char) : List Char → List (List Char)
  | [] => [[]]
  | c :: cs =>
    if c = sep then [] :: splitChars sep cs
    else match splitChars sep cs with
      | [] => [[c]]
      | p :: ps => (c :: p) :: ps

def splitAt (sep : Char) (s : String) : List String := (splitChars sep s.toList).map String.ofList

end MailboxSync.Text
