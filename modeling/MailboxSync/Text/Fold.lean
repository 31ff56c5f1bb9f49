/-!
# Case folding towards ASCII

A text equals an ASCII word in any case iff folding it gives the word.  Of all characters only the ASCII capitals and
the Kelvin sign have an ASCII letter as their whole lower-case form, so folding the others changes nothing that such
a comparison can see.
-/

namespace MailboxSync.Text

/-- The lower-case form of a character that has an ASCII letter for it, else the character itself. -/
def foldChar (c : Char) : Char :=
  if c = '\u212A' then 'k' else c.toLower

def fold (s : String) : String := s.map foldChar

/-- Whether `s` begins with the ASCII lower-case word `w` in any case. -/
def foldStartsWith (s w : String) : Bool := (fold s).startsWith w

end MailboxSync.Text
