import MailboxSync.Charset.Alias
import MailboxSync.Charset.Full
import MailboxSync.Charset.Upper
import MailboxSync.Charset.Utf8

/-!
# The registry of character sets

Names are compared after normalization: runs of characters other than ASCII letters, digits and points count as one
underscore, those at either end as nothing, and case is ignored.  A normalized name is looked up among the other
names first and then taken as it is.

Some names of the registry belong to conversions between octets, such as `base64`; they are no character sets.

The character sets with more than one octet for a character (East Asian, most of them) are here without their tables and
shifts: each octet is decoded by itself, so that a character of two octets becomes two replacement characters.  Such
text only ends up in a log.  Whether a document may be written in such a set is decided by what its 256 octets in order
give, and that is exact.
-/

namespace MailboxSync.Charset

/-- How octets stand for characters.  The flag of the wide forms says whether the high octet comes first; without it a
mark at the beginning decides. -/
inductive Codec where
  | utf8
  | utf8Signed
  | utf16 (big : Option Bool)
  | utf32 (big : Option Bool)
  | utf7
  | ascii
  | latin1
  /-- ASCII below 128, the given characters above. -/
  | upper (chars : String)
  /-- One character for each of the 256 octets. -/
  | full (chars : String)
  | escaped
  | rawEscaped
  | punycode
  | idna
  | undefined
  /-- One or more octets for a character; `size` is the number of characters that the 256 octets in order give, and
  `singles` are the octets that by themselves are not what ASCII makes of them. -/
  | multibyte (size : Nat) (singles : List (Nat × Char))
  deriving DecidableEq, Repr, Inhabited

/-- Half-width katakana, one octet each. -/
def katakana : List (Nat × Char) := (List.range 63).map fun i => (0xA1 + i, Char.ofNat (0xFF61 + i))

/-- The single octets of Windows' Japanese beside its katakana. -/
def cp932Singles : List (Nat × Char) :=
  (0x80, '\u0080') :: (0xA0, '\uF8F0') :: (0xFD, '\uF8F1') :: (0xFE, '\uF8F2') :: (0xFF, '\uF8F3') :: katakana

/-- Yen sign and overline stand in the places of ASCII's backslash and tilde. -/
def jisX0201 : List (Nat × Char) := (0x5C, '¥') :: (0x7E, '‾') :: katakana

/-- The character sets with names of their own. -/
def named : List (String × Codec) := [
  ("utf_8", .utf8), ("utf_8_sig", .utf8Signed), ("utf_16", .utf16 none), ("utf_16_be", .utf16 (some true)),
  ("utf_16_le", .utf16 (some false)), ("utf_32", .utf32 none), ("utf_32_be", .utf32 (some true)),
  ("utf_32_le", .utf32 (some false)), ("utf_7", .utf7), ("ascii", .ascii), ("charmap", .latin1),
  ("iso8859_1", .latin1), ("latin_1", .latin1), ("unicode_escape", .escaped), ("raw_unicode_escape", .rawEscaped),
  ("punycode", .punycode), ("idna", .idna), ("undefined", .undefined),
  ("big5", .multibyte 212 []), ("big5hkscs", .multibyte 209 []), ("cp932", .multibyte 229 cp932Singles),
  ("cp949", .multibyte 195 []), ("cp950", .multibyte 211 []), ("euc_jis_2004", .multibyte 209 []),
  ("euc_jisx0213", .multibyte 209 []), ("euc_jp", .multibyte 218 []), ("euc_kr", .multibyte 211 []),
  ("gb18030", .multibyte 193 []), ("gb2312", .multibyte 215 []), ("gbk", .multibyte 199 []),
  ("hz", .multibyte 256 [(0x7E, replacement)]), ("iso2022_jp", .multibyte 256 []), ("iso2022_jp_1", .multibyte 256 []),
  ("iso2022_jp_2", .multibyte 256 []), ("iso2022_jp_2004", .multibyte 256 []), ("iso2022_jp_3", .multibyte 256 []),
  ("iso2022_jp_ext", .multibyte 256 []), ("iso2022_kr", .multibyte 254 []), ("johab", .multibyte 204 []),
  ("shift_jis", .multibyte 237 katakana), ("shift_jis_2004", .multibyte 226 jisX0201),
  ("shift_jisx0213", .multibyte 226 jisX0201)]

/-- Names of conversions between octets. -/
def conversions : List String :=
  ["base64_codec", "bz2_codec", "hex_codec", "quopri_codec", "rot_13", "uu_codec", "zlib_codec"]

/-- What a name stands for. -/
inductive Entry where
  | charset (codec : Codec)
  | conversion
  deriving DecidableEq, Repr

def entryOf (name : String) : Option Entry :=
  if conversions.contains name then some .conversion
  else
    match named.lookup name with
    | some codec => some (.charset codec)
    | none =>
      match upperHalves.lookup name with
      | some chars => some (.charset (.upper chars))
      | none => (fullTables.lookup name).map fun chars => .charset (.full chars)

/-- Normalizes the rest of a name; `pending` says whether other characters have just been left out. -/
def normalizeRest : (pending : Bool) → (begun : Bool) → List Char → List Char
  | _, _, [] => []
  | pending, begun, c :: cs =>
    if c.isAlphanum || c = '.' then
      (if pending && begun then ['_', c.toLower] else [c.toLower]) ++ normalizeRest false true cs
    else normalizeRest true begun cs

def normalize (name : String) : String := String.ofList (normalizeRest false false name.toList)

def lookup (name : String) : Option Entry :=
  let norm := normalize name
  let dotless := String.ofList (norm.toList.map fun c => if c = '.' then '_' else c)
  match (aliases.lookup norm).or (aliases.lookup dotless) with
  | none => entryOf norm
  | some other => (entryOf other).or (entryOf norm)

end MailboxSync.Charset
