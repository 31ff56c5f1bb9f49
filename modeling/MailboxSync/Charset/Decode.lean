import MailboxSync.Charset.Codec
import MailboxSync.Charset.Shifted
import MailboxSync.Charset.Wide

/-!
# Decoding with replacement

`Codec.decode` turns octets into characters and replaces what cannot be decoded by U+FFFD.  A few character sets
refuse some octets all the same, and two refuse everything.
-/

namespace MailboxSync.Charset

/-- The character of an octet in a table that begins at `base`. -/
def tableChar (chars : Array Char) (base : Nat) (b : UInt8) : Char := chars.getD (b.toNat - base) replacement

def asciiChar (b : UInt8) : Char := if b < 128 then Char.ofNat b.toNat else replacement

/-- Decodes octets; `name` is the name the character set was asked for by. -/
def Codec.decode (codec : Codec) (name : String) (bytes : List UInt8) : Except CharsetProblem (List Char) :=
  match codec with
  | .utf8 => .ok (decodeUtf8 bytes)
  | .utf8Signed =>
    match bytes with
    | 0xEF :: 0xBB :: 0xBF :: r => .ok (decodeUtf8 r)
    | _ => .ok (decodeUtf8 bytes)
  | .utf16 big => .ok (decodeUtf16 big bytes)
  | .utf32 big => .ok (decodeUtf32 big bytes)
  | .utf7 => .ok (decodeUtf7 bytes)
  | .ascii => .ok (bytes.map asciiChar)
  | .latin1 => .ok (bytes.map fun b => Char.ofNat b.toNat)
  | .upper chars =>
    let table := chars.toList.toArray
    .ok (bytes.map fun b => if b < 128 then Char.ofNat b.toNat else tableChar table 128 b)
  | .full chars =>
    let table := chars.toList.toArray
    .ok (bytes.map (tableChar table 0))
  | .escaped => .ok (decodeEscaped bytes)
  | .rawEscaped => .ok (decodeRawEscaped bytes)
  | .punycode => decodePunycode bytes
  | .idna => .error (.idna name)
  | .undefined => .error (.undefined name)
  | .multibyte _ singles => .ok (bytes.map fun b => (singles.lookup b.toNat).getD (asciiChar b))

def allOctets : List UInt8 := (List.range 256).map UInt8.ofNat

/-- The characters that the 256 octets in order give, if there are as many. -/
def Codec.table (codec : Codec) (name : String) : Except Fault (Array Char) :=
  match codec with
  | .multibyte size _ => if size = 256 then fromOctets else .error .multibyteEncoding
  | _ => fromOctets
where
  fromOctets : Except Fault (Array Char) :=
    match codec.decode name allOctets with
    | .error problem => .error (.charset problem)
    | .ok chars => if chars.length = 256 then .ok chars.toArray else .error .multibyteEncoding

end MailboxSync.Charset
