import MailboxSync.Charset.Decode
import MailboxSync.Note
import MailboxSync.Text.Blank
import MailboxSync.Text.Fold

/-!
# Content types

`responseCharset` is the character set a content type names, `utf-8` if it names none that can be decoded.
-/

namespace MailboxSync

/-- The character set of a response that names none. -/
def defaultCharset : String := "utf-8"

/-- The character set a parameter names: blanks and then quotes around the value are dropped. -/
def charsetOfPart? (part : String) : Option String :=
  if Text.foldStartsWith part "charset=" then
    let value := (part.toList.dropWhile (· ≠ '=')).drop 1
    some (String.ofList (Text.trimChars (· = '"') (Text.trimChars Text.isBlank value)))
  else none

/-- The character set of a content type, and the notes on it.  Only a null character in the name is a fault. -/
def responseCharset (contentType : Option String) : Except Fault (String × List Note) :=
  match contentType with
  | none | some "" => .ok (defaultCharset, [⟨.debug, "No Content-Type on response, falling back to utf-8"⟩])
  | some text =>
    let parts := Text.splitAt ';' (String.ofList (text.toList.filter (· ≠ ' ')))
    let given := Text.quoted text
    match parts.findSome? charsetOfPart? with
    | none =>
      .ok (defaultCharset, [⟨.debug, s!"Could not find charset in Content-Type {given}, falling back to utf-8"⟩])
    | some name =>
      if name.contains '\x00' then .error .embeddedNull
      else
        match Charset.lookup name with
        | some (.charset _) => .ok (name, [])
        | _ =>
          let shown := Text.quoted name
          .ok (defaultCharset, [⟨.debug, s!"Charset {shown} from Content-Type {given} is not supported"⟩])

/-- Decodes octets in the character set of a name. -/
def decodeIn (name : String) (bytes : List UInt8) : Except Fault String :=
  match Charset.lookup name with
  | some (.charset codec) =>
    match codec.decode name bytes with
    | .ok cs => .ok (String.ofList cs)
    | .error problem => .error (.charset problem)
  | _ => .error (.unknownEncoding name)

end MailboxSync
