import MailboxSync.Xml.Doctype
import MailboxSync.Xml.Encoding
import MailboxSync.Xml.Lines
import MailboxSync.Xml.Namespace

/-!
# Documents

`Document.read` reads the octets of a document: characters, document type, tokens, content.  It gives the root, or
nothing if the document is not well-formed.  Only the name of an encoding can be a fault.
-/

namespace MailboxSync.Xml.Document

/-- The content of a text whose line ends have been normalized. -/
def ofChars (standalone : Bool) (cs : List Char) : Option Content :=
  match Doctype.locate (cs.length + 1) [] cs with
  | none => (Token.ofChars .none cs).bind Content.ofTokens
  | some (before, after) =>
    match Doctype.read standalone after with
    | none => none
    | some (d, rest) => (Token.ofChars d.toDeclarations (before ++ rest)).bind Content.ofTokens

def read (bytes : List UInt8) : Except Fault (Option Element) :=
  match decodeDocument bytes with
  | .error fault => .error fault
  | .ok none => .ok none
  | .ok (some (cs, standalone)) =>
    .ok ((ofChars standalone (normalizeLines cs)).bind fun content => content.elements.head?)

end MailboxSync.Xml.Document
