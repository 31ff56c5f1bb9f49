import MailboxSync.Xml.Name
import MailboxSync.Text.Decimal
import MailboxSync.Text.Hex

/-!
# Tokens

The markup of a document read character by character, names as written.

* `Token` — what the reader finds: characters, the start and the end of an element, and marks for what may only stand
  inside an element;
* `Declarations` — what the reader has to know from the document type: the replacement of entities, in content and in
  attribute values, and how the attributes of an element are completed;
* `Scan.step` — one character; `Token.ofChars` runs it over a text.

Reading is a fold, so reading `a ++ b` is reading `a` and then `b`.  Anything that breaks a rule of the grammar gives
nothing.
-/

namespace MailboxSync.Xml

abbrev RawAttr := RawName × String

/-- What a document is made of before names are resolved. -/
inductive Token where
  | char (c : Char)
  | start (name : RawName) (attrs : List RawAttr)
  | stop (name : RawName)
  /-- A reference or a section that may only stand inside an element. -/
  | inside
  deriving DecidableEq, Repr, Inhabited

/-- What the reader has to know from the document type. -/
structure Declarations where
  /-- The tokens an entity stands for in content. -/
  content : String → Option (List Token)
  /-- The characters an entity stands for in an attribute value. -/
  value : String → Option (List Char)
  /-- Adds attributes with default values and cleans the values of tokenized ones. -/
  complete : RawName → List RawAttr → List RawAttr

/-- The declarations of a document without a document type. -/
def Declarations.none : Declarations where
  content _ := .none
  value _ := .none
  complete _ attrs := attrs

/-! ## References -/

/-- What stands between `&` and `;`. -/
inductive Reference where
  | char (c : Char)
  | entity (name : String)
  deriving DecidableEq, Repr

/-- The character with a number, if it may stand in a document. -/
def charOfCode? (n : Nat) : Option Char := if isXmlCode n then some (Char.ofNat n) else none

/-- The five entities that need no declaration. -/
def predefined? (name : String) : Option Char :=
  if name = "lt" then some '<'
  else if name = "gt" then some '>'
  else if name = "amp" then some '&'
  else if name = "apos" then some '\''
  else if name = "quot" then some '"'
  else none

def Reference.ofChars? (cs : List Char) : Option Reference :=
  match cs with
  | '#' :: 'x' :: hex => ((Text.hexNumber? hex).bind charOfCode?).map .char
  | '#' :: dec => ((Decimal.number? dec).bind charOfCode?).map .char
  | _ =>
    if isPlainName cs then
      let name := String.ofList cs
      match predefined? name with
      | some c => some (.char c)
      | none => some (.entity name)
    else none

/-- The tokens a reference stands for in content. -/
def Declarations.contentOf (d : Declarations) (cs : List Char) : Option (List Token) :=
  match Reference.ofChars? cs with
  | some (.char c) => some [.inside, .char c]
  | some (.entity name) => (d.content name).map (.inside :: ·)
  | .none => .none

/-- The characters a reference stands for in an attribute value. -/
def Declarations.valueOf (d : Declarations) (cs : List Char) : Option (List Char) :=
  match Reference.ofChars? cs with
  | some (.char c) => some [c]
  | some (.entity name) => d.value name
  | .none => .none

/-! ## The reader's state -/

/-- Where the reader is.  Lists of characters and attributes are kept newest first. -/
inductive Mode where
  /-- In text; the number of brackets just read, two of which must not come before `>`. -/
  | text (brackets : Nat)
  | textRef (chars : List Char)
  | opening
  | startName (chars : List Char)
  /-- In a start tag after a blank. -/
  | tag (name : RawName) (attrs : List RawAttr)
  | attrName (name : RawName) (attrs : List RawAttr) (chars : List Char)
  | equals (name : RawName) (attrs : List RawAttr) (key : RawName)
  | quote (name : RawName) (attrs : List RawAttr) (key : RawName)
  | value (name : RawName) (attrs : List RawAttr) (key : RawName) (mark : Char) (chars : List Char)
  | valueRef (name : RawName) (attrs : List RawAttr) (key : RawName) (mark : Char) (chars ref : List Char)
  | valueEnd (name : RawName) (attrs : List RawAttr)
  | slash (name : RawName) (attrs : List RawAttr)
  | endName (chars : List Char)
  | endBlank (name : RawName)
  /-- After `<!` and some characters. -/
  | bang (chars : List Char)
  /-- In a comment, with the number of dashes just read. -/
  | comment (dashes : Nat)
  /-- In a section of literal text, with the number of brackets just read. -/
  | literal (brackets : Nat)
  | piTarget (chars : List Char)
  | piMark
  /-- In a processing instruction; whether a question mark was just read. -/
  | piBody (mark : Bool)
  deriving Repr

/-- The reader's state: where it is, and the tokens found, newest first. -/
structure Scan where
  mode : Mode := .text 0
  found : List Token := []
  deriving Repr

namespace Scan

def go (s : Scan) (mode : Mode) : Scan := { s with mode }

def emit (s : Scan) (tokens : List Token) (mode : Mode) : Scan := ⟨mode, tokens.reverse ++ s.found⟩

/-- Ends a start tag.  No attribute may stand in it twice. -/
def endTag (d : Declarations) (s : Scan) (name : RawName) (attrs : List RawAttr) (empty : Bool) : Option Scan :=
  if (attrs.map (·.1)).Nodup then
    let start := Token.start name (d.complete name attrs.reverse)
    some (s.emit (if empty then [start, .stop name] else [start]) (.text 0))
  else none

/-- What follows a name or a value in a start tag: a blank, `>` or `/`. -/
def afterPart (d : Declarations) (s : Scan) (name : RawName) (attrs : List RawAttr) (c : Char) : Option Scan :=
  if isSpace c then some (s.go (.tag name attrs))
  else if c = '>' then s.endTag d name attrs false
  else if c = '/' then some (s.go (.slash name attrs))
  else none

/-- Literal brackets. -/
def brackets (n : Nat) : List Token := List.replicate n (.char ']')

/-- Whether a name is `xml` in any case, which no processing instruction may be called. -/
def isReservedTarget (cs : List Char) : Bool := cs.map Char.toLower = ['x', 'm', 'l']

def step (d : Declarations) (s : Scan) (c : Char) : Option Scan :=
  match s.mode with
  | .text n =>
    if c = '<' then some (s.go .opening)
    else if c = '&' then some (s.go (.textRef []))
    else if c = ']' then some (s.emit [.char c] (.text (min (n + 1) 2)))
    else if c = '>' && n = 2 then none
    else some (s.emit [.char c] (.text 0))
  | .textRef cs =>
    if c = ';' then (d.contentOf cs.reverse).map fun tokens => s.emit tokens (.text 0)
    else some (s.go (.textRef (c :: cs)))
  | .opening =>
    if c = '/' then some (s.go (.endName []))
    else if c = '!' then some (s.go (.bang []))
    else if c = '?' then some (s.go (.piTarget []))
    else if isNameStart c then some (s.go (.startName [c]))
    else none
  | .startName cs =>
    if isNameChar c || c = ':' then some (s.go (.startName (c :: cs)))
    else (RawName.ofChars? cs.reverse).bind fun name => s.afterPart d name [] c
  | .tag name attrs =>
    if isNameStart c then some (s.go (.attrName name attrs [c])) else s.afterPart d name attrs c
  | .attrName name attrs cs =>
    if isNameChar c || c = ':' then some (s.go (.attrName name attrs (c :: cs)))
    else
      (RawName.ofChars? cs.reverse).bind fun key =>
        if isSpace c then some (s.go (.equals name attrs key))
        else if c = '=' then some (s.go (.quote name attrs key))
        else none
  | .equals name attrs key =>
    if isSpace c then some s else if c = '=' then some (s.go (.quote name attrs key)) else none
  | .quote name attrs key =>
    if isSpace c then some s
    else if c = '"' || c = '\'' then some (s.go (.value name attrs key c []))
    else none
  | .value name attrs key mark cs =>
    if c = mark then some (s.go (.valueEnd name ((key, String.ofList cs.reverse) :: attrs)))
    else if c = '<' then none
    else if c = '&' then some (s.go (.valueRef name attrs key mark cs []))
    else some (s.go (.value name attrs key mark ((if isSpace c then ' ' else c) :: cs)))
  | .valueRef name attrs key mark cs ref =>
    if c = ';' then
      (d.valueOf ref.reverse).map fun more => s.go (.value name attrs key mark (more.reverse ++ cs))
    else some (s.go (.valueRef name attrs key mark cs (c :: ref)))
  | .valueEnd name attrs => s.afterPart d name attrs c
  | .slash name attrs => if c = '>' then s.endTag d name attrs true else none
  | .endName cs =>
    if isNameChar c || (c = ':' && !cs.isEmpty) then some (s.go (.endName (c :: cs)))
    else
      (RawName.ofChars? cs.reverse).bind fun name =>
        if isSpace c then some (s.go (.endBlank name))
        else if c = '>' then some (s.emit [.stop name] (.text 0))
        else none
  | .endBlank name =>
    if isSpace c then some s else if c = '>' then some (s.emit [.stop name] (.text 0)) else none
  | .bang cs =>
    let cs := cs ++ [c]
    if cs = ['-', '-'] then some (s.go (.comment 0))
    else if cs = "[CDATA[".toList then some (s.emit [.inside] (.literal 0))
    else if cs.isPrefixOf ['-', '-'] || cs.isPrefixOf "[CDATA[".toList then some (s.go (.bang cs))
    else none
  | .comment n =>
    if n = 2 then (if c = '>' then some (s.go (.text 0)) else none)
    else some (s.go (.comment (if c = '-' then n + 1 else 0)))
  | .literal n =>
    if c = ']' then (if n = 2 then some (s.emit [.char c] (.literal 2)) else some (s.go (.literal (n + 1))))
    else if c = '>' && n = 2 then some (s.go (.text 0))
    else some (s.emit (brackets n ++ [.char c]) (.literal 0))
  | .piTarget cs =>
    if isNameChar c then some (s.go (.piTarget (c :: cs)))
    else if !isPlainName cs.reverse || isReservedTarget cs.reverse then none
    else if c = '?' then some (s.go .piMark)
    else if isSpace c then some (s.go (.piBody false))
    else none
  | .piMark => if c = '>' then some (s.go (.text 0)) else none
  | .piBody mark => if c = '>' && mark then some (s.go (.text 0)) else some (s.go (.piBody (c = '?')))

/-- The tokens of a text that has been read to its end. -/
def finish (s : Scan) : Option (List Token) :=
  match s.mode with
  | .text _ => some s.found.reverse
  | _ => none

end Scan

def Token.ofChars (d : Declarations) (cs : List Char) : Option (List Token) :=
  (cs.foldlM (Scan.step d) {}).bind Scan.finish

end MailboxSync.Xml
