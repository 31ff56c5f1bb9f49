import MailboxSync.Xml.Content

/-!
# Writing documents

All namespaces are declared on the root.  An element without content is written `<name />`.

* `Escapes` — how the characters of text and of attribute values are written;
* `Content.write` — content; `Document.write` — a document with its declaration.
-/

namespace MailboxSync.Xml

/-- How characters are written in text and in attribute values. -/
structure Escapes where
  text : Char → List Char
  value : Char → List Char

/-- Escapes markup. -/
def escapeMarkup (c : Char) : List Char :=
  if c = '&' then "&amp;".toList else if c = '<' then "&lt;".toList else if c = '>' then "&gt;".toList else [c]

/-- Escapes markup, quotes, line ends and tabs. -/
def escapeValue (c : Char) : List Char :=
  if c = '"' then "&quot;".toList
  else if c = '\r' then "&#13;".toList
  else if c = '\n' then "&#10;".toList
  else if c = '\t' then "&#09;".toList
  else escapeMarkup c

/-- Escapes markup and carriage returns. -/
def escapeText (c : Char) : List Char := if c = '\r' then "&#13;".toList else escapeMarkup c

/-- Text is written with its line ends as they are, so that a reader takes every line end for a line feed. -/
def Escapes.plain : Escapes := ⟨escapeMarkup, escapeValue⟩

/-- Text is written so that a reader finds every character of it. -/
def Escapes.exact : Escapes := ⟨escapeText, escapeValue⟩

/-- Namespaces with the prefixes they are written with. -/
abbrev Prefixes := List (String × String)

def Prefixes.write (ps : Prefixes) (n : Name) : List Char :=
  if n.space = "" then n.tag.toList
  else (((ps.find? fun p => p.2 = n.space).map (·.1)).getD "").toList ++ ':' :: n.tag.toList

def writeAttr (e : Escapes) (key : List Char) (value : String) : List Char :=
  ' ' :: key ++ '=' :: '"' :: value.toList.flatMap e.value ++ ['"']

def writeAttrs (e : Escapes) (ps : Prefixes) (attrs : List Attr) : List Char :=
  attrs.flatMap fun a => writeAttr e (ps.write a.1) a.2

def Prefixes.declarations (e : Escapes) (ps : Prefixes) : List Char :=
  ps.flatMap fun p => writeAttr e ("xmlns:".toList ++ p.1.toList) p.2

/-- An element as written, from its name, everything in its start tag after the name, and its content. -/
def wrap (name attrs inner : List Char) : List Char :=
  if inner.isEmpty then '<' :: name ++ attrs ++ " />".toList
  else '<' :: name ++ attrs ++ '>' :: inner ++ '<' :: '/' :: name ++ ['>']

def Content.write (e : Escapes) (ps : Prefixes) : Content → List Char
  | .done => []
  | .char c rest => e.text c ++ rest.write e ps
  | .element name attrs inner rest =>
    wrap (ps.write name) (writeAttrs e ps attrs) (inner.write e ps) ++ rest.write e ps

namespace Document

def declaration : List Char := "<?xml version=\"1.0\" encoding=\"utf-8\"?>".toList

/-- A document as written: its declaration, and the root with the declarations of all namespaces. -/
def write (e : Escapes) (ps : Prefixes) (root : Element) : String :=
  String.ofList (declaration ++
    wrap (ps.write root.name) (ps.declarations e ++ writeAttrs e ps root.attrs) (root.inner.write e ps))

end Document

end MailboxSync.Xml
