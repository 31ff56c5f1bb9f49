import MailboxSync.Xml.Writer

/-!
# Names of the service's documents
-/

namespace MailboxSync.Soap

open Xml

/-- The namespaces of envelopes, of types and of messages. -/
def soapSpace : String := "http://schemas.xmlsoap.org/soap/envelope/"
def typesSpace : String := "http://schemas.microsoft.com/exchange/services/2006/types"
def messagesSpace : String := "http://schemas.microsoft.com/exchange/services/2006/messages"

/-- A name of each of them. -/
def soap (tag : String) : Name := ⟨soapSpace, tag⟩
def typ (tag : String) : Name := ⟨typesSpace, tag⟩
def msg (tag : String) : Name := ⟨messagesSpace, tag⟩

def idName : Name := ⟨"", "Id"⟩

def prefixes : Prefixes := [("m", messagesSpace), ("soap", soapSpace), ("t", typesSpace)]

def node (name : Name) (children : List Element) (attrs : List Attr) : Element :=
  ⟨name, attrs, .ofElements children⟩

def leaf (name : Name) (text : String) : Element := ⟨name, [], .ofText text.toList⟩

def idElement (name : Name) (id : String) : Element := ⟨name, [(idName, id)], .done⟩

/-- The id an element holds, unless it is empty. -/
def id? (e : Element) : Option String :=
  match e.attr? idName with
  | some id => if id = "" then none else some id
  | none => none

def childText? (e : Element) (name : Name) : Option String := (e.child? name).map Element.text

/-- An envelope with a header, if there is one, and a body. -/
def envelope (header : List Element) (body : List Element) : Element :=
  node (soap "Envelope") (header ++ [node (soap "Body") body []]) []

end MailboxSync.Soap
