import MailboxSync.Xml.Content

/-!
# Namespaces

Resolves the names of tokens and checks what concerns a document as a whole: elements nest, there is one root, and
only blanks stand beside it.

* `Scope` — the bindings in force, innermost first;
* `Scope.declare` — takes in the declarations among an element's attributes;
* `Resolver.step` — one token.
-/

namespace MailboxSync.Xml

/-- The namespace the prefix `xml` is bound to. -/
def xmlSpace : String := "http://www.w3.org/XML/1998/namespace"

/-- The namespace of declarations, which no prefix may be bound to. -/
def xmlnsSpace : String := "http://www.w3.org/2000/xmlns/"

/-- Prefixes and their namespaces, innermost first; the empty prefix has the default namespace. -/
abbrev Scope := List (String × String)

namespace Scope

/-- The bindings outside the root. -/
def initial : Scope := [("xml", xmlSpace)]

def declared? (name : RawName) : Option String :=
  if name.lead = "" && name.tag = "xmlns" then some ""
  else if name.lead = "xmlns" then some name.tag
  else none

/-- Whether a prefix may be bound to a namespace.  The namespace must not hold the brace that ends it in a name. -/
def mayBind (lead space : String) : Bool :=
  (space ≠ "" || lead = "") && lead ≠ "xmlns" && ((lead = "xml") = (space = xmlSpace)) && space ≠ xmlnsSpace &&
    !space.toList.contains '\x7d'

/-- Takes in the declarations among attributes. -/
def declare (scope : Scope) : List RawAttr → Option Scope
  | [] => some scope
  | (name, value) :: attrs =>
    match declared? name with
    | none => declare scope attrs
    | some lead => if mayBind lead value then declare ((lead, value) :: scope) attrs else none

/-- The name of an element.  Without a prefix it is in the default namespace. -/
def element (scope : Scope) (name : RawName) : Option Name :=
  match scope.lookup name.lead with
  | some space => some ⟨space, name.tag⟩
  | none => if name.lead = "" then some ⟨"", name.tag⟩ else none

/-- The attributes that are no declarations.  Without a prefix they are in no namespace. -/
def attributes (scope : Scope) : List RawAttr → Option (List Attr)
  | [] => some []
  | (name, value) :: attrs =>
    if (declared? name).isSome then attributes scope attrs
    else if name.lead = "" then (attributes scope attrs).map ((⟨"", name.tag⟩, value) :: ·)
    else
      match scope.lookup name.lead with
      | none => none
      | some space => (attributes scope attrs).map ((⟨space, name.tag⟩, value) :: ·)

end Scope

/-- The elements that are open, with the bindings inside each, innermost first; whether the root has begun; and the
pieces found, newest first. -/
structure Resolver where
  opened : List (RawName × Scope) := []
  rooted : Bool := false
  found : List Piece := []
  deriving Repr

namespace Resolver

def scope (r : Resolver) : Scope :=
  match r.opened with
  | [] => Scope.initial
  | (_, s) :: _ => s

def step (r : Resolver) : Token → Option Resolver
  | .char c =>
    if r.opened.isEmpty then (if isSpace c then some r else none) else some { r with found := .char c :: r.found }
  | .inside => if r.opened.isEmpty then none else some r
  | .stop name =>
    match r.opened with
    | (n, _) :: above => if n = name then some { r with opened := above, found := .stop :: r.found } else none
    | [] => none
  | .start name attrs =>
    if r.rooted && r.opened.isEmpty then none
    else
      match r.scope.declare attrs with
      | none => none
      | some scope =>
        match scope.element name, scope.attributes attrs with
        | some n, some as =>
          if (as.map (·.1)).Nodup then
            some { opened := (name, scope) :: r.opened, rooted := true, found := .start n as :: r.found }
          else none
        | _, _ => none

end Resolver

def Content.ofTokens (tokens : List Token) : Option Content :=
  match tokens.foldlM Resolver.step {} with
  | some r => if r.rooted && r.opened.isEmpty then Content.ofPieces r.found.reverse else none
  | none => none

end MailboxSync.Xml
