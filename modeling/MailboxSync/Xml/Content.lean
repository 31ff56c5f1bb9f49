import MailboxSync.Xml.Token

/-!
# Content

* `Content` — characters and elements one after the other; the content of an element is again a `Content`, so one
  inductive type holds whole documents;
* `Content.ofTokens` — puts the tokens of balanced markup together, from the last to the first;
* queries on the children of an element: `elements`, `child?`, `children`, `text`.
-/

namespace MailboxSync.Xml

/-- A name resolved: the namespace, empty if there is none, and the name in it. -/
structure Name where
  space : String := ""
  tag : String
  deriving DecidableEq, Repr, Inhabited

def Name.text (n : Name) : String := if n.space = "" then n.tag else "\x7b" ++ n.space ++ "\x7d" ++ n.tag

abbrev Attr := Name × String

/-- Characters and elements one after the other. -/
inductive Content where
  | done
  | char (c : Char) (rest : Content)
  | element (name : Name) (attrs : List Attr) (inner rest : Content)
  deriving DecidableEq, Repr, Inhabited

/-- An element without its place. -/
structure Element where
  name : Name
  attrs : List Attr := []
  inner : Content := .done
  deriving DecidableEq, Repr, Inhabited

namespace Content

def leading : Content → List Char
  | done => []
  | char c rest => c :: leading rest
  | element .. => []

/-- The elements, without what stands inside them. -/
def elements : Content → List Element
  | done => []
  | char _ rest => elements rest
  | element name attrs inner rest => ⟨name, attrs, inner⟩ :: elements rest

def append : Content → Content → Content
  | done, k => k
  | char c rest, k => char c (append rest k)
  | element name attrs inner rest, k => element name attrs inner (append rest k)

def ofText (cs : List Char) : Content := cs.foldr char done

def ofElements (es : List Element) : Content := es.foldr (fun e k => element e.name e.attrs e.inner k) done

theorem elements_ofElements (es : List Element) : (ofElements es).elements = es := by
  induction es with
  | nil => rfl
  | cons e es ih => simp only [ofElements, List.foldr_cons] at ih ⊢; simp [elements, ih]

theorem leading_ofText (cs : List Char) : (ofText cs).leading = cs := by
  induction cs with
  | nil => rfl
  | cons c cs ih => simp only [ofText, List.foldr_cons] at ih ⊢; simp [leading, ih]

theorem elements_append (a b : Content) : (a.append b).elements = a.elements ++ b.elements := by
  induction a with
  | done => rfl
  | char c rest ih => simpa [append, elements] using ih
  | element name attrs inner rest _ ih => simp [append, elements, ih]

end Content

namespace Element

def elements (e : Element) : List Element := e.inner.elements

def children (e : Element) (name : Name) : List Element := e.elements.filter (·.name = name)

def child? (e : Element) (name : Name) : Option Element := e.elements.find? (·.name = name)

def text (e : Element) : String := String.ofList e.inner.leading

def attr? (e : Element) (name : Name) : Option String := e.attrs.lookup name

def content (e : Element) : Content := .element e.name e.attrs e.inner .done

end Element

/-! ## From tokens -/

/-- A piece of markup, names resolved. -/
inductive Piece where
  | char (c : Char)
  | start (name : Name) (attrs : List Attr)
  | stop
  deriving DecidableEq, Repr, Inhabited

/-- Puts one piece in front: `k` is what follows it, `above` what follows the elements around it. -/
def Piece.before : Piece → Content × List Content → Option (Content × List Content)
  | .char c, (k, above) => some (.char c k, above)
  | .stop, (k, above) => some (.done, k :: above)
  | .start name attrs, (k, next :: above) => some (.element name attrs k next, above)
  | .start .., (_, []) => none

/-- Puts pieces in front, the last one first. -/
def Content.prepend (ps : List Piece) (s : Content × List Content) : Option (Content × List Content) :=
  ps.foldr (fun p s => s.bind p.before) (some s)

/-- The content that balanced pieces make up. -/
def Content.ofPieces (ps : List Piece) : Option Content :=
  match Content.prepend ps (.done, []) with
  | some (k, []) => some k
  | _ => none

@[simp] theorem Content.prepend_nil (s : Content × List Content) : prepend [] s = some s := rfl

@[simp] theorem Content.prepend_cons (p : Piece) (ps : List Piece) (s : Content × List Content) :
    prepend (p :: ps) s = (prepend ps s).bind p.before := rfl

theorem Content.prepend_append (ps qs : List Piece) (s : Content × List Content) :
    prepend (ps ++ qs) s = (prepend qs s).bind (prepend ps) := by
  induction ps with
  | nil => cases h : prepend qs s <;> simp [h]
  | cons p ps ih => simp only [List.cons_append, prepend_cons, ih]; cases prepend qs s <;> rfl

def Content.pieces : Content → List Piece
  | done => []
  | char c rest => .char c :: pieces rest
  | element name attrs inner rest => .start name attrs :: (pieces inner ++ .stop :: pieces rest)

theorem Content.prepend_pieces (a k : Content) (above : List Content) :
    prepend a.pieces (k, above) = some (a.append k, above) := by
  induction a generalizing k above with
  | done => rfl
  | char c rest ih => simp [pieces, ih, Piece.before, append]
  | element name attrs inner rest ihi ihr =>
    have h : ∀ a : Content, a.append done = a := by
      intro a; induction a <;> simp_all [append]
    simp [pieces, prepend_append, ihr, ihi, Piece.before, append, h]

end MailboxSync.Xml
