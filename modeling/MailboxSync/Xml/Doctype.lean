import MailboxSync.Xml.Token

/-!
# The document type

The part of a document type that stands in the document itself.

* `Doctype` — what it declares: entities, attributes with their defaults, and whether some declarations may be missing
  because they stand elsewhere;
* `Lexeme` — its words;
* `Doctype.read` — reads one, from after `<!DOCTYPE` to its end, and gives the rest.

Only entities with a text of their own are replaced.  The declaration of a parameter entity is checked and forgotten,
and once one has been referred to, later declarations of entities and attributes count for nothing unless the
document stands alone.

An entity that stands for too much text is not replaced (`sizeLimit`).  This is simpler than the guard of the readers in
use, which bounds all entities together: they give up on a document once its replaced text takes more than 8 MiB and is
over a hundred times as long as what was read directly.  So of the documents that blow up some are refused by one of the
two rules only.
-/

namespace MailboxSync.Xml

/-- What an entity stands for; one that stands outside the document cannot be replaced. -/
inductive Entity where
  | text (chars : List Char)
  | elsewhere
  deriving DecidableEq, Repr

/-- The declaration of an attribute. -/
structure AttrRule where
  element : RawName
  attr : RawName
  /-- Whether blanks of a value are collapsed. -/
  tokenized : Bool
  /-- The value of an attribute that is not given. -/
  fallback : Option (List Char)
  deriving DecidableEq, Repr

/-- What a document type declares, oldest first; of two declarations of one thing the first counts. -/
structure Doctype where
  entities : List (String × Entity) := []
  rules : List AttrRule := []
  /-- Whether there may be declarations elsewhere. -/
  incomplete : Bool := false
  /-- Whether the document says that it needs no declarations from elsewhere. -/
  standalone : Bool := false
  /-- Whether declarations still count. -/
  counting : Bool := true
  deriving Repr

namespace Doctype

/-- What an entity stands for. -/
def entity? (d : Doctype) (name : String) : Option Entity := d.entities.lookup name

/-- Whether a reference to an undeclared entity is an error; else it stands for nothing. -/
def strict (d : Doctype) : Bool := !d.incomplete || d.standalone

/-- The first declaration of an attribute. -/
def rule? (d : Doctype) (element attr : RawName) : Option AttrRule :=
  d.rules.find? fun r => r.element = element && r.attr = attr

/-- Drops blanks at both ends and all but one of blanks in a row; only the space counts as blank. -/
def collapse (cs : List Char) : List Char :=
  let kept := cs.foldl (fun acc c => if c = ' ' && (acc.isEmpty || acc.head? = some ' ') then acc else c :: acc) []
  (if kept.head? = some ' ' then kept.tail else kept).reverse

/-- Completes the attributes of an element: tokenized values are collapsed, defaults added in declaration order. -/
def complete (d : Doctype) (element : RawName) (attrs : List RawAttr) : List RawAttr :=
  let given := attrs.map fun (attr, value) =>
    match d.rule? element attr with
    | some ⟨_, _, true, _⟩ => (attr, String.ofList (collapse value.toList))
    | _ => (attr, value)
  d.rules.foldl (fun acc r =>
    if r.element = element && !(acc.any fun a => a.1 = r.attr) && d.rule? element r.attr = some r then
      match r.fallback with
      | some v => acc ++ [(r.attr, String.ofList v)]
      | none => acc
    else acc) given

/-! ## Entities -/

/-- More text than this no entity may stand for by itself. -/
def sizeLimit : Nat := 8388608

/-- The names of the entities that a text refers to, and the number of its other characters. -/
def references (d : Doctype) (cs : List Char) : List String × Nat :=
  let step := fun (s : Option (List Char) × List String × Nat) (c : Char) =>
    match s with
    | (none, names, n) => if c = '&' then (some [], names, n) else (none, names, n + 1)
    | (some ref, names, n) =>
      if c = ';' then
        let name := String.ofList ref.reverse
        if (d.entity? name).isSome then (none, name :: names, n) else (none, names, n + 1)
      else (some (c :: ref), names, n)
  (cs.foldl step (none, [], 0)).2

/-- How long entities get when references are replaced to a depth, with the limit as ceiling. -/
def sizes (d : Doctype) : (depth : Nat) → List (String × Nat)
  | 0 => d.entities.map fun e => (e.1, 0)
  | depth + 1 =>
    let inner := sizes d depth
    d.entities.map fun e =>
      match e.2 with
      | .elsewhere => (e.1, 0)
      | .text cs =>
        let (names, n) := references d cs
        (e.1, min (sizeLimit + 1) (names.foldl (fun acc name => acc + (inner.lookup name).getD 0) n))

/-- The entities that stand for too much text. -/
def oversized (d : Doctype) : List String :=
  ((sizes d d.entities.length).filter fun e => sizeLimit < e.2).map (·.1)

/-- Whether tokens close every element they open, and open every element they close. -/
def balanced (tokens : List Token) : Bool :=
  let step := fun (depth : Option Nat) (t : Token) =>
    match t, depth with
    | .start .., some n => some (n + 1)
    | .stop _, some (n + 1) => some n
    | .stop _, some 0 => none
    | _, n => n
  tokens.foldl step (some 0) = some 0

/-- One character of the text an entity stands for in an attribute value; `ref` holds a reference under way. -/
def valueStep (d : Declarations) (s : Option (List Char) × List Char) (c : Char) :
    Option (Option (List Char) × List Char) :=
  match s with
  | (some ref, acc) =>
    if c = ';' then (d.valueOf ref.reverse).map fun more => (none, more.reverse ++ acc) else some (some (c :: ref), acc)
  | (none, acc) =>
    if c = '<' then none
    else if c = '&' then some (some [], acc)
    else some (none, (if isSpace c then ' ' else c) :: acc)

/-- The characters of a text in an attribute value. -/
def valueText (d : Declarations) (cs : List Char) : Option (List Char) :=
  match cs.foldlM (valueStep d) (none, []) with
  | some (none, acc) => some acc.reverse
  | _ => none

/-- What the reader has to know of a document type.  `depth` bounds how deep entities may refer to one another, `busy`
are the entities being replaced. -/
def declarations (d : Doctype) : (depth : Nat) → (busy : List String) → Declarations
  | 0, _ => { content := fun _ => none, value := fun _ => none, complete := d.complete }
  | depth + 1, busy =>
    { complete := d.complete
      content := fun name =>
        if busy.contains name then none
        else
          match d.entity? name with
          | some (.text cs) =>
            match Token.ofChars (declarations d depth (name :: busy)) cs with
            | some tokens => if balanced tokens then some tokens else none
            | none => none
          | _ => none
      value := fun name =>
        if busy.contains name then none
        else
          match d.entity? name with
          | some (.text cs) => valueText (declarations d depth (name :: busy)) cs
          | some .elsewhere => none
          | none => if d.strict then none else some [] }

/-- What the reader has to know of a complete document type. -/
def toDeclarations (d : Doctype) : Declarations := d.declarations (d.entities.length + 1) d.oversized

/-! ## Words -/

/-- How often a part of an element may come. -/
inductive Quantity where
  | one
  | optional
  | any
  | some
  deriving DecidableEq, Repr

/-- The words of a document type. -/
inductive Lexeme where
  /-- `<!` and a keyword. -/
  | declare (keyword : String)
  | name (name : RawName) (quantity : Quantity)
  /-- Name characters that are no name. -/
  | nmtoken (text : String)
  | keyword (text : String)
  | quoted (chars : List Char)
  | openParen
  | closeParen (quantity : Quantity)
  | comma
  | bar
  | percent
  | parameter (name : String)
  | openBracket
  | closeBracket
  | close
  /-- A comment or a processing instruction. -/
  | aside
  deriving DecidableEq, Repr

def endsWord (more : List Char) (rest : List Char) : Bool :=
  match rest with
  | [] => false
  | c :: _ => isSpace c || more.contains c

/-- The text up to the first occurrence of `mark`, and what follows it. -/
def cutAt (mark : List Char) : List Char → Option (List Char × List Char)
  | [] => none
  | c :: cs =>
    if mark.isPrefixOf (c :: cs) then some ([], (c :: cs).drop mark.length)
    else (cutAt mark cs).map fun (before, after) => (c :: before, after)

def quantityOf (cs : List Char) : Quantity × List Char :=
  match cs with
  | '?' :: r => (.optional, r)
  | '*' :: r => (.any, r)
  | '+' :: r => (.some, r)
  | r => (.one, r)

/-- Whether a text with its markup is one comment or processing instruction. -/
def isAside (cs : List Char) : Bool := (Token.ofChars .none cs).isSome

def wordLexeme (cs : List Char) : Option (Lexeme × List Char) :=
  let word := cs.takeWhile fun c => isNameChar c || c = ':'
  let rest := cs.dropWhile fun c => isNameChar c || c = ':'
  let lead := word.takeWhile (· ≠ ':')
  let tag := (word.dropWhile (· ≠ ':')).drop 1
  let name? :=
    if word.contains ':' then
      if isPlainName lead && !tag.isEmpty && tag.all isNameChar then some ⟨String.ofList lead, String.ofList tag⟩
        else none
    else if isPlainName word then some (RawName.mk "" (String.ofList word)) else none
  if word.isEmpty then none
  else
    match name? with
    | some name =>
      let (q, after) := quantityOf rest
      if q ≠ .one then some (.name name q, after)
      else if endsWord ['>', ')', ',', '|', '[', '%'] rest then some (.name name .one, rest)
      else none
    | none =>
      if endsWord ['>', ')', ',', '|', '[', '%'] rest then some (.nmtoken (String.ofList word), rest) else none

/-- Reads one word; nothing at the end of the text or if there is none. -/
def lexeme (cs : List Char) : Option (Lexeme × List Char) :=
  match cs with
  | '<' :: '!' :: '-' :: '-' :: r =>
    (cutAt ['-', '-', '>'] r).bind fun (body, rest) =>
      if isAside ("<!--".toList ++ body ++ "-->".toList) then some (.aside, rest) else none
  | '<' :: '!' :: r =>
    let word := r.takeWhile fun c => c.isAlpha || c = '_'
    let rest := r.dropWhile fun c => c.isAlpha || c = '_'
    if !word.isEmpty && endsWord [] rest then some (.declare (String.ofList word), rest) else none
  | '<' :: '?' :: r =>
    (cutAt ['?', '>'] r).bind fun (body, rest) =>
      if isAside ("<?".toList ++ body ++ "?>".toList) then some (.aside, rest) else none
  | '>' :: r => some (.close, r)
  | '[' :: r => some (.openBracket, r)
  | ']' :: ']' :: '>' :: _ => none
  | ']' :: r => some (.closeBracket, r)
  | '(' :: r => some (.openParen, r)
  | ')' :: r =>
    let (q, after) := quantityOf r
    if q ≠ .one then some (.closeParen q, after)
    else if endsWord ['>', ',', '|', ')'] r then some (.closeParen .one, r)
    else none
  | ',' :: r => some (.comma, r)
  | '|' :: r => some (.bar, r)
  | '%' :: r =>
    if endsWord ['%'] r then some (.percent, r)
    else
      let word := r.takeWhile isNameChar
      match r.dropWhile isNameChar with
      | ';' :: rest => if isPlainName word then some (.parameter (String.ofList word), rest) else none
      | _ => none
  | '#' :: r =>
    let word := r.takeWhile isNameChar
    let rest := r.dropWhile isNameChar
    if isPlainName word && endsWord [')', '>', '%', '|'] rest then some (.keyword (String.ofList word), rest) else none
  | '"' :: r =>
    (cutAt ['"'] r).bind fun (body, rest) => if endsWord ['>', '%', '['] rest then some (.quoted body, rest) else none
  | '\'' :: r =>
    (cutAt ['\''] r).bind fun (body, rest) => if endsWord ['>', '%', '['] rest then some (.quoted body, rest) else none
  | cs => wordLexeme cs

/-- The words up to the end of the document type, and the rest of the text.  The type ends at a `>` outside brackets
and declarations; `depth` counts both. -/
def lexemes : (fuel : Nat) → (depth : Nat) → (acc : List Lexeme) → List Char → Option (List Lexeme × List Char)
  | 0, _, _, _ => none
  | fuel + 1, depth, acc, cs =>
    match lexeme (cs.dropWhile isSpace) with
    | none => none
    | some (word, rest) =>
      match word with
      | .close => if depth = 0 then some (acc.reverse, rest) else lexemes fuel (depth - 1) (word :: acc) rest
      | .declare _ | .openBracket => lexemes fuel (depth + 1) (word :: acc) rest
      | .closeBracket => if depth = 0 then none else lexemes fuel (depth - 1) (word :: acc) rest
      | _ => lexemes fuel depth (word :: acc) rest

/-! ## Declarations -/

/-- The characters a public identifier may hold. -/
def isPublicId (cs : List Char) : Bool :=
  cs.all fun c => isSpace c && c ≠ '\t' || c.isAlphanum || "-'()+,./:=?;!*#@$_%".toList.contains c

/-- Reads where something stands outside the document: `SYSTEM` and an address, or `PUBLIC`, an identifier and an
address, which may be missing if `lone`. -/
def external (lone : Bool) : List Lexeme → Option (List Lexeme)
  | .name ⟨"", "SYSTEM"⟩ .one :: .quoted _ :: r => some r
  | .name ⟨"", "PUBLIC"⟩ .one :: .quoted id :: .quoted _ :: r => if isPublicId id then some r else none
  | .name ⟨"", "PUBLIC"⟩ .one :: .quoted id :: r => if lone && isPublicId id then some r else none
  | _ => none

/-- The text of an entity: references to characters are replaced now, references to entities when they are used. -/
def entityText (cs : List Char) : Option (List Char) :=
  let step := fun (s : Option (List Char) × List Char) (c : Char) =>
    match s with
    | (none, acc) =>
      if c = '%' then none else if c = '&' then some (some [], acc) else some (none, c :: acc)
    | (some ref, acc) =>
      if c = ';' then
        let cs := ref.reverse
        match cs with
        | '#' :: _ =>
          match Reference.ofChars? cs with
          | some (.char c) => some (none, c :: acc)
          | _ => none
        | _ => if isPlainName cs then some (none, (';' :: ref ++ ['&']) ++ acc) else none
      else some (some (c :: ref), acc)
  match cs.foldlM step (none, []) with
  | some (none, acc) => some acc.reverse
  | _ => none

/-- Records an entity, unless it is known or declarations no longer count. -/
def addEntity (d : Doctype) (name : String) (e : Entity) : Doctype :=
  if d.counting && (d.entity? name).isNone then { d with entities := d.entities ++ [(name, e)] } else d

/-- Reads the declaration of an entity, after its keyword. -/
def entityDecl (d : Doctype) : List Lexeme → Option (Doctype × List Lexeme)
  | .percent :: .name ⟨"", _⟩ .one :: .quoted text :: .close :: r =>
    if d.counting && (entityText text).isNone then none else some (d, r)
  | .percent :: .name ⟨"", _⟩ .one :: r =>
    match external false r with
    | some (.close :: r) => some (d, r)
    | _ => none
  | .name ⟨"", name⟩ .one :: .quoted text :: .close :: r =>
    if d.counting then (entityText text).map fun cs => (d.addEntity name (.text cs), r) else some (d, r)
  | .name ⟨"", name⟩ .one :: r =>
    match external false r with
    | some (.close :: r) => some (d.addEntity name .elsewhere, r)
    | some (.name ⟨"", "NDATA"⟩ .one :: .name ⟨"", _⟩ .one :: .close :: r) =>
        some (d.addEntity name .elsewhere, r)
    | _ => none
  | _ => none

/-- Reads the rest of a list of alternatives; `plain` says what may be one. -/
def alternatives (plain : Lexeme → Bool) : List Lexeme → Option (List Lexeme)
  | word :: .bar :: r => if plain word then alternatives plain r else none
  | word :: .closeParen .one :: r => if plain word then some r else none
  | _ => none

/-- Reads the type of an attribute: whether it is tokenized. -/
def attrType : List Lexeme → Option (Bool × List Lexeme)
  | .name ⟨"", "NOTATION"⟩ .one :: .openParen :: r =>
    (alternatives (fun w => match w with | .name ⟨"", _⟩ .one => true | _ => false) r).map (true, ·)
  | .openParen :: r =>
    (alternatives (fun w => match w with | .name _ .one => true | .nmtoken _ => true | _ => false) r).map (true, ·)
  | .name ⟨"", "CDATA"⟩ .one :: r => some (false, r)
  | .name ⟨"", name⟩ .one :: r =>
    if ["ID", "IDREF", "IDREFS", "ENTITY", "ENTITIES", "NMTOKEN", "NMTOKENS"].contains name then some (true, r)
      else none
  | _ => none

/-- Records the declaration of an attribute, with the text of its default. -/
def addRule (d : Doctype) (element attr : RawName) (tokenized : Bool) (text : Option (List Char)) : Option Doctype :=
  if !d.counting then some d
  else
    match text with
    | none => some { d with rules := d.rules ++ [⟨element, attr, tokenized, none⟩] }
    | some cs =>
      (valueText d.toDeclarations cs).map fun value =>
        { d with rules :=
          d.rules ++ [⟨element, attr, tokenized, some (if tokenized then collapse value else value)⟩] }

/-- Reads the declarations of the attributes of an element. -/
def attrDecls (element : RawName) : (fuel : Nat) → Doctype → List Lexeme → Option (Doctype × List Lexeme)
  | 0, _, _ => none
  | fuel + 1, d, ws =>
    match ws with
    | .close :: r => some (d, r)
    | .name attr .one :: r =>
      match attrType r with
      | none => none
      | some (tokenized, r) =>
        let next := fun (text : Option (List Char)) (r : List Lexeme) =>
          (d.addRule element attr tokenized text).bind fun d => attrDecls element fuel d r
        match r with
        | .keyword "IMPLIED" :: r => next none r
        | .keyword "REQUIRED" :: r => next none r
        | .keyword "FIXED" :: .quoted text :: r => next (some text) r
        | .quoted text :: r => next (some text) r
        | _ => none
    | _ => none

/-- Reads the names of mixed content, after `#PCDATA`. -/
def mixedContent : List Lexeme → Option (List Lexeme)
  | .bar :: .name _ .one :: r => mixedContent r
  | .closeParen .any :: r => some r
  | _ => none

/-- Reads the parts of an element's content, after an opening parenthesis.  `open_` holds the separator of every open
group, innermost first, none if it has not been seen. -/
def groupContent : (fuel : Nat) → (groups : List (Option Lexeme)) → List Lexeme → Option (List Lexeme)
  | 0, _, _ => none
  | fuel + 1, groups, ws =>
    match ws with
    | .openParen :: r => groupContent fuel (none :: groups) r
    | .name _ _ :: r => afterPart fuel groups r
    | _ => none
where
  afterPart : (fuel : Nat) → List (Option Lexeme) → List Lexeme → Option (List Lexeme)
    | 0, _, _ => none
    | fuel + 1, group :: groups, .closeParen _ :: r =>
      let _ := group
      if groups.isEmpty then some r else afterPart fuel groups r
    | fuel + 1, group :: groups, separator :: r =>
      if separator = .comma || separator = .bar then
        if group = none || group = some separator then groupContent fuel (some separator :: groups) r else none
      else none
    | _ + 1, _, _ => none

/-- Reads the declaration of an element's content, after its name. -/
def elementDecl (ws : List Lexeme) : Option (List Lexeme) :=
  let rest? := match ws with
    | .name ⟨"", "EMPTY"⟩ .one :: r => some r
    | .name ⟨"", "ANY"⟩ .one :: r => some r
    | .openParen :: .keyword "PCDATA" :: .closeParen .one :: r => some r
    | .openParen :: .keyword "PCDATA" :: r => mixedContent r
    | .openParen :: r => groupContent (2 * r.length + 2) [none] r
    | _ => none
  match rest? with
  | some (.close :: r) => some r
  | _ => none

/-- Reads the declarations in brackets, up to the closing one. -/
def subset : (fuel : Nat) → Doctype → List Lexeme → Option (Doctype × List Lexeme)
  | 0, _, _ => none
  | fuel + 1, d, ws =>
    match ws with
    | .closeBracket :: r => some (d, r)
    | .aside :: r => subset fuel d r
    | .parameter _ :: r => subset fuel { d with incomplete := true, counting := d.standalone } r
    | .declare "ENTITY" :: r => (entityDecl d r).bind fun (d, r) => subset fuel d r
    | .declare "ATTLIST" :: .name element .one :: r =>
      (attrDecls element (r.length + 1) d r).bind fun (d, r) => subset fuel d r
    | .declare "ELEMENT" :: .name _ .one :: r => (elementDecl r).bind fun r => subset fuel d r
    | .declare "NOTATION" :: .name ⟨"", _⟩ .one :: r =>
      match external true r with
      | some (.close :: r) => subset fuel d r
      | _ => none
    | _ => none

/-- Reads a document type, its words up to the closing one. -/
def ofLexemes (standalone : Bool) : List Lexeme → Option Doctype
  | .name _ .one :: ws =>
    let d : Doctype := { standalone }
    let (d, ws) :=
      match external false ws with
      | some ws => ({ d with incomplete := true }, ws)
      | none => (d, ws)
    match ws with
    | [] => some d
    | .openBracket :: ws =>
      match subset (ws.length + 1) d ws with
      | some (d, []) => some d
      | _ => none
    | _ => none
  | _ => none

/-- Reads a document type from after its keyword; also gives the rest of the text. -/
def read (standalone : Bool) (cs : List Char) : Option (Doctype × List Char) :=
  if endsWord [] cs then
    (lexemes (cs.length + 1) 0 [] cs).bind fun (ws, rest) => (ofLexemes standalone ws).map (·, rest)
  else none

/-- Where a document type stands: the comments and processing instructions before it, and the text after its
keyword. -/
def locate : (fuel : Nat) → (before : List Char) → List Char → Option (List Char × List Char)
  | 0, _, _ => none
  | fuel + 1, before, cs =>
    match cs with
    | '<' :: '!' :: '-' :: '-' :: r =>
      (cutAt ['-', '-', '>'] r).bind fun (body, rest) =>
        locate fuel (before ++ "<!--".toList ++ body ++ "-->".toList) rest
    | '<' :: '?' :: r =>
      (cutAt ['?', '>'] r).bind fun (body, rest) => locate fuel (before ++ "<?".toList ++ body ++ "?>".toList) rest
    | '<' :: '!' :: 'D' :: 'O' :: 'C' :: 'T' :: 'Y' :: 'P' :: 'E' :: r => some (before, r)
    | c :: r => if isSpace c then locate fuel (before ++ [c]) r else none
    | [] => none

end Doctype

end MailboxSync.Xml
