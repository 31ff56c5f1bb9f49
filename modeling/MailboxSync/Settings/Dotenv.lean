import MailboxSync.Store.Table
import MailboxSync.Text.Blank

/-!
# Files of assignments

A text of lines `NAME=value`:

* a line may begin with `export`, a name may stand in single quotes;
* a value stands in single or double quotes, with escapes, and may then go over several lines, or is the rest of the
  line up to a comment;
* a name alone has no value;
* from the first thing in a line that fits nothing the line is skipped.

In a value, a dollar sign and a name in braces stand for the value of the name, which may come with a default.
-/

namespace MailboxSync.Dotenv

/-- A blank that does not end a line. -/
def isSpace (c : Char) : Bool := Text.isBlank c && c != '\n' && c != '\r'

/-- Every line end is one line feed. -/
def unifyLines : List Char → List Char
  | [] => []
  | '\r' :: '\n' :: cs => '\n' :: unifyLines cs
  | c :: cs => (if c = '\r' then '\n' else c) :: unifyLines cs

/-- The inside of a quoted text and what comes after its closing quote.  A quote after a backslash closes the text only
if no other quote does. -/
def quotedBody (quote : Char) : List Char → Option (List Char × List Char)
  | [] => none
  | [c] => if c = quote then some ([], []) else none
  | c :: d :: cs =>
    if c = quote then some ([], d :: cs)
    else if c = '\\' && d = quote then
      match quotedBody quote cs with
      | some (body, rest) => some (c :: d :: body, rest)
      | none => some ([c], cs)
    else (quotedBody quote (d :: cs)).map fun (body, rest) => (c :: body, rest)

/-- Replaces a backslash and a character by what `escape` says of the character. -/
def unescape (escape : Char → Option Char) : List Char → List Char
  | [] => []
  | [c] => [c]
  | c :: d :: cs =>
    if c = '\\' then
      match escape d with
      | some e => e :: unescape escape cs
      | none => c :: unescape escape (d :: cs)
    else c :: unescape escape (d :: cs)

/-- The escapes between single quotes. -/
def singleEscape (c : Char) : Option Char := if c = '\\' || c = '\'' then some c else none

/-- The escapes between double quotes. -/
def doubleEscape (c : Char) : Option Char :=
  match c with
  | '\\' | '\'' | '"' => some c
  | 'a' => some '\x07'
  | 'b' => some '\x08'
  | 'f' => some '\x0c'
  | 'n' => some '\n'
  | 'r' => some '\r'
  | 't' => some '\t'
  | 'v' => some '\x0b'
  | _ => none

/-- Drops a comment, which begins with a number sign after a blank. -/
def dropComment : List Char → List Char
  | [] => []
  | c :: cs =>
    if Text.isBlank c && (cs.dropWhile Text.isBlank).head? = some '#' then [] else c :: dropComment cs

def dropBlankEnd (cs : List Char) : List Char := (cs.reverse.dropWhile Text.isBlank).reverse

/-- Something read and the rest of the text; where it cannot be read, the rest from there on. -/
abbrev Step (α : Type) := Except (List Char) (α × List Char)

def readName (cs : List Char) : Step (Option String) :=
  match cs with
  | '#' :: _ => .ok (none, cs)
  | '\'' :: rest =>
    let name := rest.takeWhile (· != '\'')
    match rest.dropWhile (· != '\'') with
    | _ :: after => if name.isEmpty then .error cs else .ok (some (String.ofList name), after)
    | [] => .error cs
  | _ =>
    let inName (c : Char) : Bool := c != '=' && c != '#' && !Text.isBlank c
    let name := cs.takeWhile inName
    if name.isEmpty then .error cs else .ok (some (String.ofList name), cs.dropWhile inName)

def readValue (cs : List Char) : Step String :=
  let quoted (quote : Char) (escape : Char → Option Char) (inside : List Char) : Step String :=
    match quotedBody quote inside with
    | some (body, rest) => .ok (String.ofList (unescape escape body), rest)
    | none => .error cs
  match cs with
  | '\'' :: inside => quoted '\'' singleEscape inside
  | '"' :: inside => quoted '"' doubleEscape inside
  | _ =>
    let line := cs.takeWhile (· != '\n')
    .ok (String.ofList (dropBlankEnd (dropComment line)), cs.dropWhile (· != '\n'))

/-- Reads what may stand at the end of a line, and the line end. -/
def readLineEnd (cs : List Char) : Step Unit :=
  let rest := cs.dropWhile isSpace
  let rest := if rest.head? = some '#' then rest.dropWhile (· != '\n') else rest
  match rest.dropWhile isSpace with
  | [] => .ok ((), [])
  | '\n' :: rest => .ok ((), rest)
  | rest => .error rest

/-- Drops `export` and the blanks after it. -/
def dropExport (cs : List Char) : List Char :=
  let word := "export".toList
  if word.isPrefixOf cs then
    let rest := cs.drop word.length
    if (rest.head?.map isSpace).getD false then rest.dropWhile isSpace else cs
  else cs

def readAssignment (cs : List Char) : Step (Option (String × Option String)) :=
  match readName (dropExport cs) with
  | .error rest => .error rest
  | .ok (name, rest) =>
    let rest := rest.dropWhile isSpace
    let value : Step (Option String) :=
      match rest with
      | '=' :: rest => (readValue (rest.dropWhile isSpace)).map fun (value, rest) => (some value, rest)
      | rest => .ok (none, rest)
    match value with
    | .error rest => .error rest
    | .ok (value, rest) => (readLineEnd rest).map fun (_, rest) => (name.map fun name => (name, value), rest)

/-- Reads assignments; every turn but the last takes at least one character, so as many turns as there are characters
suffice. -/
def readAll : (fuel : Nat) → List Char → List (String × Option String) → List (String × Option String)
  | 0, _, done => done.reverse
  | fuel + 1, cs, done =>
    match cs.dropWhile Text.isBlank with
    | [] => done.reverse
    | cs =>
      match readAssignment cs with
      | .ok (some assignment, rest) => readAll fuel rest (assignment :: done)
      | .ok (none, rest) => readAll fuel rest done
      | .error rest => readAll fuel ((rest.dropWhile (· != '\n')).drop 1) done

/-- The assignments of a text in order, with their values as written. -/
def assignments (text : String) : List (String × Option String) :=
  let cs := unifyLines text.toList
  readAll (cs.length + 1) cs []

/-- The name, and the default if there is one, between the braces after a dollar sign, and what comes after them. -/
def reference (cs : List Char) : Option (String × Option String × List Char) :=
  let inName (c : Char) : Bool := c != '\x7d' && c != ':'
  let name := String.ofList (cs.takeWhile inName)
  match cs.dropWhile inName with
  | '\x7d' :: rest => some (name, none, rest)
  | ':' :: '-' :: rest =>
    match rest.dropWhile (· != '\x7d') with
    | _ :: after => some (name, some (String.ofList (rest.takeWhile (· != '\x7d'))), after)
    | [] => none
  | _ => none

/-- Replaces references by values, at most `fuel` of them. -/
def expand (lookup : String → Option (Option String)) : (fuel : Nat) → List Char → List Char
  | 0, cs => cs
  | _, [] => []
  | fuel + 1, c :: cs =>
    match c, cs with
    | '$', '\x7b' :: inside =>
      match reference inside with
      | some (name, alternative, rest) =>
        let value := match lookup name with
          | some value => value.getD ""
          | none => alternative.getD ""
        value.toList ++ expand lookup fuel rest
      | none => c :: expand lookup fuel cs
    | _, _ => c :: expand lookup fuel cs

/-- The names of a text with their values.  A reference sees the names assigned before it, then those of `env`. -/
def values (env : List (String × String)) (text : String) : Table String (Option String) :=
  (assignments text).foldl (fun known (name, value) =>
    let lookup (n : String) : Option (Option String) :=
      match known.get? n with
      | some value => some value
      | none => (env.find? fun e => e.1 = n).map fun e => some e.2
    known.put name (value.map fun v => String.ofList (expand lookup v.toList.length v.toList))) {}

end MailboxSync.Dotenv
