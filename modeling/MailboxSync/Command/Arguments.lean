import MailboxSync.Number.Integer

/-!
# Arguments

The words the one-shot command is given: users, and switches, which begin with dashes.

* a switch may be shortened as long as only one switch begins so, and its value may follow an equals sign;
* a word that begins with a dash is no switch if it is a negative number or holds a space, and none is after a lone
  `--`;
* the users stand together, a second group of words is refused.

`Arguments.ofWords` reads a list of words; `Word` and `Word.ofTexts` say what each of them is.
-/

namespace MailboxSync

/-- What can be switched. -/
inductive Switch where
  | help
  | root
  | pageSize
  | workers
  | reset
  | showIds
  deriving DecidableEq, Repr, Inhabited

def Switch.names : List (String × Switch) := [
  ("--help", .help), ("--root", .root), ("--page-size", .pageSize), ("--workers", .workers), ("--reset", .reset),
  ("--show-ids", .showIds)]

/-- The one short name. -/
def Switch.shortHelp : String := "-h"

def Switch.ofName (name : String) : Option Switch :=
  if name = Switch.shortHelp then some .help else Switch.names.lookup name

def Switch.startingWith (start : String) : List Switch :=
  (Switch.names.filter fun n => n.1.startsWith start).map (·.2)

/-- What a word is. -/
inductive Word where
  | plain (text : String)
  /-- The `--` after which every word is plain. -/
  | dashes
  | switch (switch : Switch) (value : Option String)
  /-- A switch that nobody knows. -/
  | unknown
  deriving DecidableEq, Repr, Inhabited

/-- Whether a text is a negative number in decimal notation; a line end after it does not count. -/
def isNegativeNumber (s : String) : Bool :=
  let isDigit (c : Char) : Bool := (Text.digitOf c).isSome
  match s.toList with
  | '-' :: cs =>
    let cs := if cs.getLast? = some '\n' then cs.dropLast else cs
    match cs.dropWhile isDigit with
    | [] => !cs.isEmpty
    | '.' :: fraction => !fraction.isEmpty && fraction.all isDigit
    | _ => false
  | _ => false

namespace Word

/-- A word that begins with a dash and is no switch by its full name. -/
def ofUnknown (text : String) : Word :=
  if isNegativeNumber text || text.contains ' ' then .plain text else .unknown

/-- The switch that a name or the beginning of a name means, with a value for it; nothing if it may mean several. -/
def ofName (text name : String) (value : Option String) : Option Word :=
  match Switch.ofName name with
  | some known => some (.switch known value)
  | none =>
    if name.startsWith "--" then
      match Switch.startingWith name with
      | [] => some (ofUnknown text)
      | [known] => some (.switch known value)
      | _ => none
    else if text.startsWith Switch.shortHelp then some (.switch .help none)
    else some (ofUnknown text)

/-- What a word is; nothing if it may mean several switches. -/
def ofText (text : String) : Option Word :=
  match text.toList with
  | '-' :: _ :: _ =>
    match Switch.ofName text with
    | some known => some (.switch known none)
    | none =>
      let (name, rest) := text.toList.span (· != '=')
      match rest with
      | [] => ofName text text none
      | _ :: value => ofName text (String.ofList name) (some (String.ofList value))
  | _ => some (.plain text)

def ofTexts : List String → Option (List Word)
  | [] => some []
  | text :: texts =>
    if text = "--" then some (.dashes :: texts.map .plain)
    else
      match ofText text with
      | none => none
      | some word => (ofTexts texts).map (word :: ·)

end Word

/-- What the one-shot command is told. -/
structure Arguments where
  users : List String := []
  roots : List String := []
  pageSize : Option Int := none
  workers : Option Int := none
  reset : Bool := false
  showIds : Bool := false
  deriving DecidableEq, Repr, Inhabited

/-- How far the group of users has come. -/
inductive UserGroup where
  | ahead
  | here
  | over
  deriving DecidableEq, Repr, Inhabited

/-- What has been read so far. -/
structure Reading where
  arguments : Arguments := {}
  group : UserGroup := .ahead
  /-- Whether a word had no place. -/
  misfit : Bool := false
  deriving DecidableEq, Repr, Inhabited

/-- What words come to. -/
inductive Understood where
  | arguments (arguments : Arguments)
  | help
  | refused
  deriving DecidableEq, Repr, Inhabited

namespace Reading

def plain (r : Reading) (texts : List String) : Reading :=
  match r.group with
  | .over => { r with misfit := true }
  | _ => { r with arguments := { r.arguments with users := r.arguments.users ++ texts }, group := .here }

/-- Ends the group of users, if it has begun. -/
def endGroup (r : Reading) : Reading :=
  match r.group with
  | .here => { r with group := .over }
  | _ => r

def value (r : Reading) (switch : Switch) (text : String) : Option Reading :=
  let a := r.arguments
  match switch with
  | .root => some { r with arguments := { a with roots := a.roots ++ [text] } }
  | .pageSize => (Number.integerOf text).map fun n => { r with arguments := { a with pageSize := some n } }
  | .workers => (Number.integerOf text).map fun n => { r with arguments := { a with workers := some n } }
  | .help | .reset | .showIds => none

/-- Takes in a switch without a value; nothing if it needs one. -/
def turnOn (r : Reading) (switch : Switch) : Option Reading :=
  let a := r.arguments
  match switch with
  | .reset => some { r with arguments := { a with reset := true } }
  | .showIds => some { r with arguments := { a with showIds := true } }
  | .help | .root | .pageSize | .workers => none

def words (r : Reading) : List Word → Understood
  | [] => if r.misfit then .refused else .arguments r.arguments
  | .plain text :: ws => (r.plain [text]).words ws
  | .dashes :: ws => (r.plain []).words ws
  | .unknown :: ws => { r.endGroup with misfit := true }.words ws
  | .switch switch (some text) :: ws =>
    match r.endGroup.value switch text with
    | none => .refused
    | some r => r.words ws
  | .switch .help none :: _ => .help
  | .switch switch none :: ws =>
    match r.endGroup.turnOn switch with
    | some r => r.words ws
    | none =>
      match ws with
      | .plain text :: ws =>
        match r.endGroup.value switch text with
        | none => .refused
        | some r => r.words ws
      | _ => .refused

end Reading

def Arguments.ofWords (texts : List String) : Understood :=
  match Word.ofTexts texts with
  | none => .refused
  | some ws => ({} : Reading).words ws

def Arguments.usage : List String := [
  "usage: [-h] [--root ROOT] [--page-size SIZE] [--workers COUNT] [--reset] [--show-ids] [users ...]",
  "",
  "  users        users to sync instead of SYNC_USERS",
  "  --root       look for folders below this root, may be given several times",
  "  --page-size  changes asked for at once, instead of ID_PAGE_SIZE",
  "  --workers    folders synced side by side, instead of MAX_FOLDER_WORKERS",
  "  --reset      forget the progress of the users",
  "  --show-ids   also print the new items"]

end MailboxSync
