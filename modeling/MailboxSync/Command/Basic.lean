import MailboxSync.Http.Client
import MailboxSync.Settings.Basic
import MailboxSync.Store.Progress
import MailboxSync.Sync.Run
import MailboxSync.Text.Upper

/-!
# Commands

What the one-shot command and the daemon have in common.

* `Line` — what a command prints; `Outcome` — its exit code and lines;
* `Site` — what a command reaches the mailbox service through;
* `Settings.threshold`, `Settings.openStores` — what settings mean for a command.
-/

namespace MailboxSync

/-- What a command prints. -/
inductive Line where
  | forgot (user : User) (folders : Nat)
  | brought (user : User) (items folders : Nat)
  | failed (user : User) (failure : Failure)
  | item (folder : FolderId) (id : ItemId)
  | said (text : String)
  deriving DecidableEq, Repr, Inhabited

def Line.text : Line → String
  | .forgot user folders => s!"Reset {folders} folders for {user}"
  | .brought user items folders => s!"{user}: {items} new items in {folders} folders"
  | .failed user failure =>
    let kind := failure.kind
    let text := failure.message
    s!"{user}: FAILED ({kind}) {text}"
  | .item folder id => s!"  {folder}\t{id}"
  | .said text => text

/-- What a command comes to. -/
structure Outcome where
  exitCode : Nat
  lines : List Line := []
  /-- The seconds waited between polls. -/
  waits : List Int := []
  deriving Repr, Inhabited

def Outcome.output (o : Outcome) : String := String.join (o.lines.map fun line => line.text ++ "\n")

/-- What a command reaches the mailbox service through. -/
structure Site (τ : Type) where
  /-- The transport of a client, or why there is none. -/
  connect : Http.Client → Except Fault (Transport τ)
  clock : Instant := .epoch

/-- What a command comes to, and the world after it; nothing when a run in it is not over in the rounds it has. -/
abbrev Commanded (τ : Type) := Option (Except Fault Outcome × World τ Progress)

/-- From which urgency on the notes of a command are shown. -/
inductive Threshold where
  | trace
  | debug
  | info
  | success
  | warning
  | error
  | critical
  deriving DecidableEq, Repr, Inhabited

def Threshold.ofName (name : String) : Option Threshold :=
  [("TRACE", trace), ("DEBUG", debug), ("INFO", info), ("SUCCESS", success), ("WARNING", warning), ("ERROR", error),
    ("CRITICAL", critical)].lookup name

def Threshold.listener : Threshold → Option Level
  | .trace => some .trace
  | .debug => some .debug
  | .info => some .info
  | .success | .warning => some .warning
  | .error => some .error
  | .critical => none

namespace Settings

/-- The threshold that settings name in any case. -/
def threshold (s : Settings) : Except Fault Threshold :=
  let name := Text.upper s.logLevel
  match Threshold.ofName name with
  | some t => .ok t
  | none => .error (.unknownLevel name)

def client (s : Settings) : Http.Client := .ofSettings s.url s.username s.password (.number s.timeout) s.verifyTls

def config (s : Settings) : Config := .ofSizes s.idPageSize s.itemPageSize s.maxFolderWorkers

/-- Opens the stores that settings choose.  A memory begins empty, and a database gets the tables it lacks. -/
def openStores {τ : Type} (s : Settings) (w : World τ Progress) : Except Fault Backend × World τ Progress :=
  match Backend.choose s.backend.name (some s.databasePath) with
  | .error fault => (.error fault, w)
  | .ok (backend, notes) =>
    let database := if backend = Backend.database then w.stores.database.ensure else w.stores.database
    let w : World τ Progress := { w with stores := { memory := {}, database } }
    (.ok backend, w.noteAll notes)

end Settings

end MailboxSync
