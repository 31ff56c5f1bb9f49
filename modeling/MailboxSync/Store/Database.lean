import MailboxSync.Store.Table
import MailboxSync.Sync.Environment
import MailboxSync.Time.Iso

/-!
# Progress in a database

Two tables: tokens by user and folder, and watermarks by user, these as text.  A table may be missing, if somebody
dropped it; then what needs it fails and the database stays as it was.  `Database.ensure` makes missing tables.

* a watermark is read through the timestamp grammar, so a stored text may be no timestamp or denote no instant;
* `Database.deleteUser` forgets all progress of a user, or nothing if either table is missing.
-/

namespace MailboxSync

/-- The two tables. -/
structure Database where
  tokens : Option (Table (User × FolderId) Token) := some {}
  watermarks : Option (Table User String) := some {}
  deriving Repr, Inhabited

namespace Database

/-- The names of the tables. -/
def tokensName : String := "sync_states"
def watermarksName : String := "watermarks"

def tokenTable (d : Database) : Except Fault (Table (User × FolderId) Token) :=
  match d.tokens with
  | some t => .ok t
  | none => .error (.missingTable tokensName)

def watermarkTable (d : Database) : Except Fault (Table User String) :=
  match d.watermarks with
  | some t => .ok t
  | none => .error (.missingTable watermarksName)

def ensure (d : Database) : Database :=
  { tokens := some (d.tokens.getD {}), watermarks := some (d.watermarks.getD {}) }

def drop (d : Database) (table : String) : Except Fault Database :=
  if table = tokensName then d.tokenTable.map fun _ => { d with tokens := none }
  else if table = watermarksName then d.watermarkTable.map fun _ => { d with watermarks := none }
  else .error (.missingTable table)

def token? (d : Database) (user : User) (folder : FolderId) : Except Fault (Option Token) :=
  d.tokenTable.map (·.get? (user, folder))

def putToken (d : Database) (user : User) (folder : FolderId) (token : Token) : Except Fault Database :=
  d.tokenTable.map fun t => { d with tokens := some (t.put (user, folder) token) }

/-- The stored watermark of a user as the text says it. -/
def watermark? (d : Database) (user : User) : Except Fault (Option Stamp) :=
  match d.watermarkTable with
  | .error fault => .error fault
  | .ok t =>
    match t.get? user with
    | none => .ok none
    | some text =>
      match Iso.toStamp text with
      | .ok stamp => .ok (some stamp)
      | .error problem => .error (.badTimestamp problem)

def putWatermarkText (d : Database) (user : User) (text : String) : Except Fault Database :=
  d.watermarkTable.map fun t => { d with watermarks := some (t.put user text) }

/-- Stores a stamp as a user's watermark, as it is. -/
def putWatermark (d : Database) (user : User) (stamp : Stamp) : Except Fault Database :=
  d.putWatermarkText user (Iso.ofStamp stamp)

/-- The number of folders with a token, of one user or of all. -/
def count (d : Database) (user : Option User) : Except Fault Nat :=
  d.tokenTable.map fun t =>
    match user with
    | none => t.size
    | some u => t.countIf fun k => k.1 = u

/-- Forgets a user; also gives the number of tokens forgotten. -/
def deleteUser (d : Database) (user : User) : Except Fault (Nat × Database × List Note) :=
  match d.tokenTable, d.watermarkTable with
  | .error fault, _ => .error fault
  | _, .error fault => .error fault
  | .ok tokens, .ok watermarks =>
    let removed := tokens.countIf fun k => k.1 = user
    .ok (removed,
      { tokens := some (tokens.eraseIf fun k => k.1 = user),
        watermarks := some (watermarks.eraseIf fun k => k = user) },
      [⟨.info, s!"Reset sync progress for {user} ({removed} folders)"⟩])

/-- Forgets users one after another, up to the first fault; gives what was forgotten of each. -/
def deleteUsers : List User → Database → List (User × Nat) × Option Fault × Database
  | [], d => ([], none, d)
  | user :: users, d =>
    match d.deleteUser user with
    | .error fault => ([], some fault, d)
    | .ok (removed, d, _) =>
      let (done, fault, d) := deleteUsers users d
      ((user, removed) :: done, fault, d)

def stores : Stores Database where
  token d user folder :=
    (d.token? user folder).map fun
      | some token => (token, [])
      | none => (.initial, [⟨.debug, s!"No sync state found for {user}:{folder}"⟩])
  saveToken d user folder token :=
    (d.putToken user folder token).map fun d => (d, [⟨.info, s!"Saved sync state for {user}:{folder}"⟩])
  watermark d user :=
    match d.watermark? user with
    | .error fault => .error fault
    | .ok none => .ok (.epoch, [])
    | .ok (some stamp) => stamp.toInstant.map fun i => (i, [])
  saveWatermark d user stamp :=
    match stamp.toInstant with
    | .error fault => .error fault
    | .ok i =>
      let text := Iso.ofInstant i
      (d.putWatermarkText user text).map fun d => (d, [⟨.info, s!"Saved watermark for {user}: {text}"⟩])

end Database

end MailboxSync
