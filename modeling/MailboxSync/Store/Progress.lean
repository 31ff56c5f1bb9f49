import MailboxSync.Store.Database
import MailboxSync.Store.Memory

/-!
# Choosing where progress is kept

* `Progress` — a memory and a database side by side;
* `Backend` — which of the two keeps tokens, and which keeps watermarks if anything does;
* `AccessRule` — accesses that are refused, whatever the backend.
-/

namespace MailboxSync

/-- A memory and a database. -/
structure Progress where
  memory : Memory := {}
  database : Database := {}
  deriving Repr, Inhabited

/-- Where tokens are kept. -/
inductive TokenPlace where
  | memory
  | database
  deriving DecidableEq, Repr, Inhabited

/-- Where watermarks are kept; `nowhere` makes every user look as if never synced. -/
inductive WatermarkPlace where
  | memory
  | database
  | nowhere
  deriving DecidableEq, Repr, Inhabited

/-- Where progress is kept. -/
structure Backend where
  tokens : TokenPlace
  watermarks : WatermarkPlace
  deriving DecidableEq, Repr, Inhabited

namespace Backend

def memory : Backend := ⟨.memory, .memory⟩
def database : Backend := ⟨.database, .database⟩
/-- Tokens are remembered, watermarks are not. -/
def forgetful : Backend := ⟨.memory, .nowhere⟩

def stores (b : Backend) : Stores Progress where
  token p user folder :=
    match b.tokens with
    | .memory => Memory.stores.token p.memory user folder
    | .database => Database.stores.token p.database user folder
  saveToken p user folder token :=
    match b.tokens with
    | .memory => (Memory.stores.saveToken p.memory user folder token).map fun (memory, ns) => ({ p with memory }, ns)
    | .database =>
      (Database.stores.saveToken p.database user folder token).map fun (database, ns) => ({ p with database }, ns)
  watermark p user :=
    match b.watermarks with
    | .memory => Memory.stores.watermark p.memory user
    | .database => Database.stores.watermark p.database user
    | .nowhere => .ok (.epoch, [])
  saveWatermark p user stamp :=
    match b.watermarks with
    | .memory => (Memory.stores.saveWatermark p.memory user stamp).map fun (memory, ns) => ({ p with memory }, ns)
    | .database =>
      (Database.stores.saveWatermark p.database user stamp).map fun (database, ns) => ({ p with database }, ns)
    | .nowhere => .ok (p, [])

/-- Chooses a backend by name.  A database needs a path. -/
def choose (name : String) (path : Option String) : Except Fault (Backend × List Note) :=
  if name = "memory" then
    .ok (.memory, [⟨.warning, "Using in-memory sync progress; it is lost when the process exits"⟩])
  else if name = "sqlite" then
    if path.getD "" = "" then .error .missingPath else .ok (.database, [])
  else .error (.unknownBackend name)

end Backend

/-- Accesses to a store that are refused: all of one kind, or only those for a user, or for a folder. -/
structure AccessRule where
  store : StoreKind
  access : StoreAccess
  user : Option User := none
  folder : Option FolderId := none
  deriving DecidableEq, Repr, Inhabited

/-- Whether a rule covers an access; accesses to watermarks concern no folder. -/
def AccessRule.covers (r : AccessRule) (store : StoreKind) (access : StoreAccess) (user : User)
    (folder : Option FolderId) : Bool :=
  r.store = store && r.access = access && (r.user.isNone || r.user = some user) &&
    (r.folder.isNone || r.folder = folder)

/-- Stores that refuse what a rule covers before anything else happens. -/
def Stores.refusing {ς : Type} (s : Stores ς) (rules : List AccessRule) : Stores ς :=
  let guard {α : Type} (store : StoreKind) (access : StoreAccess) (user : User) (folder : Option FolderId)
      (go : Except Fault α) : Except Fault α :=
    if rules.any fun r => r.covers store access user folder then .error (.storeRefused store access user) else go
  { token := fun p user folder => guard .states .get user (some folder) (s.token p user folder)
    saveToken := fun p user folder token => guard .states .put user (some folder) (s.saveToken p user folder token)
    watermark := fun p user => guard .watermarks .get user none (s.watermark p user)
    saveWatermark := fun p user stamp => guard .watermarks .put user none (s.saveWatermark p user stamp) }

end MailboxSync
