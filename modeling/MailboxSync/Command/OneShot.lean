import MailboxSync.Command.Arguments
import MailboxSync.Command.Basic

/-!
# The one-shot command

Syncs users once and tells what came of it, or forgets the progress of users.  Its exit code is 0 when everything went
well, 1 when there is nobody to sync or a user's run failed, and 2 when its words make no sense.
-/

namespace MailboxSync.OneShot

variable {τ : Type}

def reportLines (showIds : Bool) (r : Report) : List Line :=
  let head : Line :=
    match r.error with
    | none => .brought r.user r.totalItems r.folders.length
    | some failure => .failed r.user failure
  let items : List Line := if showIds then r.itemIds.flatMap fun (folder, ids) => ids.map (.item folder) else []
  head :: items

def outcome (showIds : Bool) (reports : List Report) : Outcome where
  exitCode := if reports.all (·.ok) then 0 else 1
  lines := reports.flatMap (reportLines showIds)

def forget (settings : Settings) (users : List User) (w : World τ Progress) :
    Except Fault Outcome × World τ Progress :=
  if settings.backend ≠ .sqlite then
    (.ok { exitCode := 1 }, w.note .error "--reset only applies to the sqlite state backend")
  else
    let (done, fault, database) := w.stores.database.ensure.deleteUsers users
    let w := { w with stores := { w.stores with database } }
    match fault with
    | some fault => (.error fault, w)
    | none => (.ok { exitCode := 0, lines := done.map fun (user, folders) => .forgot user folders }, w)

def sync (site : Site τ) (fuel : Nat) (settings : Settings) (a : Arguments) (users : List User)
    (roots : List FolderId) (w : World τ Progress) : Commanded τ :=
  match settings.openStores w with
  | (.error fault, w) => some (.error fault, w)
  | (.ok backend, w) =>
    match site.connect settings.client with
    | .error fault => some (.error fault, w)
    | .ok transport =>
      let config : Config :=
        .ofSizes (a.pageSize.getD settings.idPageSize) settings.itemPageSize (a.workers.getD settings.maxFolderWorkers)
      let e : Env τ Progress := { transport, stores := backend.stores, config, clock := site.clock }
      (syncUsers e fuel roots none users w).map fun (reports, w) => (.ok (outcome a.showIds reports), w)

def obey (site : Site τ) (fuel : Nat) (settings : Settings) (a : Arguments) (w : World τ Progress) : Commanded τ :=
  match settings.threshold with
  | .error fault => some (.error fault, w)
  | .ok _ =>
    let users := if a.users.isEmpty then settings.users else a.users
    let roots := if a.roots.isEmpty then settings.roots else a.roots
    if users.isEmpty then
      some (.ok { exitCode := 1 }, w.note .error "No users to sync! Pass them as arguments or set SYNC_USERS")
    else if a.reset then some (forget settings users w)
    else sync site fuel settings a users roots w

/-- Runs the command on words.  What is wrong with the words comes before what is wrong with the settings. -/
def run (site : Site τ) (fuel : Nat) (settings : Except Fault Settings) (words : List String)
    (w : World τ Progress) : Commanded τ :=
  match Arguments.ofWords words with
  | .refused => some (.ok { exitCode := 2 }, w)
  | .help => some (.ok { exitCode := 0, lines := Arguments.usage.map .said }, w)
  | .arguments a =>
    match settings with
    | .error fault => some (.error fault, w)
    | .ok settings => obey site fuel settings a w

end MailboxSync.OneShot
