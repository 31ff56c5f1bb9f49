import MailboxSync.Sync.Report
import MailboxSync.Time.Iso

/-!
# Runs

* `syncUser` — discovers the folders below every root, syncs them in a pool and, if all of them finished, moves the
  user's watermark forward.  A failure during discovery ends the run before any folder is touched;
* `syncUsers` — one user after another.  A fault ends only the run of the user it occurs in, and stands on that user's
  report; a cancelled run leaves out the users that have not begun.
-/

namespace MailboxSync

variable {τ ς : Type}

/-- The folders below every root, added to those `found` so far. -/
def discoverAll (t : Transport τ) (user : User) :
    (roots : List FolderId) → (found : FolderSet) → World τ ς → Except Trouble FolderSet × World τ ς
  | [], found, w => (.ok found, w)
  | root :: roots, found, w =>
    if w.cancelled then (.error (.failure (.cancelled (.duringDiscovery user))), w)
    else
      match discover t root user w with
      | (.error (.failure failure), w) =>
        let text := failure.message
        (.error (.failure failure), w.note .error s!"Folder discovery failed for {user} under {root}: {text}")
      | (.error (.fault fault), w) => (.error (.fault fault), w)
      | (.ok folders, w) => discoverAll t user roots (found.insertAll folders) w

/-- The instant a run is stamped with: the one given, or the current one. -/
def Env.stampOf (e : Env τ ς) (now : Option Stamp) : Except Fault Instant :=
  match now with
  | some stamp => stamp.toInstant
  | none => .ok e.clock

/-- Moves a user's watermark to `now`, or leaves it where it is if that is later. -/
def advanceWatermark (e : Env τ ς) (user : User) (now : Option Stamp) (w : World τ ς) :
    Except Fault Instant × World τ ς :=
  match e.stampOf now with
  | .error fault => (.error fault, w)
  | .ok stamp =>
    match w.readWatermark e.stores user with
    | (.error fault, w) => (.error fault, w)
    | (.ok previous, w) =>
      let kept := Iso.ofInstant previous
      let (next, w) :=
        if stamp < previous then (previous, w.note .debug s!"Watermark for {user} already at {kept}, keeping it")
        else (stamp, w)
      match w.writeWatermark e.stores user next with
      | (.error fault, w) => (.error fault, w)
      | (.ok (), w) => (.ok next, w)

/-- Ends the run of a user whose pool is idle. -/
def concludeRun (e : Env τ ς) (report : Report) (folders : Nat) (now : Option Stamp) (pool : Pool) (w : World τ ς) :
    Except Fault Report × World τ ς :=
  match pool.fault with
  | some fault => (.error fault, w)
  | none =>
    let report := { report with folders := pool.results }
    let user := report.user
    match pool.cause with
    | some failure =>
      let failed := report.failedFolders.length
      (.ok { report with error := some failure },
        w.note .warning
          s!"Sync of {user} incomplete, {failed} of {folders} folders failed; watermark not advanced")
    | none =>
      match advanceWatermark e user now w with
      | (.error fault, w) => (.error fault, w)
      | (.ok stamp, w) =>
        let total := report.totalItems
        let at_ := Iso.ofInstant stamp
        (.ok { report with watermark := some stamp },
          w.note .info s!"Synced {user}: {total} new items in {folders} folders, watermark {at_}")

/-- Syncs everything below `roots`; nothing when `fuel` rounds of the pool do not get to the end. -/
def syncUser (e : Env τ ς) (fuel : Nat) (roots : List FolderId) (now : Option Stamp) (user : User) (w : World τ ς) :
    Option (Except Fault Report × World τ ς) :=
  let report : Report := { user, roots }
  match discoverAll e.transport user roots [] w with
  | (.error (.fault fault), w) => some (.error fault, w)
  | (.error (.failure failure), w) => some (.ok { report with error := some failure }, w)
  | (.ok folders, w) =>
    (Pool.drive e user fuel (.ofFolders e.config.maxFolderWorkers folders, w)).map fun (pool, w) =>
      concludeRun e report folders.length now pool w

/-- The report of a user whose run ended in a fault. -/
def Report.ofFault (user : User) (roots : List FolderId) (fault : Fault) : Report :=
  { user, roots, error := some (.ofFault fault) }

/-- Syncs users one after another. -/
def syncUsers (e : Env τ ς) (fuel : Nat) (roots : List FolderId) (now : Option Stamp) :
    (users : List User) → World τ ς → Option (List Report × World τ ς)
  | [], w => some ([], w)
  | user :: users, w =>
    if w.cancelled then some ([], w.note .info "Sync cancelled, skipping remaining users")
    else
      match syncUser e fuel roots now user w with
      | none => none
      | some (.ok report, w) => (syncUsers e fuel roots now users w).map fun (rs, w) => (report :: rs, w)
      | some (.error fault, w) =>
        let text := fault.message
        let w := w.note .error s!"Error syncing {user}: {text}"
        (syncUsers e fuel roots now users w).map fun (rs, w) => (.ofFault user roots fault :: rs, w)

end MailboxSync
