import MailboxSync.Store.Table
import MailboxSync.Sync.Run
import MailboxSync.Text.Decimal

/-!
# The worker

A worker syncs its users again and again, with a pause between two polls, until it is stopped.

* `Stats` — what its polls have brought;
* `Worker.poll` — one poll: all users once;
* `Worker.run` — polls and pauses until the worker is stopped; the pauses are counted, and after a number of them
  somebody stops it.
-/

namespace MailboxSync

/-- What the polls of a worker have brought. -/
structure Stats where
  items : Nat := 0
  errors : Nat := 0
  /-- Whether a poll has begun. -/
  polled : Bool := false
  polls : Nat := 0
  /-- New items of each user who had a run without failure, in the order of the first such run. -/
  byUser : Table User Nat := {}
  deriving Repr, Inhabited

namespace Stats

/-- Takes in a report. -/
def record (s : Stats) (r : Report) : Stats :=
  if r.ok then
    { s with
      items := s.items + r.totalItems
      byUser := s.byUser.put r.user ((s.byUser.get? r.user).getD 0 + r.totalItems) }
  else { s with errors := s.errors + 1 }

def byUserText (s : Stats) : String :=
  let one (e : User × Nat) : String := Text.quoted e.1 ++ ": " ++ Decimal.ofNat e.2
  "\x7b" ++ ", ".intercalate (s.byUser.entries.map one) ++ "\x7d"

def line (s : Stats) : String :=
  let users := s.byUserText
  s!"Worker stats: polls={s.polls}, items={s.items}, errors={s.errors}, by_user={users}"

end Stats

/-- A worker. -/
structure Worker where
  users : List User
  roots : List FolderId
  /-- Seconds between two polls. -/
  interval : Int
  stats : Stats := {}
  stopped : Bool := false
  deriving Repr, Inhabited

namespace Worker

variable {τ ς : Type}

def new (users : List User) (roots : List FolderId) (minutes : Int) : Worker :=
  { users, roots, interval := minutes * 60 }

def stop (k : Worker) : Worker := { k with stopped := true }

/-- Takes in the reports of a poll. -/
def recordAll (s : Stats) : List Report → World τ ς → Stats × World τ ς
  | [], w => (s, w)
  | r :: rs, w =>
    let w := match r.error with
      | none => w
      | some failure =>
        let kind := failure.kind
        let text := failure.message
        w.note .error s!"Error syncing {r.user}: {kind} {text}"
    recordAll (s.record r) rs w

/-- Syncs every user once.  The worker's own flag is the cancel event of the runs. -/
def poll (e : Env τ ς) (fuel : Nat) (k : Worker) (w : World τ ς) : Option (List Report × Worker × World τ ς) :=
  let number := k.stats.polls + 1
  let w := { w with cancel := some k.stopped }.note .info s!"Starting poll cycle #{number}"
  (syncUsers e fuel k.roots none k.users w).map fun (reports, w) =>
    let (stats, w) := recordAll { k.stats with polled := true } reports w
    let stats := { stats with polls := stats.polls + 1 }
    (reports, { k with stats, stopped := w.cancelled }, w.note .info stats.line)

/-- Polls and pauses; the pause that uses up `pauses` stops the worker.  Gives the lengths of the pauses. -/
def loop (e : Env τ ς) (fuel : Nat) (bySignal : Bool) :
    (pauses : Nat) → Worker → World τ ς → Option (List Int × Worker × World τ ς)
  | 0, k, w => some ([], k, w)
  | pauses + 1, k, w =>
    if k.stopped then some ([], k, w)
    else
      match k.poll e fuel w with
      | none => none
      | some (_, k, w) =>
        let w := w.note .debug s!"Sleeping for {k.interval} seconds..."
        let (k, w) :=
          if pauses = 0 then
            (k.stop,
              if bySignal then w.note .info "Received signal 15, shutting down..." else w)
          else (k, w)
        (loop e fuel bySignal pauses k w).map fun (waits, k, w) => (k.interval :: waits, k, w)

/-- Runs until the worker is stopped, at the latest by the pause number `pauses`. -/
def run (e : Env τ ς) (fuel : Nat) (bySignal : Bool) (pauses : Nat) (k : Worker) (w : World τ ς) :
    Option (List Int × Worker × World τ ς) :=
  let minutes := k.interval.fdiv 60
  let w := w.note .info s!"Sync worker starting with {k.users.length} user(s)"
  let w := w.note .info s!"Poll interval: {minutes} minutes"
  let w := k.users.foldl (fun w user => w.note .info s!"  - {user}") w
  (loop e fuel bySignal pauses k w).map fun (waits, k, w) =>
    (waits, k, (w.note .info "Worker shutdown complete").note .info k.stats.line)

end Worker

end MailboxSync
