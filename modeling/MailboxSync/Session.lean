import MailboxSync.Command.Daemon
import MailboxSync.Command.OneShot
import MailboxSync.Mailbox.Desk
import MailboxSync.Store.Progress
import MailboxSync.Sync.Worker

/-!
# Sessions

A session is a mailbox with canned answers, progress, a configuration and a clock, on which steps are taken one after
another.

* `Session` — all of it as one value;
* `Step` — what can be done; `Answer` — what comes of it;
* `Session.take` — one step: its answer, the requests the mailbox saw, the notes, and the session after it.
-/

namespace MailboxSync

/-- How a step's runs can be cancelled. -/
inductive CancelMode where
  | never
  /-- The cancel event is there, and not set yet. -/
  | armed
  | set
  deriving DecidableEq, Repr, Inhabited

def CancelMode.event : CancelMode → Option Bool
  | never => none
  | armed => some false
  | set => some true

/-- A mailbox, progress, and everything a run needs. -/
structure Session where
  desk : Desk := {}
  progress : Progress := {}
  /-- Where progress is kept when stores are opened. -/
  home : Backend := .memory
  /-- Where progress is kept now. -/
  backend : Backend := .memory
  config : Config := {}
  clock : Instant := .epoch
  refusals : List AccessRule := []
  /-- Whether requests and responses travel as documents. -/
  wired : Bool := false
  listener : Option Level := none
  worker : Option Worker := none

/-- What can be done in a session. -/
inductive Step where
  | syncUser (user : User) (roots : List FolderId) (now : Option Stamp) (cancel : CancelMode)
  | syncUsers (users : List User) (roots : List FolderId) (now : Option Stamp) (cancel : CancelMode)
  | addItems (folder : FolderId) (changes : List Change)
  | removeFolder (folder : FolderId)
  | setRoots (roots : Table FolderId (List FolderId))
  | enqueue (rule : Rule) (answers : List Canned)
  | fail (rule : Rule) (answer : Canned)
  | clear
  | refuse (rules : List AccessRule)
  | setClock (now : Instant)
  | showConfig
  | rebindTokens
  | getToken (user : User) (folder : FolderId)
  | putToken (user : User) (folder : FolderId) (token : Token)
  | getWatermark (user : User)
  | putWatermark (user : User) (stamp : Stamp)
  | dump
  | count (user : Option User)
  | newWorker (users : List User) (roots : List FolderId) (minutes : Int)
  | poll
  | stopWorker
  | showStats
  | runWorker (pauses : Nat) (bySignal : Bool)
  | rawToken (user : User) (folder : FolderId)
  | rawWatermark (user : User)
  | rawPutToken (user : User) (folder : FolderId) (token : Token)
  | rawPutWatermark (user : User) (stamp : Stamp)
  | deleteUser (user : User)
  | reopen
  | dropTable (table : String)
  | storeTimestamp (user : User) (text : String)
  /-- The one-shot command on words in an environment. -/
  | oneShot (words : List String) (env : List (String × String))
  /-- The daemon in an environment; `refusal` says why there is no transport. -/
  | daemon (env : List (String × String)) (pauses : Nat) (bySignal : Bool) (refusal : Option String)
  deriving Inhabited

/-- What comes of a step. -/
inductive Answer where
  | nothing
  | report (report : Report)
  | reports (reports : List Report)
  | config (config : Config)
  | text (text : Option String)
  | stamp (stamp : Option Stamp)
  | number (n : Nat)
  | flag (b : Bool)
  /-- The tokens and the watermarks that are kept, in order. -/
  | kept (tokens : List (User × FolderId × Token)) (watermarks : List (User × String))
  | stats (worker : Worker)
  | ran (waits : List Int) (worker : Worker)
  | oneShot (outcome : Outcome)
  | daemon (outcome : Outcome)
  deriving Inhabited

namespace Session

def env (s : Session) : Env Desk Progress where
  transport := if s.wired then Desk.wired s.listener Desk.url else Desk.direct s.listener
  stores := s.backend.stores.refusing s.refusals
  config := s.config
  clock := s.clock

def world (s : Session) (cancel : CancelMode) : World Desk Progress :=
  { remote := s.desk, stores := s.progress, cancel := cancel.event }

def after (s : Session) (w : World Desk Progress) : Session := { s with desk := w.remote, progress := w.stores }

def withWorker (s : Session) (k : Worker) : Session := { s with worker := some k }

def notesOf (w : World Desk Progress) : List Note :=
  w.events.filterMap fun
    | .noted n => some n
    | _ => none

/-- What comes of a step: its answer or a fault, the notes, and the session after it. -/
abbrev Taken := Except Fault Answer × List Note × Session

/-- A step without notes. -/
def quiet (s : Session) (answer : Answer) : Taken := (.ok answer, [], s)

def access {α : Type} (s : Session) (result : Except Fault (α × List Note)) (done : α → Answer × Session) :
    Taken :=
  match result with
  | .error fault => (.error fault, [], s)
  | .ok (a, notes) =>
    let (answer, s) := done a
    (.ok answer, notes, s)

def inDatabase {α : Type} (s : Session) (result : Except Fault α) (done : α → Answer × Session) : Taken :=
  s.access (result.map (·, [])) done

def withDatabase (s : Session) (database : Database) : Session :=
  { s with progress := { s.progress with database } }

def tokenOrder (a b : User × FolderId × Token) : Bool :=
  if a.1 = b.1 then decide (a.2.1 ≤ b.2.1) else decide (a.1 ≤ b.1)

/-- What is kept where progress is at home, in order. -/
def kept (s : Session) : Answer :=
  let tokens : Table (User × FolderId) Token :=
    match s.home.tokens with
    | .memory => s.progress.memory.tokens
    | .database => s.progress.database.tokens.getD {}
  let watermarks : List (User × String) :=
    match s.home.watermarks with
    | .memory => s.progress.memory.watermarks.entries.map fun e => (e.1, Iso.ofInstant e.2)
    | .database => (s.progress.database.watermarks.getD {}).entries
    | .nowhere => []
  .kept ((tokens.entries.map fun e => (e.1.1, e.1.2, e.2)).mergeSort tokenOrder)
    (watermarks.mergeSort fun a b => a.1 ≤ b.1)

def databasePath : String := "progress.db"

/-- The settings of an environment, with the session's database unless it chooses another place. -/
def settingsIn (env : List (String × String)) : Except Fault Settings :=
  match env.lookup "STATE_BACKEND" with
  | some name => Settings.read (if name = "sqlite" then env ++ [("STATE_DB_PATH", databasePath)] else env) none
  | none => Settings.read (env ++ [("STATE_DB_PATH", databasePath)]) none

/-- From which urgency on somebody listens to the notes of a command in an environment. -/
def listenerIn (env : List (String × String)) : Option Level :=
  match settingsIn env with
  | .error _ => none
  | .ok settings =>
    match settings.threshold with
    | .error _ => none
    | .ok threshold => threshold.listener

/-- What commands in a session reach the mailbox through: documents over HTTP. -/
def site (s : Session) (listener : Option Level) (refusal : Option String) : Site Desk where
  connect client :=
    match refusal with
    | some text => .error (.broken text)
    | none => .ok (Desk.wired listener client.url)
  clock := s.clock

/-- What comes of a command.  It keeps nothing but what is in the database, and its notes go elsewhere. -/
def ofCommand (s : Session) (done : Outcome → Answer) (result : Commanded Desk) : Option Taken :=
  result.map fun (outcome, w) =>
    (outcome.map done, [],
      { s with desk := w.remote, progress := { s.progress with database := w.stores.database } })

/-- Takes a step; nothing when `fuel` does not suffice for a run in it. -/
def perform (fuel : Nat) (s : Session) (step : Step) : Option Taken :=
  let e := s.env
  match step with
  | .syncUser user roots now cancel =>
    (MailboxSync.syncUser e fuel roots now user (s.world cancel)).map fun (result, w) =>
      (result.map .report, notesOf w, s.after w)
  | .syncUsers users roots now cancel =>
    (MailboxSync.syncUsers e fuel roots now users (s.world cancel)).map fun (reports, w) =>
      (.ok (.reports reports), notesOf w, s.after w)
  | .addItems folder changes =>
    some ({ s with desk := { s.desk with mailbox := s.desk.mailbox.append folder changes } }.quiet .nothing)
  | .removeFolder folder =>
    some ({ s with desk := { s.desk with mailbox := s.desk.mailbox.remove folder } }.quiet .nothing)
  | .setRoots roots =>
    some ({ s with desk := { s.desk with mailbox := { s.desk.mailbox with roots } } }.quiet .nothing)
  | .enqueue rule answers =>
    some ({ s with desk := { s.desk with queues := s.desk.queues ++ [(rule, answers)] } }.quiet .nothing)
  | .fail rule answer =>
    some ({ s with desk := { s.desk with failures := s.desk.failures ++ [(rule, answer)] } }.quiet .nothing)
  | .clear => some ({ s with desk := { s.desk with queues := [], failures := [] }, refusals := [] }.quiet .nothing)
  | .refuse rules => some ({ s with refusals := rules }.quiet .nothing)
  | .setClock now => some ({ s with clock := now }.quiet .nothing)
  | .showConfig => some (s.quiet (.config s.config))
  | .rebindTokens =>
    let memory := { s.progress.memory with tokens := {} }
    some ({ s with
      backend := { s.backend with tokens := .memory }
      progress := { s.progress with memory } }.quiet (.config s.config))
  | .getToken user folder => some (s.access (e.stores.token s.progress user folder) fun t => (.text (some t), s))
  | .putToken user folder token =>
    some (s.access (e.stores.saveToken s.progress user folder token) fun p => (.nothing, { s with progress := p }))
  | .getWatermark user =>
    some (s.access (e.stores.watermark s.progress user) fun i => (.stamp (some (.ofInstant i)), s))
  | .putWatermark user stamp =>
    some (s.access (e.stores.saveWatermark s.progress user stamp) fun p => (.nothing, { s with progress := p }))
  | .dump =>
    let s := if s.home = Backend.database then s.withDatabase s.progress.database.ensure else s
    some (s.quiet s.kept)
  | .count user =>
    match s.home.tokens with
    | .memory => some (s.quiet (.number s.progress.memory.tokens.size))
    | .database => some (s.inDatabase (s.progress.database.count user) fun n => (.number n, s))
  | .newWorker users roots minutes =>
    let k := Worker.new users roots minutes
    some ({ s with worker := some k }.quiet (.stats k))
  | .poll =>
    match s.worker with
    | none => some (s.quiet .nothing)
    | some k =>
      (k.poll e fuel (s.world .never)).map fun (reports, k, w) =>
        (.ok (.reports reports), notesOf w, (s.after w).withWorker k)
  | .stopWorker =>
    some ({ s with worker := s.worker.map Worker.stop }.quiet (.flag false))
  | .showStats =>
    match s.worker with
    | none => some (s.quiet .nothing)
    | some k => some (s.quiet (.stats k))
  | .runWorker pauses bySignal =>
    match s.worker with
    | none => some (s.quiet .nothing)
    | some k =>
      (k.run e fuel bySignal (max pauses 1) (s.world .never)).map fun (waits, k, w) =>
        (.ok (.ran waits k), notesOf w, (s.after w).withWorker k)
  | .rawToken user folder => some (s.inDatabase (s.progress.database.token? user folder) fun t => (.text t, s))
  | .rawWatermark user => some (s.inDatabase (s.progress.database.watermark? user) fun t => (.stamp t, s))
  | .rawPutToken user folder token =>
    some (s.inDatabase (s.progress.database.putToken user folder token) fun d => (.nothing, s.withDatabase d))
  | .rawPutWatermark user stamp =>
    some (s.inDatabase (s.progress.database.putWatermark user stamp) fun d => (.nothing, s.withDatabase d))
  | .deleteUser user =>
    match s.progress.database.deleteUser user with
    | .error fault => some (.error fault, [], s)
    | .ok (n, d, notes) => some (.ok (.number n), notes, s.withDatabase d)
  | .reopen =>
    let progress : Progress := { memory := {}, database := s.progress.database.ensure }
    some ({ s with backend := s.home, progress }.quiet .nothing)
  | .dropTable table =>
    some (s.inDatabase (s.progress.database.drop table) fun d => (.nothing, s.withDatabase d))
  | .storeTimestamp user text =>
    some (s.inDatabase (s.progress.database.putWatermarkText user text) fun d => (.nothing, s.withDatabase d))
  | .oneShot words env =>
    s.ofCommand .oneShot (OneShot.run (s.site (listenerIn env) none) fuel (settingsIn env) words (s.world .never))
  | .daemon env pauses bySignal refusal =>
    s.ofCommand .daemon
      (Daemon.run (s.site (listenerIn env) refusal) fuel (settingsIn env) bySignal (max pauses 1) (s.world .never))

/-- Takes a step; also gives the requests the mailbox saw. -/
def take (fuel : Nat) (s : Session) (step : Step) : Option (Taken × List (User × Request)) :=
  (perform fuel { s with desk := { s.desk with seen := [] } } step).map fun taken => (taken, taken.2.2.desk.calls)

end Session

end MailboxSync
