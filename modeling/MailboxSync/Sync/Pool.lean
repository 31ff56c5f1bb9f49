import MailboxSync.Sync.Discovery
import MailboxSync.Sync.Paging

/-!
# The folder pool

A run syncs its folders in a pool of slots.  Folders wait in a queue; an empty slot takes the next one; a slot with a
folder gives it one turn.  When a folder ends, its result is taken in before the next slot moves.

* the first failure stops the run: folders that have not started are skipped, folders already paging go on to their
  own end, unless the caller cancels;
* a fault ends the run as soon as everything in the pool has come to its end; no result is taken in after it;
* a folder's token is written when its last page has come, and only then.

`Pool.visit` moves one slot, `Pool.follow` any list of slots, and `Pool.drive` visits all slots in turn until nothing
is left.
-/

namespace MailboxSync

/-- What one folder came to.  A folder that failed keeps the token it was started with. -/
structure FolderResult where
  folder : FolderId
  items : List ItemId := []
  token : Token := .initial
  requests : Nat := 0
  error : Option Failure := none
  deriving DecidableEq, Repr, Inhabited

namespace FolderResult

def ok (r : FolderResult) : Bool := r.error.isNone

/-- The result of a folder that did not get to its end. -/
def failed (folder : FolderId) (stored : Token) (failure : Failure) : FolderResult :=
  { folder, token := stored, error := some failure }

/-- The result of a folder that has had its last page. -/
def finished (p : Paging) : FolderResult :=
  { folder := p.folder, items := p.items, token := p.token, requests := p.requests }

end FolderResult

/-- A folder in a slot, with the token it was started from. -/
structure Task where
  stored : Token
  paging : Paging
  deriving DecidableEq, Repr, Inhabited

/-- What a slot's move came to: the folder goes on, or it has ended with a result or a fault. -/
inductive Move where
  | going (task : Task)
  | ended (result : Except Fault FolderResult)

namespace Task

variable {τ ς : Type}

/-- Ends a folder that has had its last page: its token is written. -/
def finish (e : Env τ ς) (user : User) (p : Paging) (w : World τ ς) : Except Fault FolderResult × World τ ς :=
  match w.writeToken e.stores user p.folder p.token with
  | (.error fault, w) => (.error fault, w)
  | (.ok (), w) =>
    let count := p.items.length
    (.ok (.finished p), w.note .debug s!"Folder {p.folder} for {user}: {count} new items in {p.requests} requests")

/-- Ends a folder that failed. -/
def fail (user : User) (folder : FolderId) (stored : Token) (failure : Failure) (w : World τ ς) :
    FolderResult × World τ ς :=
  let text := failure.message
  (.failed folder stored failure,
    if failure.isCancelled then w.note .debug s!"Folder {folder} for {user} not synced: {text}"
    else w.note .error s!"Sync of folder {folder} for {user} failed: {text}")

/-- Gives a folder one turn. -/
def step (e : Env τ ς) (user : User) (task : Task) (w : World τ ς) : Move × World τ ς :=
  match task.paging.turn e.transport user e.config.idPageSize w with
  | (.error (.fault fault), w) => (.ended (.error fault), w)
  | (.error (.failure failure), w) =>
    let (result, w) := fail user task.paging.folder task.stored failure w
    (.ended (.ok result), w)
  | (.ok (p, true), w) =>
    let (result, w) := finish e user p w
    (.ended result, w)
  | (.ok (p, false), w) => (.going { task with paging := p }, w)

/-- Starts a folder: its token is read, and unless the run has been stopped it gets its first turn. -/
def start (e : Env τ ς) (user : User) (stopped : Bool) (folder : FolderId) (w : World τ ς) : Move × World τ ς :=
  match w.readToken e.stores user folder with
  | (.error fault, w) => (.ended (.error fault), w)
  | (.ok stored, w) =>
    if stopped || w.cancelled then
      (.ended (.ok (.failed folder stored (.cancelled (.notStarted folder)))),
        w.note .debug s!"Folder {folder} for {user} skipped, run already stopped")
    else step e user { stored, paging := .start folder stored } w

end Task

/-- Which of two failures a run is blamed on: the earlier one, but a cancellation gives way to any other failure. -/
def Failure.blame (earlier : Option Failure) (later : Failure) : Failure :=
  match earlier with
  | none => later
  | some f => if f.isCancelled && !later.isCancelled then later else f

/-- A run's folders: those waiting, those in slots, and what has been taken in of those that ended. -/
structure Pool where
  queue : List FolderId
  slots : List (Option Task)
  /-- Whether folders that have not started are skipped. -/
  stopped : Bool := false
  /-- The results taken in, in the order the folders ended. -/
  results : List FolderResult := []
  /-- The failure the run is blamed on so far. -/
  cause : Option Failure := none
  /-- The first fault; nothing is taken in after it. -/
  fault : Option Fault := none
  deriving Inhabited

namespace Pool

variable {τ ς : Type}

/-- A pool for `folders` with at most `workers` slots. -/
def ofFolders (workers : Nat) (folders : List FolderId) : Pool :=
  { queue := folders, slots := List.replicate (min workers folders.length) none }

def idle (p : Pool) : Bool := p.queue.isEmpty && p.slots.all Option.isNone

/-- Takes in a result. -/
def accept (p : Pool) (r : FolderResult) : Pool :=
  match r.error with
  | none => { p with results := p.results ++ [r] }
  | some failure =>
    { p with results := p.results ++ [r], cause := some (Failure.blame p.cause failure), stopped := true }

/-- Takes in the end of a folder. -/
def take (p : Pool) (ended : Except Fault FolderResult) : Pool :=
  match p.fault, ended with
  | some _, _ => p
  | none, .error fault => { p with fault := some fault, stopped := true }
  | none, .ok r => p.accept r

/-- Puts the outcome of a move of slot `i` into the pool. -/
def settle (p : Pool) (i : Nat) : Move → Pool
  | .going task => { p with slots := p.slots.set i (some task) }
  | .ended r => { p with slots := p.slots.set i none }.take r

/-- Moves slot `i`. -/
def visit (e : Env τ ς) (user : User) (i : Nat) (s : Pool × World τ ς) : Pool × World τ ς :=
  let (p, w) := s
  match p.slots[i]? with
  | none => (p, w)
  | some (some task) =>
    let (move, w) := task.step e user w
    (p.settle i move, w)
  | some none =>
    match p.queue with
    | [] => (p, w)
    | folder :: queue =>
      let (move, w) := Task.start e user p.stopped folder w
      ({ p with queue }.settle i move, w)

def follow (e : Env τ ς) (user : User) (schedule : List Nat) (s : Pool × World τ ς) : Pool × World τ ς :=
  schedule.foldl (fun s i => visit e user i s) s

def round (e : Env τ ς) (user : User) (s : Pool × World τ ς) : Pool × World τ ς :=
  follow e user (List.range s.1.slots.length) s

/-- Rounds until the pool is idle; nothing when `fuel` rounds do not get there. -/
def drive (e : Env τ ς) (user : User) : (fuel : Nat) → Pool × World τ ς → Option (Pool × World τ ς)
  | 0, s => if s.1.idle then some s else none
  | fuel + 1, s => if s.1.idle then some s else drive e user fuel (round e user s)

/-! ## Small facts -/

@[simp] theorem slots_accept (p : Pool) (r : FolderResult) : (p.accept r).slots = p.slots := by
  unfold accept; split <;> rfl

@[simp] theorem slots_take (p : Pool) (r : Except Fault FolderResult) : (p.take r).slots = p.slots := by
  unfold take; split <;> simp

@[simp] theorem slots_length_settle (p : Pool) (i : Nat) (m : Move) : (p.settle i m).slots.length = p.slots.length := by
  cases m <;> simp [settle]

theorem follow_append (e : Env τ ς) (user : User) (a b : List Nat) (s : Pool × World τ ς) :
    follow e user (a ++ b) s = follow e user b (follow e user a s) := by
  simp [follow, List.foldl_append]

theorem follow_of_drive {e : Env τ ς} {user : User} {fuel : Nat} {s r : Pool × World τ ς}
    (h : drive e user fuel s = some r) : ∃ schedule, r = follow e user schedule s ∧ r.1.idle = true := by
  induction fuel generalizing s with
  | zero =>
    unfold drive at h
    split at h
    · cases h; exact ⟨[], rfl, by assumption⟩
    · simp at h
  | succ fuel ih =>
    unfold drive at h
    split at h
    · cases h; exact ⟨[], rfl, by assumption⟩
    · obtain ⟨b, hb, hi⟩ := ih h
      exact ⟨List.range s.1.slots.length ++ b, by rw [follow_append]; exact hb, hi⟩

end Pool

end MailboxSync
