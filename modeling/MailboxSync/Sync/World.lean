import MailboxSync.Sync.Environment

/-!
# The world of a run

* `World` — the state of the service, the state of the stores, the caller's cancel event and the journal;
* `Event` — what the journal holds: requests with what came of them, progress written, notes;
* `World.ask`, `World.readToken`, `World.writeToken`, … — the only ways a run touches the world; each records what
  it did.

The journal is kept newest first; `World.events` is the order of time.
-/

namespace MailboxSync

/-- What happened. -/
inductive Event where
  | asked (user : User) (request : Request) (outcome : Reply.Outcome)
  | savedToken (user : User) (folder : FolderId) (token : Token)
  | savedWatermark (user : User) (instant : Instant)
  | noted (note : Note)
  deriving Repr

/-- The state a run works on.  `cancel` is missing when the caller has no cancel event, else says whether it is set. -/
structure World (τ ς : Type) where
  remote : τ
  stores : ς
  cancel : Option Bool := none
  journal : List Event := []

namespace World

variable {τ ς : Type}

def events (w : World τ ς) : List Event := w.journal.reverse

def cancelled (w : World τ ς) : Bool := w.cancel = some true

/-- Sets the caller's cancel event, if there is one. -/
def trip (w : World τ ς) : World τ ς := { w with cancel := w.cancel.map fun _ => true }

def record (w : World τ ς) (e : Event) : World τ ς := { w with journal := e :: w.journal }

def note (w : World τ ς) (level : Level) (text : String) : World τ ς := w.record (.noted ⟨level, text⟩)

def noteAll (w : World τ ς) (notes : List Note) : World τ ς := notes.foldl (fun w n => w.record (.noted n)) w

/-- Sends a request. -/
def ask (t : Transport τ) (user : User) (request : Request) (w : World τ ς) :
    Reply.Outcome × World τ ς :=
  let (reply, remote) := t.send w.remote user request
  let w := { w with remote }.record (.asked user request reply.outcome)
  let w := if reply.cancels then w.trip else w
  (reply.outcome, w.noteAll reply.notes)

/-- Reads a continuation token. -/
def readToken (s : Stores ς) (user : User) (folder : FolderId) (w : World τ ς) : Except Fault Token × World τ ς :=
  match s.token w.stores user folder with
  | .error fault => (.error fault, w)
  | .ok (token, notes) => (.ok token, w.noteAll notes)

/-- Writes a continuation token. -/
def writeToken (s : Stores ς) (user : User) (folder : FolderId) (token : Token) (w : World τ ς) :
    Except Fault Unit × World τ ς :=
  match s.saveToken w.stores user folder token with
  | .error fault => (.error fault, w)
  | .ok (stores, notes) => (.ok (), ({ w with stores }.record (.savedToken user folder token)).noteAll notes)

/-- Reads a watermark. -/
def readWatermark (s : Stores ς) (user : User) (w : World τ ς) : Except Fault Instant × World τ ς :=
  match s.watermark w.stores user with
  | .error fault => (.error fault, w)
  | .ok (instant, notes) => (.ok instant, w.noteAll notes)

/-- Writes a watermark. -/
def writeWatermark (s : Stores ς) (user : User) (instant : Instant) (w : World τ ς) :
    Except Fault Unit × World τ ς :=
  match s.saveWatermark w.stores user (.ofInstant instant) with
  | .error fault => (.error fault, w)
  | .ok (stores, notes) => (.ok (), ({ w with stores }.record (.savedWatermark user instant)).noteAll notes)

/-! ## The journal and the rest of the world -/

@[simp] theorem noteAll_nil (w : World τ ς) : w.noteAll [] = w := rfl

theorem noteAll_journal (w : World τ ς) (ns : List Note) :
    (w.noteAll ns).journal = (ns.map Event.noted).reverse ++ w.journal := by
  induction ns generalizing w with
  | nil => rfl
  | cons n ns ih => simp only [noteAll, List.foldl_cons] at ih ⊢; rw [ih]; simp [record]

@[simp] theorem noteAll_stores (w : World τ ς) (ns : List Note) : (w.noteAll ns).stores = w.stores := by
  induction ns generalizing w with
  | nil => rfl
  | cons n ns ih => simp only [noteAll, List.foldl_cons] at ih ⊢; rw [ih]; rfl

@[simp] theorem noteAll_remote (w : World τ ς) (ns : List Note) : (w.noteAll ns).remote = w.remote := by
  induction ns generalizing w with
  | nil => rfl
  | cons n ns ih => simp only [noteAll, List.foldl_cons] at ih ⊢; rw [ih]; rfl

@[simp] theorem noteAll_cancel (w : World τ ς) (ns : List Note) : (w.noteAll ns).cancel = w.cancel := by
  induction ns generalizing w with
  | nil => rfl
  | cons n ns ih => simp only [noteAll, List.foldl_cons] at ih ⊢; rw [ih]; rfl

end World

end MailboxSync
