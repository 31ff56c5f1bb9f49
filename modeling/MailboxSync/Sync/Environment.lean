import MailboxSync.Failure
import MailboxSync.Note
import MailboxSync.Time.Stamp

/-!
# What a run depends on

* `Transport τ` — carries one request to the mailbox service, whose own state is a `τ`;
* `Stores ς` — where progress is kept: a continuation token for each user and folder, a watermark for each user.

Both are ordinary functions on their state, so a run over them is a function too and two runs can be compared.
-/

namespace MailboxSync

/-- The response to a request, nothing if the answer lacks the expected section, or what went wrong. -/
abbrev Reply.Outcome := Except Trouble (Option Response)

/-- What comes of one request. -/
structure Reply where
  outcome : Reply.Outcome
  /-- Whether the caller's cancel event got set while the request was under way. -/
  cancels : Bool := false
  notes : List Note := []
  deriving Repr

/-- Carries requests on behalf of users. -/
structure Transport (τ : Type) where
  send : τ → User → Request → Reply × τ

/-- Keeps progress.  Reading does not change a store, and an access that fails leaves it as it was. -/
structure Stores (ς : Type) where
  token : ς → User → FolderId → Except Fault (Token × List Note)
  saveToken : ς → User → FolderId → Token → Except Fault (ς × List Note)
  watermark : ς → User → Except Fault (Instant × List Note)
  saveWatermark : ς → User → Stamp → Except Fault (ς × List Note)

/-- Page sizes and worker bound of a run, each at least one. -/
structure Config where
  idPageSize : Nat := 512
  itemPageSize : Nat := 100
  maxFolderWorkers : Nat := 4
  idPageSize_pos : 0 < idPageSize := by decide
  itemPageSize_pos : 0 < itemPageSize := by decide
  maxFolderWorkers_pos : 0 < maxFolderWorkers := by decide
  deriving DecidableEq, Repr

instance : Inhabited Config := ⟨{}⟩

def atLeastOne (n : Int) : Nat := max n.toNat 1

theorem atLeastOne_pos (n : Int) : 0 < atLeastOne n := Nat.lt_of_lt_of_le Nat.one_pos (Nat.le_max_right _ _)

/-- The configuration with given sizes, those below one raised to one. -/
def Config.ofSizes (idPageSize itemPageSize maxFolderWorkers : Int) : Config where
  idPageSize := atLeastOne idPageSize
  itemPageSize := atLeastOne itemPageSize
  maxFolderWorkers := atLeastOne maxFolderWorkers
  idPageSize_pos := atLeastOne_pos _
  itemPageSize_pos := atLeastOne_pos _
  maxFolderWorkers_pos := atLeastOne_pos _

/-- Everything a run needs besides the state of the world. -/
structure Env (τ ς : Type) where
  transport : Transport τ
  stores : Stores ς
  config : Config := {}
  /-- The current time. -/
  clock : Instant := .epoch

end MailboxSync
