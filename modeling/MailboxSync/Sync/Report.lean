import MailboxSync.Sync.Pool

/-!
# Reports

What a user's run came to: the result of every folder that ended, in the order they ended, the watermark if every
folder finished, and the failure the run is blamed on otherwise.
-/

namespace MailboxSync

/-- What a user's run came to. -/
structure Report where
  user : User
  roots : List FolderId := []
  folders : List FolderResult := []
  watermark : Option Instant := none
  error : Option Failure := none
  deriving Repr, Inhabited

/-- Results by folder: a result replaces an earlier one of the same folder, in its place. -/
def FolderResult.put (r : FolderResult) : List FolderResult → List FolderResult
  | [] => [r]
  | q :: qs => if q.folder = r.folder then r :: qs else q :: put r qs

/-- The results that count when several may be of one folder. -/
def FolderResult.latest (rs : List FolderResult) : List FolderResult := rs.foldl (fun acc r => r.put acc) []

namespace Report

def ok (r : Report) : Bool := r.error.isNone

def finished (r : Report) : List FolderResult := r.folders.filter (·.ok)

def itemIds (r : Report) : List (FolderId × List ItemId) := r.finished.map fun f => (f.folder, f.items)

/-- The folders that did not finish, in code point order. -/
def failedFolders (r : Report) : List FolderId :=
  ((r.folders.filter (!·.ok)).map (·.folder)).mergeSort (· ≤ ·)

/-- How many new items the finished folders brought. -/
def totalItems (r : Report) : Nat := (r.finished.map (·.items.length)).foldr (· + ·) 0

end Report

end MailboxSync
