import MailboxSync.Sync.World

/-!
# Folder discovery

One find request lists every folder below a root.  The result is a set, kept as the list of its members in code point
order: the service may list folders in any order, repeat them and spread them over messages, and empty ids are none.
-/

namespace MailboxSync

/-- A set of folders: its members, each once, in code point order. -/
abbrev FolderSet := List FolderId

namespace FolderSet

def insert (folder : FolderId) : FolderSet → FolderSet
  | [] => [folder]
  | f :: fs => if folder < f then folder :: f :: fs else if folder = f then f :: fs else f :: insert folder fs

def insertAll (folders : List FolderId) (set : FolderSet) : FolderSet := folders.foldl (fun s f => insert f s) set

def ofList (folders : List FolderId) : FolderSet := insertAll folders []

theorem mem_insert {x f : FolderId} {s : FolderSet} : x ∈ insert f s ↔ x = f ∨ x ∈ s := by
  induction s with
  | nil => simp [insert]
  | cons g gs ih =>
    unfold insert
    split
    · simp
    · split
      · rename_i h; subst h; simp
      · simp only [List.mem_cons, ih]; exact or_left_comm

theorem mem_insertAll {x : FolderId} {fs : List FolderId} {s : FolderSet} :
    x ∈ insertAll fs s ↔ x ∈ fs ∨ x ∈ s := by
  induction fs generalizing s with
  | nil => simp [insertAll]
  | cons f fs ih =>
    have h : insertAll (f :: fs) s = insertAll fs (insert f s) := rfl
    rw [h, ih, mem_insert, List.mem_cons, or_left_comm, or_assoc]

theorem mem_ofList {x : FolderId} {fs : List FolderId} : x ∈ ofList fs ↔ x ∈ fs := by
  simp [ofList, mem_insertAll]

end FolderSet

/-- The first response code of find messages that reports an error, with its text. -/
def FindMessage.firstError (ms : List FindMessage) : Option (String × String) :=
  ms.findSome? fun m => m.code.bind fun code => if code = noError then none else some (code, m.text.getD "")

/-- The folders that find messages list. -/
def FindMessage.folderSet (ms : List FindMessage) : FolderSet :=
  FolderSet.ofList ((ms.flatMap fun m => m.folders.getD []).filter (· ≠ ""))

def FindRequest.forRoot (root : FolderId) : FindRequest := { root }

/-- The folders below `root`. -/
def discover {τ ς : Type} (t : Transport τ) (root : FolderId) (user : User) (w : World τ ς) :
    Except Trouble FolderSet × World τ ς :=
  match w.ask t user (.find (.forRoot root)) with
  | (.error trouble, w) => (.error trouble, w)
  | (.ok none, w) =>
    (.error (.failure (.protocol .noFindResponse none)),
      w.note .error s!"Null find folder response for {user} under {root}")
  | (.ok (some (.synced ms)), w) =>
    (.error (.failure (.protocol (.wrongKind .find (Response.synced ms).typeName) none)), w)
  | (.ok (some (.found ms)), w) =>
    match FindMessage.firstError ms with
    | some (code, text) =>
      (.error (.failure (.protocol .errorCode (some code))),
        w.note .debug s!"Find folder for {user} under {root} failed: {code} {text}")
    | none =>
      let folders := FindMessage.folderSet ms
      (.ok folders, w.note .info s!"Discovered {folders.length} folders for {user} under {root}")

end MailboxSync
