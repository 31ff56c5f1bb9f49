import MailboxSync.Proofs.Folder

/-!
# What reading a reply depends on

Empty ids in a reply are none, and updated and deleted items are not collected.

* `FolderSet.read` — the folders a reply to a find request amounts to, as `Page.read` is for a sync request;
* `discover_eq`, `requestPage_eq` — both requests ask, read the reply, and write notes about it;
* `Reply.Outcome.trimmed` — a reply without its empty ids, which reads as the reply itself (`FolderSet.read_congr`,
  `Page.read_congr`).
-/

namespace MailboxSync

/-- What the reply to a find request amounts to. -/
def FolderSet.read : Reply.Outcome → Except Trouble FolderSet
  | .error trouble => .error trouble
  | .ok none => .error (.failure (.protocol .noFindResponse none))
  | .ok (some (.synced ms)) => .error (.failure (.protocol (.wrongKind .find (Response.synced ms).typeName) none))
  | .ok (some (.found ms)) =>
    match FindMessage.firstError ms with
    | some (code, _) => .error (.failure (.protocol .errorCode (some code)))
    | none => .ok (FindMessage.folderSet ms)

section Requests

variable {τ ς : Type}

theorem discover_eq (t : Transport τ) (root : FolderId) (user : User) (w : World τ ς) :
    ∃ notes, discover t root user w = (FolderSet.read (w.ask t user (.find (.forRoot root))).1,
      (w.ask t user (.find (.forRoot root))).2.noteAll notes) := by
  unfold discover
  generalize w.ask t user (.find (.forRoot root)) = r
  obtain ⟨o, w'⟩ := r
  rcases o with trouble | _ | ms | ms
  · exact ⟨[], rfl⟩
  · exact ⟨[_], rfl⟩
  · simp only [FolderSet.read]
    cases FindMessage.firstError ms with
    | some error => exact ⟨[_], rfl⟩
    | none => exact ⟨[_], rfl⟩
  · exact ⟨[], rfl⟩

/-- The request for a page reads its reply. -/
theorem requestPage_eq (t : Transport τ) (folder : FolderId) (user : User) (token : Token) (size : Int)
    (w : World τ ς) :
    ∃ notes, requestPage t folder user token size w =
      (Page.read token (w.ask t user (.sync (.forPage folder token size))).1,
        (w.ask t user (.sync (.forPage folder token size))).2.noteAll notes) := by
  unfold requestPage
  generalize w.ask t user (.sync (.forPage folder token size)) = r
  obtain ⟨o, w'⟩ := r
  rcases o with trouble | _ | ms | ms
  · exact ⟨[], rfl⟩
  · exact ⟨[_], rfl⟩
  · exact ⟨[], rfl⟩
  · simp only [Page.read]
    cases SyncMessage.firstError ms with
    | some error => exact ⟨[_], rfl⟩
    | none =>
      simp only
      split
      · exact ⟨[_], rfl⟩
      · exact ⟨[], rfl⟩

end Requests

/-! ## Replies without empty ids -/

/-- The ids of a list that are not empty. -/
def nonempty (ids : List String) : List String := ids.filter (· ≠ "")

@[simp] theorem nonempty_nonempty (ids : List String) : nonempty (nonempty ids) = nonempty ids := by simp [nonempty]

def FindMessage.trimmed (m : FindMessage) : FindMessage := { m with folders := m.folders.map nonempty }

def Changes.trimmed (c : Changes) : Changes := ⟨nonempty c.created, nonempty c.updated, nonempty c.deleted⟩

def SyncMessage.trimmed (m : SyncMessage) : SyncMessage := { m with changes := m.changes.map Changes.trimmed }

def Response.trimmed : Response → Response
  | .found ms => .found (ms.map FindMessage.trimmed)
  | .synced ms => .synced (ms.map SyncMessage.trimmed)

def Reply.Outcome.trimmed (o : Reply.Outcome) : Reply.Outcome := o.map (Option.map Response.trimmed)

@[simp] theorem Changes.trimmed_trimmed (c : Changes) : c.trimmed.trimmed = c.trimmed := by simp [trimmed]

@[simp] theorem Response.trimmed_trimmed (r : Response) : r.trimmed.trimmed = r.trimmed := by
  cases r with
  | found ms => simp [Response.trimmed, FindMessage.trimmed, Function.comp_def]
  | synced ms => simp [Response.trimmed, SyncMessage.trimmed, Function.comp_def]

@[simp] theorem Reply.Outcome.trimmed_trimmed (o : Reply.Outcome) : trimmed (trimmed o) = trimmed o := by
  rcases o with _ | _ | r
  · rfl
  · rfl
  · exact congrArg (fun r => Except.ok (some r)) r.trimmed_trimmed

theorem FindMessage.firstError_trimmed (ms : List FindMessage) :
    firstError (ms.map FindMessage.trimmed) = firstError ms := by
  simp [firstError, List.findSome?_map, Function.comp_def, FindMessage.trimmed]

theorem FindMessage.folderSet_trimmed (ms : List FindMessage) :
    folderSet (ms.map FindMessage.trimmed) = folderSet ms := by
  have h (m : FindMessage) :
    (m.trimmed.folders.getD []).filter (· ≠ "") = (m.folders.getD []).filter (· ≠ "") := by
    cases hm : m.folders <;> simp [FindMessage.trimmed, hm, nonempty]
  simp only [folderSet, List.flatMap_map, List.filter_flatMap, h]

theorem SyncMessage.firstError_trimmed (ms : List SyncMessage) :
    firstError (ms.map SyncMessage.trimmed) = firstError ms := by
  simp [firstError, List.findSome?_map, Function.comp_def, SyncMessage.trimmed]

theorem Page.ofMessages_trimmed (asked : Token) (ms : List SyncMessage) :
    Page.ofMessages asked (ms.map SyncMessage.trimmed) = Page.ofMessages asked ms := by
  have h (m : SyncMessage) :
      ((m.trimmed.changes.getD {}).created).filter (· ≠ "") = ((m.changes.getD {}).created).filter (· ≠ "") := by
    cases hm : m.changes <;> simp [SyncMessage.trimmed, Changes.trimmed, hm, nonempty]
  simp only [Page.ofMessages, SyncMessage.newItems, SyncMessage.lastToken, SyncMessage.lastFlag, List.flatMap_map,
    List.filter_flatMap, List.foldl_map, List.isEmpty_map, h]
  rfl

theorem FolderSet.read_trimmed (o : Reply.Outcome) : FolderSet.read o.trimmed = FolderSet.read o := by
  rcases o with _ | _ | ms | ms
  · rfl
  · rfl
  · simp [Reply.Outcome.trimmed, Except.map, Response.trimmed, FolderSet.read, FindMessage.firstError_trimmed,
      FindMessage.folderSet_trimmed]
  · rfl

theorem Page.read_trimmed (asked : Token) (o : Reply.Outcome) : Page.read asked o.trimmed = Page.read asked o := by
  rcases o with _ | _ | ms | ms
  · rfl
  · rfl
  · rfl
  · simp [Reply.Outcome.trimmed, Except.map, Response.trimmed, Page.read, SyncMessage.firstError_trimmed,
      Page.ofMessages_trimmed]

theorem FolderSet.read_congr {o o' : Reply.Outcome} (h : o.trimmed = o'.trimmed) : read o = read o' := by
  rw [← read_trimmed o, h, read_trimmed]

theorem Page.read_congr (asked : Token) {o o' : Reply.Outcome} (h : o.trimmed = o'.trimmed) :
    read asked o = read asked o' := by
  rw [← read_trimmed asked o, h, read_trimmed]

end MailboxSync
