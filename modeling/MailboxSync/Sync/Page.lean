import MailboxSync.Sync.World

/-!
# Pages

One sync request asks for at most `maxPageSize` changes of a folder and gets one page of them.

* `SyncRequest.forPage` — the request, its limit clamped to `1 … maxPageSize`;
* `Page.ofMessages` — what the messages of an answer amount to;
* `requestPage` — one request, from the world to a page or to what went wrong.
-/

namespace MailboxSync

/-- The service refuses to list more changes than this at once. -/
def maxPageSize : Int := 512

/-- The page size that is asked for when `size` is wanted. -/
def clampPageSize (size : Int) : Int := min (max size 1) maxPageSize

theorem clampPageSize_bounds (size : Int) : 1 ≤ clampPageSize size ∧ clampPageSize size ≤ maxPageSize := by
  unfold clampPageSize maxPageSize; omega

/-- The request for one page of changes after `token`. -/
def SyncRequest.forPage (folder : FolderId) (token : Token) (size : Int) : SyncRequest :=
  { folder, token, limit := clampPageSize size }

/-- One page: the new items, the token to go on from, and whether the folder ends here. -/
structure Page where
  items : List ItemId := []
  token : Token := .initial
  last : Bool := false
  deriving DecidableEq, Repr, Inhabited

def Page.more (p : Page) : Bool := !p.last

namespace SyncMessage

/-- The first response code that reports an error, with its text. -/
def firstError (ms : List SyncMessage) : Option (String × String) :=
  ms.findSome? fun m => m.code.bind fun code => if code = noError then none else some (code, m.text.getD "")

/-- The last token that messages carry, `asked` if they carry none. -/
def lastToken (asked : Token) (ms : List SyncMessage) : Token :=
  ms.foldl (fun token m => m.token.getD token) asked

def lastFlag (ms : List SyncMessage) : Bool := ms.foldl (fun last m => m.last.getD last) false

/-- The ids of all created items, empty ids dropped. -/
def newItems (ms : List SyncMessage) : List ItemId :=
  (ms.flatMap fun m => (m.changes.getD {}).created).filter (· ≠ "")

end SyncMessage

/-- The page of an answer without errors to a request that carried `asked`.  An answer without messages ends the
folder: asking again would bring the same. -/
def Page.ofMessages (asked : Token) (ms : List SyncMessage) : Page where
  items := SyncMessage.newItems ms
  token := SyncMessage.lastToken asked ms
  last := ms.isEmpty || SyncMessage.lastFlag ms

/-- Requests one page.  An error code in any message fails the whole page. -/
def requestPage {τ ς : Type} (t : Transport τ) (folder : FolderId) (user : User) (token : Token) (size : Int)
    (w : World τ ς) : Except Trouble Page × World τ ς :=
  match w.ask t user (.sync (.forPage folder token size)) with
  | (.error trouble, w) => (.error trouble, w)
  | (.ok none, w) =>
    (.error (.failure (.protocol .noSyncResponse none)),
      w.note .debug s!"Null sync folder items response for {user} folder {folder}")
  | (.ok (some (.found ms)), w) =>
    (.error (.failure (.protocol (.wrongKind .sync (Response.found ms).typeName) none)), w)
  | (.ok (some (.synced ms)), w) =>
    match SyncMessage.firstError ms with
    | some (code, text) =>
      (.error (.failure (.protocol .errorCode (some code))),
        w.note .debug s!"Sync of folder {folder} for {user} failed: {code} {text}")
    | none =>
      (.ok (.ofMessages token ms),
        if ms.isEmpty then w.note .debug s!"Exchange responded without any messages for folder {folder}" else w)

end MailboxSync
