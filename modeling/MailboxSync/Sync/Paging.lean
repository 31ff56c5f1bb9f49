import MailboxSync.Sync.Page

/-!
# Paging through a folder

Pages follow one another strictly: each request carries the token of the page before it, the first one the token the
folder was left at.

* `Paging` — how far a folder has got in this run;
* `Paging.turn` — one turn: the note on the page before, the look at the cancel event, one request and its page.  The
  last page is noted at once, since no turn follows it;
* `syncFolder` — turns until the last page or the first failure.
-/

namespace MailboxSync

/-- A folder between two pages. -/
structure Paging where
  folder : FolderId
  /-- The token to ask with next. -/
  token : Token
  /-- The new items so far, in the order of their pages. -/
  items : List ItemId := []
  requests : Nat := 0
  /-- The number of new items on the latest page. -/
  fresh : Nat := 0
  deriving DecidableEq, Repr, Inhabited

namespace Paging

def start (folder : FolderId) (token : Token) : Paging := { folder, token }

def add (p : Paging) (page : Page) : Paging :=
  { p with
    token := page.token, items := p.items ++ page.items, requests := p.requests + 1, fresh := page.items.length }

def announce {τ ς : Type} (p : Paging) (w : World τ ς) : World τ ς :=
  if p.requests = 0 then w else w.note .debug s!"Folder {p.folder}: page {p.requests} returned {p.fresh} new items"

/-- One turn; the flag says whether the page was the last. -/
def turn {τ ς : Type} (t : Transport τ) (user : User) (size : Int) (p : Paging) (w : World τ ς) :
    Except Trouble (Paging × Bool) × World τ ς :=
  let w := p.announce w
  if w.cancelled then (.error (.failure (.cancelled (.afterRequests p.folder p.requests))), w)
  else
    match requestPage t p.folder user p.token size w with
    | (.error trouble, w) => (.error trouble, w)
    | (.ok page, w) =>
      let p := p.add page
      (.ok (p, page.last), if page.last then p.announce w else w)

/-- Turns until the last page; nothing when `fuel` turns do not reach it. -/
def run {τ ς : Type} (t : Transport τ) (user : User) (size : Int) :
    (fuel : Nat) → Paging → World τ ς → Option (Except Trouble Paging × World τ ς)
  | 0, _, _ => none
  | fuel + 1, p, w =>
    match p.turn t user size w with
    | (.error trouble, w) => some (.error trouble, w)
    | (.ok (p, true), w) => some (.ok p, w)
    | (.ok (p, false), w) => run t user size fuel p w

end Paging

def syncFolder {τ ς : Type} (t : Transport τ) (fuel : Nat) (folder : FolderId) (user : User) (token : Token)
    (size : Int) (w : World τ ς) : Option (Except Trouble Paging × World τ ς) :=
  (Paging.start folder token).run t user size fuel w

end MailboxSync
