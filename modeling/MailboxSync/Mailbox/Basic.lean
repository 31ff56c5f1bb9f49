import MailboxSync.Service.Message
import MailboxSync.Store.Table
import MailboxSync.Text.Decimal

/-!
# A mailbox that serves by offset

Every folder is a list of changes that only grows; a token `folder@k` says that the first `k` changes of `folder` have
been served, the empty token that none has.

* `Mailbox.answer` — what the mailbox answers to a request;
* `OffsetToken` — tokens as text.
-/

namespace MailboxSync

/-- One entry of a folder. -/
inductive Change where
  | created (id : ItemId)
  | updated (id : ItemId)
  | deleted (id : ItemId)
  deriving DecidableEq, Repr, Inhabited

/-- Reads an entry: `u:x` is an update of `x`, `d:x` its deletion, everything else a creation. -/
def Change.ofText (s : String) : Change :=
  match s.toList with
  | 'u' :: ':' :: id => .updated (String.ofList id)
  | 'd' :: ':' :: id => .deleted (String.ofList id)
  | _ => .created s

namespace Change

def created? : Change → Option ItemId
  | created id => some id
  | _ => none

def updated? : Change → Option ItemId
  | updated id => some id
  | _ => none

def deleted? : Change → Option ItemId
  | deleted id => some id
  | _ => none

end Change

namespace OffsetToken

/-- The token after the first `offset` changes of a folder. -/
def write (folder : FolderId) (offset : Nat) : Token := folder ++ "@" ++ Decimal.ofNat offset

/-- The parts of a list before and after its last `x`. -/
def splitLast {α : Type} [DecidableEq α] (x : α) : List α → Option (List α × List α)
  | [] => none
  | y :: ys =>
    match splitLast x ys with
    | some (before, after) => some (y :: before, after)
    | none => if y = x then some ([], ys) else none

/-- The number of changes of `folder` a token stands for, unless it belongs to another folder or is no token. -/
def offset? (folder : FolderId) (token : Token) : Option Nat :=
  if token = Token.initial then some 0
  else
    match splitLast '@' token.toList with
    | some (name, digits) => if name = folder.toList then Decimal.number? digits else none
    | none => none

theorem splitLast_none {α : Type} [DecidableEq α] {x : α} {ys : List α} (h : x ∉ ys) : splitLast x ys = none := by
  induction ys with
  | nil => rfl
  | cons y ys ih => grind [splitLast]

theorem splitLast_append {α : Type} [DecidableEq α] {x : α} (xs : List α) {ys : List α} (h : x ∉ ys) :
    splitLast x (xs ++ x :: ys) = some (xs, ys) := by
  induction xs with
  | nil => simp [splitLast, splitLast_none h]
  | cons z zs ih => simp [splitLast, ih]

theorem offset?_write (folder : FolderId) (offset : Nat) : offset? folder (write folder offset) = some offset := by
  have hl : (write folder offset).toList = folder.toList ++ '@' :: Decimal.digits offset := by
    simp [write, Decimal.ofNat]
  have hne : write folder offset ≠ Token.initial := by
    intro h
    rw [h] at hl
    simp [Token.initial] at hl
  have hd : '@' ∉ Decimal.digits offset := fun hm =>
    absurd (List.all_eq_true.mp (Decimal.all_isDigit_digits offset) _ hm) (by decide)
  simp [offset?, hne, hl, splitLast_append _ hd, Decimal.number?_digits]

end OffsetToken

/-- Folders with their changes, and the folders below some roots; below every other root lie all folders. -/
structure Mailbox where
  folders : Table FolderId (List Change) := {}
  roots : Table FolderId (List FolderId) := {}
  deriving Repr, Inhabited

namespace Mailbox

/-- The changes of a folder; an unknown one has none. -/
def changes (m : Mailbox) (folder : FolderId) : List Change := (m.folders.get? folder).getD []

def names (m : Mailbox) : List FolderId := m.folders.entries.map (·.1)

def below (m : Mailbox) (root : FolderId) : List FolderId := (m.roots.get? root).getD m.names

def append (m : Mailbox) (folder : FolderId) (changes : List Change) : Mailbox :=
  { m with folders := m.folders.put folder (m.changes folder ++ changes) }

def remove (m : Mailbox) (folder : FolderId) : Mailbox := { m with folders := m.folders.eraseIf (· = folder) }

def page (changes : List Change) : Changes where
  created := changes.filterMap Change.created?
  updated := changes.filterMap Change.updated?
  deleted := changes.filterMap Change.deleted?

/-- The message that serves at most `limit` changes of a folder after `token`. -/
def serve (m : Mailbox) (folder : FolderId) (token : Token) (limit : Int) : SyncMessage :=
  match OffsetToken.offset? folder token with
  | none => { code := some "ErrorInvalidSyncStateData" }
  | some offset =>
    let all := m.changes folder
    let served := (all.drop offset).take limit.toNat
    let stop := offset + served.length
    { token := some (OffsetToken.write folder stop), last := some (all.length ≤ stop), changes := some (page served) }

/-- What the mailbox answers; to a request it does not know, nothing. -/
def answer (m : Mailbox) : Request → Option Response
  | .find r => some (.found [{ folders := some (m.below r.root) }])
  | .sync r => some (.synced [m.serve r.folder r.token r.limit])
  | .other _ => none

end Mailbox

end MailboxSync
