import MailboxSync.Text.Fold

/-!
# Messages of the mailbox service

* `Request` — the two operations the sync needs: find the folders below a root, and list the changes of a folder
  since a continuation token;
* `Response` — a list of messages of one of the two kinds, every part of which may be missing;
* `Request.isDistinguished` — whether the target is one of the nine folders that have a name of their own.
-/

namespace MailboxSync

/-- The mailbox owner on whose behalf a request is made. -/
abbrev User := String
/-- A folder id, or the name of a distinguished folder. -/
abbrev FolderId := String
abbrev ItemId := String
/-- An opaque continuation token; the empty one belongs to a folder that has never been synced. -/
abbrev Token := String

/-- The token of a folder that has never been synced. -/
def Token.initial : Token := ""

/-- The response code of a message that reports success. -/
def noError : String := "NoError"

/-- Folder names that stand for themselves; every other target is an id. -/
def distinguishedFolders : List FolderId :=
  ["msgfolderroot", "root", "inbox", "drafts", "sentitems", "deleteditems", "outbox", "junkemail",
    "archivemsgfolderroot"]

/-- The two operations. -/
inductive Operation where
  | find
  | sync
  deriving DecidableEq, Repr, Inhabited

/-- Asks for every folder below `root`. -/
structure FindRequest where
  root : FolderId
  traversal : String := "Deep"
  shape : String := "IdOnly"
  deriving DecidableEq, Repr, Inhabited

/-- Asks for at most `limit` changes of `folder` after `token`. -/
structure SyncRequest where
  folder : FolderId
  token : Token
  limit : Int
  shape : String := "IdOnly"
  deriving DecidableEq, Repr, Inhabited

/-- A request; `other` is one that belongs to neither operation and is known by the name of its type. -/
inductive Request where
  | find (request : FindRequest)
  | sync (request : SyncRequest)
  | other (typeName : String)
  deriving DecidableEq, Repr, Inhabited

/-- Whether a target is one of the distinguished folders, in any case. -/
def isDistinguished (target : FolderId) : Bool :=
  distinguishedFolders.contains (Text.fold target)

/-- One message of a find response; `folders` is missing when the message has no folder section. -/
structure FindMessage where
  code : Option String := some noError
  folders : Option (List FolderId) := none
  text : Option String := none
  deriving DecidableEq, Repr, Inhabited

/-- Item ids by kind of change; only `created` ones are collected. -/
structure Changes where
  created : List ItemId := []
  updated : List ItemId := []
  deleted : List ItemId := []
  deriving DecidableEq, Repr, Inhabited

/-- One message of a sync response. -/
structure SyncMessage where
  code : Option String := some noError
  token : Option Token := none
  last : Option Bool := none
  changes : Option Changes := none
  text : Option String := none
  deriving DecidableEq, Repr, Inhabited

/-- A response of either kind. -/
inductive Response where
  | found (messages : List FindMessage)
  | synced (messages : List SyncMessage)
  deriving DecidableEq, Repr, Inhabited

def Response.operation : Response → Operation
  | .found _ => .find
  | .synced _ => .sync

/-- The name of the type of a response, as error texts give it. -/
def Response.typeName (r : Response) : String :=
  match r.operation with
  | .find => "FindFolderResponse"
  | .sync => "SyncFolderItemsResponse"

end MailboxSync
