import MailboxSync.Failure
import MailboxSync.Service.Soap
import MailboxSync.Text.Blank
import MailboxSync.Xml.Document

/-!
# Responses as documents

* `readBody` — the body of the envelope in some octets;
* `Response.ofBody` — the response of an operation in a body.  Only the first element of a name counts where one is
  expected, everything unknown is passed over, empty ids are dropped;
* `Response.toEnvelope` — a response as an envelope, missing parts left out.
-/

namespace MailboxSync

open Xml Soap

/-- The body of the envelope in some octets.  Only the name of an encoding can be a fault. -/
def readBody (bytes : ByteArray) : Except Trouble Element :=
  match Document.read bytes.toList with
  | .error fault => .error (.fault fault)
  | .ok none => .error (.failure (.protocol .unreadable none))
  | .ok (some root) =>
    if root.name ≠ soap "Envelope" then .error (.failure (.protocol (.notAnEnvelope root.name.text) none))
    else
      match root.child? (soap "Body") with
      | some body => .ok body
      | none => .error (.failure (.protocol .noBody none))

def itemIds (change : Element) : List ItemId :=
  change.elements.filterMap fun item => (item.child? (typ "ItemId")).bind id?

def folderIds (folders : Element) : List FolderId :=
  folders.elements.filterMap fun folder => (folder.child? (typ "FolderId")).bind id?

def FindMessage.ofElement (e : Element) : FindMessage where
  code := childText? e (msg "ResponseCode")
  folders := ((e.children (msg "RootFolder")).findSome? (·.child? (typ "Folders"))).map folderIds
  text := childText? e (msg "MessageText")

def Changes.ofElement (e : Element) : Changes where
  created := (e.children (typ "Create")).flatMap itemIds
  updated := (e.children (typ "Update")).flatMap itemIds
  deleted := (e.children (typ "Delete")).filterMap fun change => (change.child? (typ "ItemId")).bind id?

/-- Reads a flag: it is set by `true` in any case, blanks around it aside. -/
def flagOfText (s : String) : Bool := Text.fold (Text.trimBlank s) = "true"

def SyncMessage.ofElement (e : Element) : SyncMessage where
  code := childText? e (msg "ResponseCode")
  token := childText? e (msg "SyncState")
  last := (childText? e (msg "IncludesLastItemInRange")).map flagOfText
  changes := (e.child? (msg "Changes")).map Changes.ofElement
  text := childText? e (msg "MessageText")

def messageElements (e : Element) (tag : String) : List Element :=
  (e.children (msg "ResponseMessages")).flatMap (·.children (msg tag))

/-- The response of an operation in a body; nothing if the body holds none. -/
def Response.ofBody (op : Operation) (body : Element) : Option Response :=
  match op with
  | .find =>
    (body.child? (msg "FindFolderResponse")).map fun e =>
      .found ((messageElements e "FindFolderResponseMessage").map FindMessage.ofElement)
  | .sync =>
    (body.child? (msg "SyncFolderItemsResponse")).map fun e =>
      .synced ((messageElements e "SyncFolderItemsResponseMessage").map SyncMessage.ofElement)

def Request.responseIn (r : Request) (body : Element) : Except Trouble (Option Response) :=
  match r with
  | .find _ => .ok (Response.ofBody .find body)
  | .sync _ => .ok (Response.ofBody .sync body)
  | .other typeName => .error (.fault (.unsupportedRequest typeName))

/-! ## Writing -/

/-- A part that may be missing. -/
def optional (tag : String) (text : Option String) : List Element := (text.map (leaf (msg tag))).toList

/-- A message of a find response as an element. -/
def FindMessage.element (m : FindMessage) : Element :=
  node (msg "FindFolderResponseMessage")
    (optional "MessageText" m.text ++ optional "ResponseCode" m.code ++
      (m.folders.map fun ids =>
        node (msg "RootFolder")
          [node (typ "Folders") (ids.map fun id => node (typ "Folder") [idElement (typ "FolderId") id] []) []]
            []).toList)
    []

def itemChange (tag : String) (id : ItemId) : Element :=
  node (typ tag) [node (typ "Message") [idElement (typ "ItemId") id] []] []

def Changes.element (c : Changes) : Element :=
  node (msg "Changes")
    (c.created.map (itemChange "Create") ++ c.updated.map (itemChange "Update") ++
      c.deleted.map fun id => node (typ "Delete") [idElement (typ "ItemId") id] [])
    []

/-- A message of a sync response as an element. -/
def SyncMessage.element (m : SyncMessage) : Element :=
  node (msg "SyncFolderItemsResponseMessage")
    (optional "MessageText" m.text ++ optional "ResponseCode" m.code ++ optional "SyncState" m.token ++
      optional "IncludesLastItemInRange" (m.last.map fun b => if b then "true" else "false") ++
      (m.changes.map Changes.element).toList)
    []

def Response.element : Response → Element
  | .found ms => node (msg "FindFolderResponse") [node (msg "ResponseMessages") (ms.map FindMessage.element) []] []
  | .synced ms =>
    node (msg "SyncFolderItemsResponse") [node (msg "ResponseMessages") (ms.map SyncMessage.element) []] []

def Response.toEnvelope (r : Option Response) : Element := envelope [] (r.map Response.element).toList

def Response.write (r : Option Response) : ByteArray := (Document.write .exact prefixes (toEnvelope r)).toUTF8

end MailboxSync
