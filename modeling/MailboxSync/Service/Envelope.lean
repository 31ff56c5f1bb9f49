import MailboxSync.Failure
import MailboxSync.Service.Soap
import MailboxSync.Text.Decimal
import MailboxSync.Xml.Document

/-!
# Requests as documents

* `Request.toEnvelope` — the envelope of a request on behalf of a user;
* `Request.write` — the envelope as octets;
* `Request.ofEnvelope?` — what the service makes of an envelope.

A distinguished folder is named in lower case; an empty token is left out.  A request whose limit has too many digits
cannot be written.
-/

namespace MailboxSync

open Xml Soap

/-- The element that names the target of a request. -/
def targetElement (target : FolderId) : Element :=
  if isDistinguished target then idElement (typ "DistinguishedFolderId") (Text.fold target)
  else idElement (typ "FolderId") target

/-- The element that says which shape is asked for. -/
def shapeElement (tag shape : String) : Element := node (msg tag) [leaf (typ "BaseShape") shape] []

def FindRequest.element (r : FindRequest) : Element :=
  node (msg "FindFolder")
    [shapeElement "FolderShape" r.shape, node (msg "ParentFolderIds") [targetElement r.root] []]
    [(⟨"", "Traversal"⟩, r.traversal)]

def SyncRequest.element (r : SyncRequest) : Element :=
  node (msg "SyncFolderItems")
    ([shapeElement "ItemShape" r.shape, node (msg "SyncFolderId") [targetElement r.folder] []] ++
      (if r.token = "" then [] else [leaf (msg "SyncState") r.token]) ++
      [leaf (msg "MaxChangesReturned") (Decimal.ofInt r.limit)])
    []

def headerElement (user : User) : Element :=
  node (soap "Header")
    [node (typ "ExchangeImpersonation") [node (typ "ConnectingSID") [leaf (typ "PrincipalName") user] []] []] []

/-- Whether the numbers of a request are short enough to be written. -/
def Request.fits : Request → Bool
  | .sync r => Decimal.fits r.limit
  | _ => true

def Request.toEnvelope (user : User) : Request → Except Fault Element
  | .find r => .ok (envelope [headerElement user] [r.element])
  | .sync r => if Decimal.fits r.limit then .ok (envelope [headerElement user] [r.element]) else .error .numberTooLong
  | .other typeName => .error (.unsupportedRequest typeName)

theorem Request.toEnvelope_sync {r : SyncRequest} (h : Decimal.fits r.limit = true) (user : User) :
    (Request.sync r).toEnvelope user = .ok (envelope [headerElement user] [r.element]) := if_pos h

def Request.write (user : User) (r : Request) : Except Fault String :=
  (r.toEnvelope user).map (Document.write .plain prefixes)

theorem Request.write_of_not_fits {r : Request} (h : r.fits = false) (user : User) :
    r.write user = .error .numberTooLong := by
  cases r with
  | find r => cases h
  | sync r =>
    have hlong : ¬Decimal.fits r.limit = true := by simpa [fits] using h
    exact congrArg _ (if_neg hlong)
  | other typeName => cases h

/-! ## Reading -/

def target? (e : Element) : Option FolderId :=
  ((e.child? (typ "DistinguishedFolderId")).or (e.child? (typ "FolderId"))).bind (·.attr? idName)

def shape? (e : Element) (tag : String) : Option String :=
  (e.child? (msg tag)).bind fun shape => childText? shape (typ "BaseShape")

def FindRequest.ofElement? (e : Element) : Option FindRequest := do
  let root ← (e.child? (msg "ParentFolderIds")).bind target?
  let traversal ← e.attr? ⟨"", "Traversal"⟩
  let shape ← shape? e "FolderShape"
  some { root, traversal, shape }

def SyncRequest.ofElement? (e : Element) : Option SyncRequest := do
  let folder ← (e.child? (msg "SyncFolderId")).bind target?
  let limit ← (childText? e (msg "MaxChangesReturned")).bind Decimal.int?
  let shape ← shape? e "ItemShape"
  some { folder, token := (childText? e (msg "SyncState")).getD "", limit, shape }

/-- The user on whose behalf an envelope is sent. -/
def principal? (root : Element) : Option User := do
  let header ← root.child? (soap "Header")
  let impersonation ← header.child? (typ "ExchangeImpersonation")
  let sid ← impersonation.child? (typ "ConnectingSID")
  childText? sid (typ "PrincipalName")

/-- Reads an envelope: the user and the request. -/
def Request.ofEnvelope? (root : Element) : Option (User × Request) :=
  if root.name ≠ soap "Envelope" then none
  else do
    let user ← principal? root
    let body ← root.child? (soap "Body")
    match body.child? (msg "FindFolder") with
    | some e => (FindRequest.ofElement? e).map fun r => (user, .find r)
    | none =>
      let e ← body.child? (msg "SyncFolderItems")
      (SyncRequest.ofElement? e).map fun r => (user, .sync r)

def Request.read? (bytes : ByteArray) : Option (User × Request) :=
  match Document.read bytes.toList with
  | .ok (some root) => Request.ofEnvelope? root
  | _ => none

end MailboxSync
