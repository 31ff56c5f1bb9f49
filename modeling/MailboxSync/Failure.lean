import MailboxSync.Fault
import MailboxSync.Service.Message

/-!
# Failures of a sync

* `Failure` — the taxonomy: a request that did not get through, a malformed or refused answer, an empty answer, a
  cancelled run, and a fault that ended a user's run;
* `Trouble` — what can end a request: a failure or a fault;
* `Failure.message` — every wording, with the status or response code in front where there is one.
-/

namespace MailboxSync

/-- Why a request did not get through. -/
inductive Undelivered where
  | badStatus
  | timedOut (detail : String)
  | unreachable (detail : String)
  | said (text : String)
  deriving DecidableEq, Repr, Inhabited

/-- What is wrong with an answer. -/
inductive Malformed where
  | noFindResponse
  | noSyncResponse
  | wrongKind (wanted : Operation) (got : String)
  | errorCode
  | unreadable
  | notAnEnvelope (root : String)
  | noBody
  | said (text : String)
  deriving DecidableEq, Repr, Inhabited

/-- Where a run was cut off. -/
inductive CutOff where
  | duringDiscovery (user : User)
  | afterRequests (folder : FolderId) (requests : Nat)
  | notStarted (folder : FolderId)
  | said (text : String)
  deriving DecidableEq, Repr, Inhabited

/-- Why there is nothing to read. -/
inductive Emptiness where
  | emptyBody
  | said (text : String)
  deriving DecidableEq, Repr, Inhabited

/-- The failures a sync reports. -/
inductive Failure where
  | transport (reason : Undelivered) (status : Option Int)
  | protocol (reason : Malformed) (code : Option String)
  | emptyResponse (reason : Emptiness)
  | cancelled (reason : CutOff)
  | unexpected (message : String) (cause : Option Fault)
  deriving DecidableEq, Repr, Inhabited

/-- What ends a request that gives no response. -/
inductive Trouble where
  | failure (failure : Failure)
  | fault (fault : Fault)
  deriving DecidableEq, Repr, Inhabited

def Undelivered.text : Undelivered → String
  | .badStatus => "Exchange returned an HTTP error."
  | .timedOut detail => s!"Request to Exchange timed out: {detail}"
  | .unreachable detail => s!"Error sending request to Exchange: {detail}"
  | .said text => text

def Malformed.text : Malformed → String
  | .noFindResponse => "Exchange service returned null find folder response."
  | .noSyncResponse => "Null response from Exchange service."
  | .wrongKind .find got => s!"Unexpected response type {got} for find folder."
  | .wrongKind .sync got => s!"Unexpected response type {got} for sync folder items."
  | .errorCode => "SOAP response contained an error."
  | .unreadable => "Error parsing SOAP response"
  | .notAnEnvelope root => s!"Response is not a SOAP envelope (root element {root})."
  | .noBody => "SOAP response did not contain a body."
  | .said text => text

def CutOff.text : CutOff → String
  | .duringDiscovery user => s!"Sync of {user} cancelled during folder discovery."
  | .afterRequests folder requests => s!"Sync of folder {folder} cancelled after {requests} requests."
  | .notStarted folder => s!"Sync of folder {folder} not started, run stopped."
  | .said text => text

def Emptiness.text : Emptiness → String
  | .emptyBody => "Response has empty body."
  | .said text => text

/-- The text of a failure: a transport failure names its status, a protocol failure its response code. -/
def Failure.message : Failure → String
  | .transport reason none => reason.text
  | .transport reason (some status) => s!"HTTP {status}: {reason.text}"
  | .protocol reason none => reason.text
  | .protocol reason (some code) => s!"{code}: {reason.text}"
  | .emptyResponse reason => reason.text
  | .cancelled reason => reason.text
  | .unexpected message _ => message

def Failure.kind : Failure → String
  | .transport .. => "transport"
  | .protocol .. => "protocol"
  | .emptyResponse .. => "empty_response"
  | .cancelled .. => "cancelled"
  | .unexpected .. => "unexpected"

def Failure.isCancelled : Failure → Bool
  | .cancelled _ => true
  | _ => false

/-- A fault as it stands on the report of the user whose run it ended. -/
def Failure.ofFault (fault : Fault) : Failure := .unexpected fault.message (some fault)

end MailboxSync
