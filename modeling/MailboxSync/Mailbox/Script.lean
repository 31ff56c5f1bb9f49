import MailboxSync.Http.Exchange
import MailboxSync.Mailbox.Basic

/-!
# Canned answers

* `Script` — what a service does with one request other than answering from its mailbox;
* `Rule` — which requests an answer is meant for;
* `Desk` — a mailbox with queues of answers to be given once and failures to be given every time, and a record of the
  requests it has seen.
-/

namespace MailboxSync

/-- A message with the parts of both kinds. -/
structure ScriptMessage where
  code : Option String := some noError
  folders : Option (List FolderId) := none
  token : Option Token := none
  last : Option Bool := none
  changes : Option Changes := none
  text : Option String := none
  deriving Repr, Inhabited

def ScriptMessage.toFind (m : ScriptMessage) : FindMessage := { code := m.code, folders := m.folders, text := m.text }

def ScriptMessage.toSync (m : ScriptMessage) : SyncMessage :=
  { code := m.code, token := m.token, last := m.last, changes := m.changes, text := m.text }

/-- What a service does with one request. -/
inductive Script where
  /-- Answers from its mailbox. -/
  | own
  | null
  | raises (trouble : Trouble)
  | code (code : Option String)
  /-- Answers with an empty response of the other kind. -/
  | wrong
  | http (exchange : Http.Exchange)
  | messages (ms : List ScriptMessage)
  deriving Inhabited

/-- A canned answer, and whether it sets the caller's cancel event first. -/
structure Canned where
  script : Script := .own
  cancels : Bool := false
  deriving Inhabited

def Response.otherKind : Operation → Response
  | .find => .synced []
  | .sync => .found []

def Response.scripted (op : Operation) (ms : List ScriptMessage) : Response :=
  match op with
  | .find => .found (ms.map ScriptMessage.toFind)
  | .sync => .synced (ms.map ScriptMessage.toSync)

def Request.operation? : Request → Option Operation
  | .find _ => some .find
  | .sync _ => some .sync
  | .other _ => none

def Request.target : Request → FolderId
  | .find r => r.root
  | .sync r => r.folder
  | .other _ => ""

/-- Which requests an answer is meant for; a missing part fits all. -/
structure Rule where
  operation : Option Operation := none
  user : Option User := none
  target : Option FolderId := none
  deriving DecidableEq, Repr, Inhabited

def Rule.fits (rule : Rule) (user : User) (request : Request) : Bool :=
  (rule.operation.isNone || rule.operation = request.operation?) && (rule.user.isNone || rule.user = some user) &&
    (rule.target.isNone || rule.target = some request.target)

/-- A mailbox with canned answers. -/
structure Desk where
  mailbox : Mailbox := {}
  /-- Answers to be given once, in order. -/
  queues : List (Rule × List Canned) := []
  /-- Answers to be given every time. -/
  failures : List (Rule × Canned) := []
  /-- The requests seen, newest first. -/
  seen : List (User × Request) := []
  deriving Inhabited

namespace Desk

/-- Takes the next answer of the first queue that has one for a request. -/
def dequeue (user : User) (request : Request) :
    List (Rule × List Canned) → Option (Canned × List (Rule × List Canned))
  | [] => none
  | (rule, canned) :: queues =>
    match rule.fits user request, canned with
    | true, c :: cs => some (c, (rule, cs) :: queues)
    | _, _ => (dequeue user request queues).map fun (c, qs) => (c, (rule, canned) :: qs)

/-- Records a request and chooses the answer to it: from a queue, else a failure, else the mailbox's own. -/
def choose (d : Desk) (user : User) (request : Request) : Canned × Desk :=
  let d := { d with seen := (user, request) :: d.seen }
  match dequeue user request d.queues with
  | some (canned, queues) => (canned, { d with queues })
  | none => (((d.failures.find? fun f => f.1.fits user request).map (·.2)).getD {}, d)

/-- A desk that gives answers in order, and fails when none is left. -/
def ofReplies (replies : List Canned) : Desk where
  queues := [({}, replies)]
  failures := [({}, { script := .raises (.failure (.transport (.said "script exhausted") none)) })]

def calls (d : Desk) : List (User × Request) := d.seen.reverse

end Desk

/-- The response of a script, if it is one that gives a response. -/
def Script.response (script : Script) (m : Mailbox) (request : Request) : Except Trouble (Option Response) :=
  match script, request.operation? with
  | .own, _ => .ok (m.answer request)
  | .raises trouble, _ => .error trouble
  | .code c, some op => .ok (some (Response.scripted op [{ code := c }]))
  | .wrong, some op => .ok (some (Response.otherKind op))
  | .messages ms, some op => .ok (some (Response.scripted op ms))
  | _, _ => .ok none

end MailboxSync
