import MailboxSync.Http.ContentType
import MailboxSync.Http.Exchange
import MailboxSync.Service.Envelope
import MailboxSync.Service.Reply
import MailboxSync.Sync.Environment

/-!
# Requests over HTTP

* `receive` — what a request comes to, given what came of posting it, and the notes on it;
* `transport` — posts envelopes to a server and receives its replies.

A server that cannot be reached, a status other than 200, an empty body and a body that is no envelope are failures of
four kinds.  Bodies are decoded only for a note that somebody hears.
-/

namespace MailboxSync.Http

/-- Notes that are only built when somebody hears them. -/
def lazily (listener : Option Level) (level : Level) (text : Except Fault String) : Except Fault (List Note) :=
  if hears listener level then text.map fun t => [⟨level, t⟩] else .ok []

/-- What ends a request together with the notes up to then. -/
abbrev Outcome := Except Trouble (Option Response) × List Note

/-- Adds notes, or ends with the fault of building them. -/
def Outcome.after (notes : Except Fault (List Note)) (rest : Outcome) : Outcome :=
  match notes with
  | .error fault => (.error (.fault fault), [])
  | .ok ns => (rest.1, ns ++ rest.2)

def read (listener : Option Level) (url envelope : String) (request : Request) (status : Int) (charset : String)
    (body : ByteArray) : Outcome :=
  if status ≠ 200 then
    Outcome.after (.ok [⟨.error, s!"Server responded with HTTP error code {status}."⟩]) <|
    Outcome.after (lazily listener .debug (.ok ("Request that generated the error: " ++ envelope))) <|
    Outcome.after
      (if body.isEmpty then .ok []
      else lazily listener .debug ((decodeIn charset body.toList).map ("Error response body: " ++ ·))) <|
    (.error (.failure (.transport .badStatus (some status))), [])
  else if body.isEmpty then
    Outcome.after (.ok [⟨.error, "HTTP response was successful, but has no data."⟩]) <|
    Outcome.after (lazily listener .debug (.ok ("Request that generated the empty response: " ++ envelope))) <|
    (.error (.failure (.emptyResponse .emptyBody)), [])
  else
    Outcome.after
      (lazily listener .trace ((decodeIn charset body.toList).map (s!"SOAP response received from {url}: " ++ ·))) <|
    match readBody body with
    | .error trouble => (.error trouble, [])
    | .ok element => (request.responseIn element, [])

/-- What a request comes to, given what came of posting its envelope. -/
def receive (listener : Option Level) (url envelope : String) (request : Request) (exchange : Exchange) : Outcome :=
  Outcome.after (lazily listener .trace (.ok (s!"Sending SOAP request to {url}: " ++ envelope))) <|
  match exchange with
  | .timedOut detail =>
    (.error (.failure (.transport (.timedOut detail) none)), [⟨.error, s!"Timed out talking to {url}"⟩])
  | .unreachable detail =>
    (.error (.failure (.transport (.unreachable detail) none)), [⟨.error, s!"Error talking to {url}: {detail}"⟩])
  | .raised trouble => (.error trouble, [])
  | .replied status contentType body =>
    match responseCharset contentType with
    | .error fault => (.error (.fault fault), [])
    | .ok (charset, notes) => Outcome.after (.ok notes) (read listener url envelope request status charset body)

/-- Sends a request; `exchange` is what comes of posting its envelope. -/
def send (listener : Option Level) (url : String) (user : User) (request : Request) (exchange : String → Exchange) :
    Outcome :=
  match request.write user with
  | .error fault => (.error (.fault fault), [])
  | .ok envelope => receive listener url envelope request (exchange envelope)

/-- Carries requests to a server that takes envelopes; the flag says whether the caller's cancel event got set. -/
def transport {σ : Type} (listener : Option Level) (url : String) (post : σ → String → Exchange × Bool × σ) :
    Transport σ where
  send s user request :=
    match request.write user with
    | .error fault => ({ outcome := .error (.fault fault) }, s)
    | .ok envelope =>
      let (exchange, cancels, s) := post s envelope
      let (outcome, notes) := receive listener url envelope request exchange
      ({ outcome, cancels, notes }, s)

end MailboxSync.Http
