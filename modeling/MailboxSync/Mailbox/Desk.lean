import MailboxSync.Http.Transport
import MailboxSync.Mailbox.Script

/-!
# Reaching a mailbox

* `Desk.direct` — requests and responses as values; a canned HTTP exchange goes through the HTTP transport;
* `Desk.wired` — requests and responses as documents over HTTP.
-/

namespace MailboxSync.Desk

def url : String := "https://example.com/ews"

def direct (listener : Option Level) : Transport Desk where
  send d user request :=
    let (canned, d) := d.choose user request
    match canned.script with
    | .http exchange =>
      let (outcome, notes) := Http.send listener url user request fun _ => exchange
      ({ outcome, cancels := canned.cancels, notes }, d)
    | script => ({ outcome := script.response d.mailbox request, cancels := canned.cancels }, d)

/-- What comes of posting an envelope to a desk. -/
def post (d : Desk) (envelope : String) : Http.Exchange × Bool × Desk :=
  match Request.read? envelope.toUTF8 with
  | none => (.raised (.fault .unreadableRequest), false, d)
  | some (user, request) =>
    let (canned, d) := d.choose user request
    let exchange :=
      match canned.script with
      | .http exchange => exchange
      | script =>
        match script.response d.mailbox request with
        | .ok response => .replied 200 (some "text/xml") (Response.write response)
        | .error trouble => .raised trouble
    (exchange, canned.cancels, d)

def wired (listener : Option Level) (url : String) : Transport Desk := Http.transport listener url post

end MailboxSync.Desk
