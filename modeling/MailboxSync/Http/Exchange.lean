import MailboxSync.Failure

/-!
# Exchanges

What comes of posting a request: a reply of the server, or no reply.
-/

namespace MailboxSync.Http

/-- What comes of posting a request. -/
inductive Exchange where
  | replied (status : Int) (contentType : Option String) (body : ByteArray)
  | timedOut (detail : String)
  | unreachable (detail : String)
  /-- Something below the exchange went wrong by itself. -/
  | raised (trouble : Trouble)

instance : Inhabited Exchange := ⟨.unreachable ""⟩

def method : String := "POST"

def requestContentType : String := "text/xml; charset=utf-8"

end MailboxSync.Http
