import MailboxSync.Charset.Utf8
import MailboxSync.Number.Binary64
import MailboxSync.Text.Base64
import MailboxSync.Text.Hex

/-!
# Clients

How a server is reached: its address, the credentials shown to it, how long to wait for it, and whether its
certificate is checked.
-/

namespace MailboxSync.Http

/-- Who a client claims to be. -/
structure Credentials where
  user : String
  password : String
  deriving DecidableEq, Repr, Inhabited

/-- How long to wait. -/
inductive Seconds where
  | whole (n : Int)
  | number (x : Binary64)
  deriving DecidableEq, Repr, Inhabited

/-- How a server is reached. -/
structure Client where
  url : String
  credentials : Option Credentials := none
  timeout : Option Seconds := some (.number (.ofDecimal false 60 0))
  verifyTls : Bool := true
  deriving Repr, Inhabited

namespace Credentials

/-- Credentials need a user with a name, and a password, which may be empty. -/
def of (user password : Option String) : Option Credentials :=
  match user, password with
  | some user, some password => if user = "" then none else some { user, password }
  | _, _ => none

def header (c : Credentials) : String := "Basic " ++ Text.base64 (s!"{c.user}:{c.password}".toUTF8.toList)

/-- Replaces each percent sign and two hexadecimal digits by the octet they stand for. -/
def unquoteBytes : List UInt8 → List UInt8
  | [] => []
  | [a] => [a]
  | [a, b] => [a, b]
  | a :: b :: c :: rest =>
    match Text.hexValue? (Char.ofNat b.toNat), Text.hexValue? (Char.ofNat c.toNat) with
    | some high, some low =>
      if a = 37 then UInt8.ofNat (high * 16 + low) :: unquoteBytes rest else a :: unquoteBytes (b :: c :: rest)
    | _, _ => a :: unquoteBytes (b :: c :: rest)

/-- A part of an address as text. -/
def unquote (cs : List Char) : String :=
  String.ofList (Charset.decodeUtf8 (unquoteBytes (String.ofList cs).toUTF8.toList))

/-- The part of an address between the two slashes and the path. -/
def authority (url : String) : List Char :=
  let ends (c : Char) : Bool := c = '/' || c = '?' || c = '#'
  match url.toList.dropWhile fun c => !(ends c || c = ':') with
  | ':' :: '/' :: '/' :: rest => rest.takeWhile (!ends ·)
  | _ => []

/-- The credentials in an address, before its last at sign. -/
def ofUrl (url : String) : Option Credentials :=
  match (authority url).reverse.dropWhile (· != '@') with
  | [] => none
  | _ :: reversed =>
    let (user, rest) := reversed.reverse.span (· != ':')
    let found : Credentials := { user := unquote user, password := unquote (rest.drop 1) }
    if found.user = "" && found.password = "" then none else some found

end Credentials

namespace Client

/-- The header of requests that shows who the client claims to be; its own credentials go before those in its
address. -/
def authorization (c : Client) : Option String :=
  (c.credentials <|> Credentials.ofUrl c.url).map Credentials.header

/-- The client of given settings; an empty password counts as none. -/
def ofSettings (url : String) (user password : Option String) (timeout : Seconds) (verifyTls : Bool) : Client where
  url := url
  credentials := Credentials.of user (password.filter (· != ""))
  timeout := some timeout
  verifyTls := verifyTls

end Client

end MailboxSync.Http
