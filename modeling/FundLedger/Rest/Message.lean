import FundLedger.Rest.Client
import FundLedger.Text.Base64
/-!
# Messages over a connection

A request and its answer as they go over a connection that is closed behind the answer.

* `RestServer.message`: a request as text.
* `RestResponse.ofBytes?`: the answer that some bytes are.
-/

namespace FundLedger

/-- The line that tells who sends a request, if the address of the server says so. -/
def Address.authorization? (a : Address) : Option String := do
  let (user, password) ← a.credentials
  let user ← percentDecoded? user.toList
  let password := (password.bind fun p => percentDecoded? p.toList).getD []
  return "Authorization: Basic " ++
    String.ofList (base64 ((user ++ ':' :: password).flatMap fun c => String.utf8EncodeChar c))

/-- The lines of a request, an empty line, and its body. -/
def RestServer.message (server : RestServer) (directory : String) (r : RestRequest) : String :=
  let body := (r.body.map Json.compact).getD ""
  let lines :=
    [r.method.name ++ " " ++ r.target directory ++ " HTTP/1.0", "Host: " ++ server.address.authority, "Accept: */*"] ++
    server.address.authorization?.toList ++ (server.tenant.map ("X-Okapi-Tenant: " ++ ·)).toList ++
    (if r.body.isNone then []
     else ["Content-Type: application/json", "Content-Length: " ++ toString body.utf8ByteSize])
  String.join (lines.map (· ++ "\r\n")) ++ "\r\n" ++ body

namespace RestResponse

/-- What stands in front of the first empty line, and behind it. -/
def splitHead? : List UInt8 → Option (List UInt8 × List UInt8)
  | 13 :: 10 :: 13 :: 10 :: rest => some ([], rest)
  | b :: rest => (splitHead? rest).map fun (front, back) => (b :: front, back)
  | [] => none

/-- The text of some bytes, if they are one. -/
def textOf? (bytes : List UInt8) : Option String := String.fromUTF8? bytes.toByteArray

/-- The status in the first line. -/
def statusOf? (head : List UInt8) : Option Nat := do
  let line := (head.takeWhile (· != 13)).map fun b => Char.ofNat b.toNat
  natOfDigits? (((line.dropWhile (· != ' ')).drop 1).takeWhile (· != ' '))

/-- The answer that some bytes are. -/
def ofBytes? (bytes : List UInt8) : Option RestResponse := do
  let (head, body) ← splitHead? bytes
  let status ← statusOf? head
  return ⟨status, (textOf? body).getD "unreadable body"⟩

end RestResponse

end FundLedger
