import FundLedger.Json.Printer
import FundLedger.Json.Reader
import FundLedger.Rest.Address
/-!
# Exchanges with a server

* `RestRequest`, `RestResponse`: what is sent to a server, and what comes back.
* `RestRequest.target`, `RestRequest.address`: the path and parameters as they are sent, and the whole address.
-/

namespace FundLedger

/-- What a request does with what its path names. -/
inductive RestMethod
  | get
  | post
  | put
  | delete
deriving DecidableEq

/-- The name of a method. -/
def RestMethod.name : RestMethod → String
  | get => "GET"
  | post => "POST"
  | put => "PUT"
  | delete => "DELETE"

/-- A request to a server. -/
structure RestRequest where
  method : RestMethod
  /-- The path below the directory of the server. -/
  path : String
  parameters : List (String × String)
  body : Option Json

/-- The answer of a server. -/
structure RestResponse where
  status : Nat
  text : String

/-- An answer, or why no server answered. -/
abbrev RestOutcome : Type := Except String RestResponse

namespace RestRequest

variable (r : RestRequest)

/-- The path with the parameters, below a directory. -/
def target (directory : String) : String :=
  directory ++ r.path ++ (if r.parameters.isEmpty then "" else "?" ++ formText r.parameters)

/-- The whole address. -/
def address (server : Address) (directory : String) : String := server.origin ++ r.target directory

end RestRequest

namespace RestResponse

variable (r : RestResponse)

/-- Whether the server did what it was asked to. -/
def isSuccess : Bool := 200 ≤ r.status && r.status < 300

/-- The value that the answer holds. -/
def json? : Option Json := Json.parse? r.text

end RestResponse

end FundLedger
