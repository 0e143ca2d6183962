import Errand.Gateway.Refusal
import Errand.Web.Header

/-!
# Requests and responses

What arrives over HTTP and what is sent back, as far as the service looks at it. The names of
headers are compared without regard to case.
-/

set_option autoImplicit false

namespace Errand.Gateway

/-- A request. -/
structure Request where
  /-- The method. -/
  method : String
  /-- What it asks for. -/
  target : String
  /-- The headers. -/
  headers : List (String × String) := []
  /-- The body. -/
  body : String := ""
deriving DecidableEq, Repr

/-- A response. -/
structure Response where
  /-- The status. -/
  status : Nat
  /-- The type of the body. -/
  contentType : Option String := none
  /-- The methods that the path knows, if it does not know the one asked for. -/
  allow : Option String := none
  /-- The id of the request. -/
  requestId : Option String := none
  /-- The body. -/
  body : String := ""
deriving DecidableEq, Repr

/-- The value of a header. -/
def Request.header? (request : Request) (name : String) : Option String :=
  (request.headers.find? fun header => header.1.map Char.toLower == name).map (·.2)

/-- The path of the target. -/
def Request.path (request : Request) : String :=
  (Web.Target.path? request.target).getD ""

/-- Whether a request can be sent at all. -/
def Request.isSendable (request : Request) : Bool :=
  Web.isToken request.method && (Web.Target.path? request.target).isSome &&
    request.headers.all Web.isHeader

namespace Response

/-- A response that holds a value. -/
def ofJson (status : Nat) (value : Json) : Response :=
  { status, contentType := some "application/json", body := value.compact }

/-- The response that tells a client of a refusal. -/
def ofRefusal (refusal : Refusal) : Response :=
  ofJson refusal.status refusal.toJson

end Response

end Errand.Gateway
