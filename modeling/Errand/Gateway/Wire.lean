import Errand.Gateway.Exchange
import Errand.Number.Double
import Errand.Text.Blank

/-!
# Requests and responses as they are sent

A message starts with lines: the first says what is asked or how it went, the others are headers,
and an empty line ends them. The body has the length that a header tells.
-/

set_option autoImplicit false

namespace Errand.Gateway.Wire

/-- A line without what ends it. -/
def bareLine (line : String) : String :=
  String.ofList (Text.dropEndWhile (fun c => c == '\r' || c == '\n') line.toList)

/-- The name, in lower case, and the value of a header. -/
def header? (line : String) : Option (String × String) :=
  match line.toList.dropWhile (· != ':') with
  | _ :: value =>
    let name := (line.toList.takeWhile (· != ':')).map Char.toLower
    some (String.ofList name, String.ofList (Text.trim value))
  | [] => none

/-- The request that the lines before a body make. -/
def request? : List String → Option Request
  | [] => none
  | first :: rest =>
    match first.splitOn " " with
    | [method, target, _] => some { method, target, headers := rest.filterMap header? }
    | _ => none

/-- The length of the body that follows a request. -/
def bodyLength (request : Request) : Nat :=
  ((request.header? "content-length").bind fun text =>
    (Number.Double.signed? text.toList).map Int.toNat).getD 0

/-- The usual words for a status. -/
def statusWords : Nat → String
  | 200 => "OK"
  | 400 => "Bad Request"
  | 403 => "Forbidden"
  | 404 => "Not Found"
  | 405 => "Method Not Allowed"
  | 409 => "Conflict"
  | 415 => "Unsupported Media Type"
  | 422 => "Unprocessable Entity"
  | 503 => "Service Unavailable"
  | _ => "Internal Server Error"

/-- A response as it is sent. -/
def render (response : Response) : String :=
  let line (name value : String) : String := name ++ ": " ++ value ++ "\r\n"
  let optional (name : String) (value : Option String) : String := value.elim "" (line name)
  "HTTP/1.1 " ++ toString response.status ++ " " ++ statusWords response.status ++ "\r\n" ++
    optional "content-type" response.contentType ++ optional "allow" response.allow ++
    optional "x-request-id" response.requestId ++
    line "content-length" (toString response.body.utf8ByteSize) ++ "\r\n" ++ response.body

end Errand.Gateway.Wire
