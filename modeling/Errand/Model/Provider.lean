import Errand.Consult
import Errand.Model.Stream
import Errand.Web.Header
import Errand.Web.Url

/-!
# Providers of language models

A provider speaks the chat protocol with one service over a transport, which carries calls to a URL
and brings back a JSON value or a stream of chunks.
-/

set_option autoImplicit false

namespace Errand.Model

/-- A call of a service. -/
structure Call where
  /-- Where it goes. -/
  url : String
  /-- The headers. -/
  headers : List (String × String)
  /-- What is sent. -/
  body : Json

/-- A way to services. -/
structure Transport (σ : Type) where
  /-- Makes a call that is answered by a value. -/
  post : Call → Consult σ Json
  /-- Makes a call that is answered by a stream. -/
  postStream : Call → Consult σ (List Chunk)

/-- Why a call cannot be made while nobody answers: it has no address, or one that has no host, or
headers that cannot be sent, or a scheme or an address that cannot be asked for, or there is nobody.
The user in an address is not told. -/
def unreachable (call : Call) : String :=
  match Web.Url.parse? call.url with
  | none => "builder error"
  | some url =>
    let written := url.withoutUser.toText
    let unaskable := "builder error for url (" ++ written ++ ")"
    if !url.hasHost then unaskable
    else if !call.headers.all Web.isHeader then "builder error"
    else if !(["http", "https"].contains url.scheme) then unaskable
    else if (Web.Target.path? written).isNone then unaskable
    else "error sending request for url (" ++ written ++ ")"

/-- A way that leads nowhere: every call fails. -/
def Transport.closed {σ : Type} : Transport σ :=
  let fault (call : Call) : Fault := .provider "http" ("Request failed: " ++ unreachable call)
  { post := fun call => .fail (fault call), postStream := fun call => .fail (fault call) }

/-- The service that a provider speaks with. -/
structure Provider where
  /-- The name of the kind of service. -/
  name : String
  /-- What authorises calls. -/
  authorization : Option String
  /-- Where the service is. -/
  baseUrl : String
deriving DecidableEq, Repr

namespace Provider

/-- A base of URLs without slashes at its end. -/
def trimSlashes (url : String) : String :=
  String.ofList (Text.dropEndWhile (· == '/') url.toList)

/-- A service that wants a key; an empty key is not sent. -/
def openAi (key : String) (baseUrl : String := "https://api.openai.com") : Provider where
  name := "openai"
  authorization := if key = "" then none else some ("Bearer " ++ key)
  baseUrl := trimSlashes baseUrl

/-- A service on the own machine. -/
def ollama (baseUrl : String := "http://localhost:11434") : Provider where
  name := "ollama"
  authorization := none
  baseUrl := trimSlashes baseUrl

/-- The call that puts a question. -/
def call (provider : Provider) (request : Request) (stream : Bool) : Call where
  url := provider.baseUrl ++ "/v1/chat/completions"
  headers := ("Content-Type", "application/json") ::
    provider.authorization.toList.map fun value => ("Authorization", value)
  body := Chat.body request stream

variable {σ : Type}

/-- Asks for a whole answer. -/
def complete (provider : Provider) (transport : Transport σ) (request : Request) :
    Consult σ Completion := do
  let value ← transport.post (provider.call request false)
  match Chat.readAnswer value with
  | .ok completion => return completion
  | .error error => .fail (.provider provider.name error.message)

/-- Asks for an answer piece by piece. -/
def stream (provider : Provider) (transport : Transport σ) (request : Request) :
    Consult σ (List (Except Fault Piece)) := do
  let chunks ← transport.postStream (provider.call request true)
  return readStream chunks

end Provider

end Errand.Model
