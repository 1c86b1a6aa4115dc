import BooksGateway.Credentials
import BooksGateway.Platform.Client

/-!
# Exchanges with the server

A request of the gateway, and what the answer to it means. The server itself is any function from
requests to answers with a state of its own; how an answer arrives is in
`BooksGateway.Platform.Client`.

1. Requests.
2. Servers.
3. Building a request.
4. Reading an answer.
-/

namespace BooksGateway

/-! ## 1. Requests -/

/-- A request as it is handed to the network. -/
structure Request where
  /-- The method, in upper case. -/
  method : String
  /-- The address, without parameters. -/
  url : String
  /-- The headers. -/
  headers : List (String × String)
  /-- The parameters. -/
  params : Fields
  /-- The body, null when there is none. -/
  body : Value
  /-- How many seconds the answer is waited for. -/
  timeout : Binary64

/-! ## 2. Servers -/

/-- A server with states of type `σ`. -/
structure Server (σ : Type) where
  /-- What comes of a request in a state, and the state afterwards. -/
  handle : Request → σ → Delivery × σ

/-- The answer of a server that has nothing prepared: no rows. -/
def emptyReply : Reply := ⟨200, some "application/json", "\x7b\"QueryResponse\": \x7b\x7d\x7d"⟩

/-- A server with prepared deliveries, which it hands out one by one. -/
def Server.queued : Server (List Delivery) where
  handle _
    | [] => (.answered emptyReply, [])
    | delivery :: rest => (delivery, rest)

/-! ## 3. Building a request -/

/-- What is asked of the server, before address, token and settings are added. -/
structure Inquiry where
  /-- The method. -/
  method : String
  /-- The path under the company. -/
  path : String
  /-- The object that is asked for, whose id ends the path; the empty text when there is none. -/
  object : Value := .str ""
  /-- The parameters. -/
  params : Fields := []
  /-- The body, null when there is none. -/
  body : Value := .null

namespace Inquiry

/-- The address of the sandbox. -/
def sandboxHost : String := "https://sandbox-quickbooks.api.intuit.com"

/-- The address of the live server. -/
def liveHost : String := "https://quickbooks.api.intuit.com"

/-- The host of a call that may say whether the sandbox is meant. -/
def host (settings : Settings) (sandbox : Option Bool) : String :=
  if sandbox.getD settings.meansSandbox then sandboxHost else liveHost

/-- A path that begins with a slash. -/
def rooted (path : String) : String := if Text.begins "/" path then path else "/" ++ path

/-- The methods that come with a body. -/
def bodyMethods : List String := ["POST", "PUT", "PATCH"]

/-- The request for an inquiry. Object and company stand in the address, so they are shown. -/
def request (settings : Settings) (access : Access) (sandbox : Option Bool) (inquiry : Inquiry) :
    Except Failure Request := do
  let method := Text.upper inquiry.method
  let object ← inquiry.object.shown
  let company ← access.realm.shown
  let timeout ← settings.timeout
  return {
    method
    url := host settings sandbox ++ "/v3/company/" ++ company ++ rooted (inquiry.path ++ object)
    headers :=
      [("Authorization", authorization access.token), ("Accept", "application/json")]
        ++ if bodyMethods.contains method then [("Content-Type", "application/json")] else []
    params := inquiry.params.putNew "minorversion" (.str settings.minorVersion)
    body := inquiry.body
    timeout }

end Inquiry

/-! ## 4. Reading an answer -/

namespace Reply

/-- The kind of the body in lower case, empty when the server names none. -/
def kind (r : Reply) : String := Text.lower (r.contentType.getD "")

/-- The body of an answer with an error status: a value if it is JSON, its text otherwise. Nesting
    that is too deep is not excused. -/
def errorPayload (r : Reply) : Except Failure Value :=
  match r.document with
  | .ok v => .ok v
  | .error (.unreadableBody text .tooDeep) => .error (.unreadableBody text .tooDeep)
  | .error _ => r.text.map .str

/-- What an answer means. An error status is a failure; a body that is not JSON by its kind is
    handed on as a text. -/
def result (r : Reply) : Except Failure Value := do
  if 400 ≤ r.status then
    match ApiFault.ofPayload r.status (← r.errorPayload) with
    | .ok fault => throw (.api fault)
    | .error cause => throw (.misuse cause)
  else if r.status = 204 then return .obj [("ok", .bool true), ("status_code", .int 204)]
  else if Text.hasInside "application/json".toList r.kind.toList then r.document
  else
    return .obj [("ok", .bool true), ("status_code", .int r.status), ("content_type", .str r.kind),
      ("text", .str (← r.text))]

end Reply

/-- What a delivery means: what the answer means, if one arrives. -/
def Delivery.result (d : Delivery) : Except Failure Value := do (← d.reply).result

end BooksGateway
