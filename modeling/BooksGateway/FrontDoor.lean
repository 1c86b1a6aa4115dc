import BooksGateway.Credentials
import BooksGateway.Entity
import BooksGateway.Json.Writer

/-!
# The front door

Requests to the gateway come in through a front door, which takes the credentials from the headers
of requests for tools and hands them to the application behind it for the time of the request. It
can be told to turn requests without a token away.

1. Requests that come in.
2. Paths.
3. What becomes of a request.
4. Turning a request away.
5. The layers around the application, and what it tells of itself.
-/

namespace BooksGateway

/-! ## 1. Requests that come in -/

/-- A request that comes in. -/
structure Scope where
  /-- The kind of the connection, if it is told. -/
  kind : Option Value
  /-- The path, null when there is none. -/
  path : Value
  /-- The headers, with names in any letter case. -/
  headers : List (String × String)

namespace Scope

/-- The headers by names in lower case; of several with one name the last one comes first. -/
def lowerHeaders (scope : Scope) : List (String × String) :=
  (scope.headers.map fun (name, text) => (Text.lower name, text)).reverse

/-- The credentials in the headers. -/
def credentials (scope : Scope) : Credentials := Credentials.ofHeaders scope.lowerHeaders

/-! ## 2. Paths -/

/-- The roots of the paths under which tools are reached. -/
def toolRoots : List String := ["/mcp", "/sse"]

/-- A path without slashes at its end. -/
def bare (path : String) : String := String.ofList (Text.dropEnd (· == '/') path.toList)

/-- Whether a path, without slashes at its end, leads to the tools. -/
def leadsToTools (path : String) : Bool :=
  toolRoots.any fun root => path == root || Text.begins (root ++ "/") path

/-- The path of a request; what does not count as given is empty. -/
def pathText (scope : Scope) : Except Misuse String :=
  if scope.path.isTruthy then scope.path.asText else .ok ""

/-! ## 3. What becomes of a request -/

/-- What becomes of a request. -/
inductive Passage where
  /-- It passes as it is. -/
  | plain
  /-- It passes with the credentials of its headers. -/
  | credited (c : Credentials)
  /-- It is turned away. -/
  | refused

/-- What becomes of a request under settings. -/
def passage (settings : Settings) (scope : Scope) : Except Misuse Passage :=
  match scope.kind with
  | none => .error .missingKey
  | some (.str "http") => do
    if leadsToTools (bare (← scope.pathText)) then
      if settings.requiresToken && scope.credentials.token.isNone then return .refused
      else return .credited scope.credentials
    else return .plain
  | some _ => .ok .plain

end Scope

/-! ## 4. Turning a request away -/

namespace FrontDoor

/-- The answer to a request that is turned away. -/
structure Refusal where
  /-- The status. -/
  status : Nat
  /-- The headers, in the order of their names. -/
  headers : List (String × String)
  /-- The body. -/
  body : String

/-- What a request that is turned away is told. -/
def refusalBody : String :=
  Json.write .tight (.obj [("error", .str "unauthorized"),
    ("error_description", .str "Missing QuickBooks access token")])

/-- The answer to a request that is turned away. -/
def refusal : Refusal where
  status := 401
  headers :=
    [("content-length", toString refusalBody.utf8ByteSize), ("content-type", "application/json"),
      ("www-authenticate", "Bearer")]
  body := refusalBody

/-! ## 5. The layers around the application, and what it tells of itself -/

/-- A layer around the application. -/
inductive Layer where
  /-- Only requests for these hosts are taken. -/
  | trustedHosts (hosts : List String)
  /-- The address of the caller is taken from what these proxies tell. -/
  | proxyHeaders (proxies : String)

/-- The hosts that are trusted when none are set. -/
def localHosts : List String := ["localhost", "127.0.0.1"]

/-- The hosts that are trusted: a list set apart by commas. -/
def trustedHosts (settings : Settings) : List String :=
  let listed := Text.pieces (· == ',') (Text.strip (settings.getD "ALLOWED_HOSTS" "").toList)
  let hosts := (listed.map fun piece => String.ofList (Text.strip piece)).filter (· != "")
  if hosts.isEmpty then localHosts else hosts

/-- The layers around the application, the outermost first. -/
def layers (settings : Settings) : List Layer :=
  (if settings.checksHosts then [.trustedHosts (trustedHosts settings)] else [])
    ++ [.proxyHeaders "*"]

/-- What the application tells of itself. -/
def about : Value :=
  .obj [("ok", .bool true), ("service", .str "QBO MCP Server"), ("mcp", .str "/mcp"),
    ("entities",
      .list (((Entity.all.map (·.name)).mergeSort fun a b => decide (a ≤ b)).map .str))]

/-- Whether the application is well. -/
def health : Value := .obj [("ok", .bool true)]

end FrontDoor

end BooksGateway
