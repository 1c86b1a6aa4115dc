import BooksGateway.FrontDoor
import BooksGateway.Pairs
import BooksGateway.Tool

/-!
# Scripts

A script is a list of steps in one session: settings and credentials change, answers of the server
are prepared, calls are made and tools used, and requests come in through the front door, behind
which the application runs steps of its own. Every step has an answer, and a failed step does not
end the script.

1. Steps and answers.
2. Calls with all their parts given.
3. Running a script.
-/

namespace BooksGateway

/-! ## 1. Steps and answers -/

/-- A step of a script. -/
inductive Step where
  /-- Makes settings or takes them back. -/
  | configure (changes : Value)
  /-- Prepares answers of the server. -/
  | prepare (deliveries : List Delivery)
  /-- Shows credentials in headers, or takes them away for null. -/
  | present (headers : Value)
  /-- Seeks access. -/
  | access (realm : Value)
  /-- Makes a call. -/
  | call (wanted : Call) (realm : Value) (sandbox : Option Bool)
  /-- Uses a tool. -/
  | useTool (name : String) (args : Value)
  /-- Makes an inquiry with everything given. -/
  | inquire (method path token realm params body : Value) (sandbox : Option Bool)
  /-- Lets a request come in, behind which steps are run; then the application may break down. -/
  | visit (scope : Scope) (steps : List Step) (breaksDown : Bool)
  deriving Inhabited

/-- The answer to a step. -/
inductive Answer where
  /-- The outcome, and the requests that were sent. -/
  | plain (outcome : Except Failure Value) (requests : List Request)
  /-- The application saw these credentials and answered its steps so; its failure if it broke down;
      and the credentials afterwards. -/
  | passed (seen : Option Credentials) (answers : List Answer) (raised : Option Failure)
      (after : Option Credentials)
  /-- The application was not reached: the request was turned away, or failed; and the credentials
      afterwards. -/
  | stopped (refusal : Option FrontDoor.Refusal) (raised : Option Failure)
      (after : Option Credentials)

namespace Step

/-! ## 2. Calls with all their parts given -/

/-- The parameters of an inquiry, a mapping or pairs. -/
def paramsOf (v : Value) : Except Failure Fields :=
  if v.isTruthy then (Pairs.ofValue v).map Pairs.shown else .ok []

/-- Makes an inquiry with everything given. Method, path and token have to be texts. -/
def inquireWith (server : Server (List Delivery)) (method path token realm params body : Value)
    (sandbox : Option Bool) : Gateway (List Delivery) Value := do
  let path ← Gateway.ofMisuse path.asText
  let params ← Gateway.ofExcept (paramsOf params)
  let token ← Gateway.ofMisuse token.asText
  let method ← Gateway.ofMisuse method.asText
  Gateway.inquire server ⟨token, realm⟩ sandbox { method, path, params, body }

/-- The arguments of a tool; without a mapping there are none. -/
def argsOf : Value → Except Misuse Fields
  | .obj args => .ok args
  | .null => .ok []
  | _ => .error .unsuitable

/-- Uses the tool with a name. -/
def useNamed (server : Server (List Delivery)) (name : String) (args : Value) :
    Gateway (List Delivery) Value := do
  match Tool.find? name with
  | some tool => tool.use server (← Gateway.ofMisuse (argsOf args))
  | none => throw (.misuse .noSuchOperation)

/-- The settings after changes; only a mapping tells any. -/
def configured (settings : Settings) : Value → Settings × Except Failure Unit
  | .obj changes => settings.changeAll changes
  | _ => (settings, .error (.misuse .noSuchOperation))

/-- The credentials that are shown, none for null. -/
def shown : Value → Except Misuse (Option Credentials)
  | .null => .ok none
  | headers => (Credentials.ofValue headers).map some

/-! ## 3. Running a script -/

/-- A session with prepared deliveries. -/
abbrev Desk := Session (List Delivery)

/-- Credentials that may be missing, as a value. -/
def credentialsValue : Option Credentials → Value
  | some c => c.toValue
  | none => .null

/-- The answer of a step that runs a computation. -/
def answerOf (g : Gateway (List Delivery) Value) (s : Desk) : Answer × Desk :=
  let (outcome, after) := g.execute s
  (.plain outcome (after.sent.drop s.sent.length), after)

/-- The answer of a step that sends nothing. -/
def quietly (v : Value) (s : Desk) : Answer × Desk := (.plain (.ok v) [], s)

mutual

/-- Runs a step. -/
def run (server : Server (List Delivery)) : Step → Desk → Answer × Desk
  | .configure changes, s =>
    let (settings, outcome) := configured s.settings changes
    (.plain (outcome.map fun _ => .null) [], { s with settings })
  | .prepare deliveries, s =>
    let prepared := s.server ++ deliveries
    quietly (.int prepared.length) { s with server := prepared }
  | .present headers, s =>
    match shown headers with
    | .ok credentials => quietly (credentialsValue credentials) { s with credentials }
    | .error cause => (.plain (.error (.misuse cause)) [], s)
  | .access realm, s =>
    answerOf (do
      let access ← Gateway.access realm
      return .list [.str access.token, access.realm]) s
  | .call wanted realm sandbox, s => answerOf (wanted.perform server sandbox realm) s
  | .useTool name args, s => answerOf (useNamed server name args) s
  | .inquire method path token realm params body sandbox, s =>
    answerOf (inquireWith server method path token realm params body sandbox) s
  | .visit scope steps breaksDown, s =>
    let raised := if breaksDown then some Failure.crash else none
    match scope.passage s.settings with
    | .error cause => (.stopped none (some (.misuse cause)) s.credentials, s)
    | .ok .refused => (.stopped (some FrontDoor.refusal) none s.credentials, s)
    | .ok .plain =>
      let (answers, after) := runAll server steps s
      (.passed s.credentials answers raised after.credentials, after)
    | .ok (.credited c) =>
      let (answers, inside) := runAll server steps { s with credentials := some c }
      let after := { inside with credentials := s.credentials }
      (.passed (some c) answers raised after.credentials, after)

/-- Runs steps one after another. -/
def runAll (server : Server (List Delivery)) : List Step → Desk → List Answer × Desk
  | [], s => ([], s)
  | step :: rest, s =>
    let (answer, next) := run server step s
    let (answers, last) := runAll server rest next
    (answer :: answers, last)

end

end Step

end BooksGateway
