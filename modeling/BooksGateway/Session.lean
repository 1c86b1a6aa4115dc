import BooksGateway.Exchange

/-!
# Sessions

A session holds the settings, the credentials of the current caller, the state of the server, and
the requests that were sent. A `Gateway` is a computation in a session that may fail; a failure
keeps what was changed before it.

1. Sessions.
2. Computations.
3. Talking to the server.
-/

namespace BooksGateway

/-! ## 1. Sessions -/

/-- A session with a server whose states have type `σ`. -/
structure Session (σ : Type) where
  /-- The settings. -/
  settings : Settings := {}
  /-- The credentials of the current caller, if there is one. -/
  credentials : Option Credentials := none
  /-- The state of the server. -/
  server : σ
  /-- The requests that were sent, the first one first. -/
  sent : List Request := []

/-! ## 2. Computations -/

/-- A computation in a session. -/
abbrev Gateway (σ : Type) := ExceptT Failure (StateM (Session σ))

namespace Gateway

variable {σ α : Type}

/-- Runs a computation: its outcome, and the session afterwards. -/
def execute (g : Gateway σ α) (s : Session σ) : Except Failure α × Session σ := g.run s

/-- The session. -/
def session : Gateway σ (Session σ) := ExceptT.lift get

/-- A result that does not depend on the session. -/
def ofExcept (r : Except Failure α) : Gateway σ α := ExceptT.mk (pure r)

/-- A result that can only fail by a misuse of a value. -/
def ofMisuse (r : Except Misuse α) : Gateway σ α := ofExcept (Failure.ofMisuse r)

/-- A computation that does nothing but give a value. -/
@[simp] theorem execute_pure (a : α) (s : Session σ) :
    (pure a : Gateway σ α).execute s = (.ok a, s) := rfl

/-- One computation after another: a failure of the first one ends both, and what was changed by
    then stays changed. -/
theorem execute_bind {β : Type} (g : Gateway σ α) (next : α → Gateway σ β) (s : Session σ) :
    (g >>= next).execute s =
      match g.execute s with
      | (.ok a, after) => (next a).execute after
      | (.error f, after) => (.error f, after) := by
  simp only [execute, ExceptT.run, bind, ExceptT.bind, ExceptT.mk, StateT.bind, ExceptT.bindCont]
  rcases g s with ⟨f | a, after⟩ <;> rfl

/-- Looking at the session changes nothing. -/
@[simp] theorem execute_session (s : Session σ) : (session : Gateway σ _).execute s = (.ok s, s) :=
  rfl

/-- A result that does not depend on the session leaves it as it is. -/
@[simp] theorem execute_ofExcept (r : Except Failure α) (s : Session σ) :
    (ofExcept r : Gateway σ α).execute s = (r, s) := rfl

/-- A possible misuse leaves the session as it is. -/
@[simp] theorem execute_ofMisuse (r : Except Misuse α) (s : Session σ) :
    (ofMisuse r : Gateway σ α).execute s = (Failure.ofMisuse r, s) := rfl

/-- The access for a call that may name a company. -/
def access (realm : Value) : Gateway σ Access := do
  let s ← session
  ofExcept (Access.resolve s.settings s.credentials realm)

/-- Seeking access changes nothing. -/
@[simp] theorem execute_access (realm : Value) (s : Session σ) :
    (access realm : Gateway σ Access).execute s =
      (Access.resolve s.settings s.credentials realm, s) := rfl

/-! ## 3. Talking to the server -/

/-- Sends a request and notes it. -/
def send (server : Server σ) (request : Request) : Gateway σ Delivery := ExceptT.lift do
  let s ← get
  let (delivery, state) := server.handle request s.server
  set { s with server := state, sent := s.sent ++ [request] }
  return delivery

/-- Makes an inquiry and gives what the answer means. -/
def inquire (server : Server σ) (access : Access) (sandbox : Option Bool) (inquiry : Inquiry) :
    Gateway σ Value := do
  let s ← session
  let request ← ofExcept (inquiry.request s.settings access sandbox)
  let delivery ← send server request
  ofExcept delivery.result

/-- An inquiry that makes no request leaves the session as it is; any other sends exactly that
    request and gives what the delivery means. -/
theorem execute_inquire (server : Server σ) (access : Access) (sandbox : Option Bool)
    (inquiry : Inquiry) (s : Session σ) :
    (inquire server access sandbox inquiry).execute s =
      match inquiry.request s.settings access sandbox with
      | .error f => (.error f, s)
      | .ok request =>
        ((server.handle request s.server).1.result,
          { s with
            server := (server.handle request s.server).2
            sent := s.sent ++ [request] }) := by
  simp only [inquire, execute_bind, execute_session, execute_ofExcept]
  cases inquiry.request s.settings access sandbox <;> rfl

/-- Asks the server a query. -/
def ask (server : Server σ) (access : Access) (sandbox : Option Bool) (query : Value) :
    Gateway σ Value :=
  inquire server access sandbox { method := "GET", path := "/query", params := [("query", query)] }

end Gateway

end BooksGateway
