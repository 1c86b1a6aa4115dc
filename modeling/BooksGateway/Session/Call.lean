import BooksGateway.Session.Search

/-!
# Calls

What the gateway does for a caller: run a query as it is, search an entity, and create, read, update
or delete one object. A call is checked before access is sought, and nothing is sent before both are
there.

1. Calls.
2. Checks on objects.
3. Making a call.
-/

namespace BooksGateway

/-! ## 1. Calls -/

/-- What a caller can ask for. Its arguments may be any values. -/
inductive Call where
  /-- Run a query as it is. -/
  | query (text : Value)
  /-- Search the rows of an entity. -/
  | search (entity criteria : Value)
  /-- Create an object. -/
  | create (entity payload : Value)
  /-- Read an object. -/
  | get (entity id : Value)
  /-- Update an object, which is given in full. -/
  | update (entity payload : Value)
  /-- Delete a version of an object. -/
  | delete (entity id version : Value)

namespace Call

/-! ## 2. Checks on objects -/

/-- The keys that identify a version of an object. -/
def versionKeys : List String := ["Id", "SyncToken"]

/-- The keys for identification that are missing in an object. -/
def missingKeys : Value → Except Misuse (List String)
  | .obj payload =>
    .ok (versionKeys.filter fun key => !(Fields.getD payload key).isTruthy)
  | _ => .error .noSuchOperation

/-- An object can be read when it has an id. -/
def checkGet (e : Entity) (id : Value) : Except Failure Unit :=
  if id.isTruthy then .ok () else .error (.idMissing e.singular)

/-- An object can be updated when it says which version it replaces. -/
def checkUpdate (e : Entity) (payload : Value) : Except Failure Unit := do
  match ← Failure.ofMisuse (missingKeys payload) with
  | [] => return ()
  | missing => throw (.updateIncomplete e.singular missing)

/-- Whether a value is no version: null or an empty text. -/
def isNoVersion : Value → Bool
  | .null => true
  | .str s => s == ""
  | _ => false

/-- An object can be deleted when its id and its version are given. -/
def checkDelete (e : Entity) (id version : Value) : Except Failure Unit :=
  if id.isTruthy && !isNoVersion version then .ok () else .error (.deleteIncomplete e.singular)

/-! ## 3. Making a call -/

/-- The object of an entity in an answer: what stands under its name, else the whole answer. -/
def objectOf (e : Entity) : Value → Except Misuse Value
  | .obj fields => .ok ((Fields.get? fields e.name).getD (.obj fields))
  | _ => .error .noSuchOperation

variable {σ : Type}

/-- Makes an inquiry about one object; `shown` is what the result tells besides the object. -/
def inquireObject (server : Server σ) (sandbox : Option Bool) (realm : Value) (e : Entity)
    (shown : Fields) (inquiry : Inquiry) : Gateway σ Value := do
  let access ← Gateway.access realm
  let data ← Gateway.inquire server access sandbox inquiry
  let object ← Gateway.ofMisuse (objectOf e data)
  return .obj ([("realm_id", access.realm), ("entity", .str e.name)] ++ shown
    ++ [("data", object)])

/-- Makes a call. -/
def perform (server : Server σ) (sandbox : Option Bool) (realm : Value) : Call → Gateway σ Value
  | .query text => do
    let access ← Gateway.access realm
    let data ← Gateway.ask server access sandbox text
    return .obj [("realm_id", access.realm), ("data", data)]
  | .search entity criteria => Search.run server sandbox realm entity criteria
  | .create entity payload => do
    let e ← Gateway.ofExcept (Entity.get entity)
    inquireObject server sandbox realm e []
      { method := "POST", path := e.endpoint, body := payload }
  | .get entity id => do
    let e ← Gateway.ofExcept (Entity.get entity)
    Gateway.ofExcept (checkGet e id)
    inquireObject server sandbox realm e [("id", id)]
      { method := "GET", path := e.endpoint ++ "/", object := id }
  | .update entity payload => do
    let e ← Gateway.ofExcept (Entity.get entity)
    Gateway.ofExcept (checkUpdate e payload)
    inquireObject server sandbox realm e []
      { method := "POST", path := e.endpoint, body := payload }
  | .delete entity id version => do
    let e ← Gateway.ofExcept (Entity.get entity)
    Gateway.ofExcept (checkDelete e id version)
    inquireObject server sandbox realm e [("id", id)]
      { method := "POST", path := e.endpoint
        params := [("operation", .str "delete")]
        body := .obj [("Id", id), ("SyncToken", version)] }

end Call

end BooksGateway
