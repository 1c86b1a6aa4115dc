import BooksGateway.Settings
import BooksGateway.Text.Words

/-!
# Credentials

A caller shows an access token and may name a company. Both come with the headers of its request;
the company can also be named by the call itself or by a setting.

1. Credentials from headers.
2. Access for a call.
3. The token as it is sent on.
-/

namespace BooksGateway

/-! ## 1. Credentials from headers -/

/-- What a caller showed. -/
structure Credentials where
  /-- The access token. -/
  token : Option String
  /-- The company. -/
  realm : Option String
  deriving DecidableEq, Repr, Inhabited

/-- The word before a token, in lower case. -/
def bearerWord : String := "bearer "

/-- Whether a text begins with the word before a token, in any letter case. -/
def isBearer (s : String) : Bool := Text.begins bearerWord (Text.lower s)

/-- A text that is not empty. -/
def nonempty? (s : String) : Option String := if s = "" then none else some s

namespace Credentials

/-- The text of a header, empty when it is not there. Names are in lower case. -/
def header (headers : List (String × String)) (name : String) : String :=
  (headers.lookup name).getD ""

/-- The token in the text of an authorization header: what follows the first blank. -/
def bearerToken? (text : String) : Option String :=
  if isBearer text then
    nonempty? (String.ofList (Text.strip (Text.cut ' ' text.toList).2))
  else none

/-- The name of the header that holds a token, maybe. -/
def authorizationName : String := "authorization"

/-- The name of the header that holds nothing but a token. -/
def tokenName : String := "x-quickbooks-token"

/-- The name of the header that names the company. -/
def realmHeaderName : String := "x-quickbooks-realm-id"

/-- The credentials in headers. A header of its own holds the token when the authorization header
    has none. -/
def ofHeaders (headers : List (String × String)) : Credentials where
  token :=
    match bearerToken? (header headers authorizationName) with
    | some token => some token
    | none => nonempty? (Text.trim (header headers tokenName))
  realm := nonempty? (Text.trim (header headers realmHeaderName))

/-- The text of a header that is given as a value; what does not count as given is empty. -/
def headerText (headers : Fields) (name : String) : Except Misuse String :=
  let v := Fields.getD headers name
  if v.isTruthy then v.asText else .ok ""

/-- The credentials in headers that are given as a value. The header of its own for the token is
    only looked at when it is needed. -/
def ofValue : Value → Except Misuse Credentials
  | .obj headers => do
    let token ← match bearerToken? (← headerText headers authorizationName) with
      | some token => pure (some token)
      | none => pure (nonempty? (Text.trim (← headerText headers tokenName)))
    let realm ← headerText headers realmHeaderName
    return { token, realm := nonempty? (Text.trim realm) }
  | _ => .error .noSuchOperation

/-- A text that may be missing, as a value. -/
def optional : Option String → Value
  | some s => .str s
  | none => .null

/-- Credentials as a value. -/
def toValue (c : Credentials) : Value :=
  .obj [("access_token", optional c.token), ("realm_id", optional c.realm)]

end Credentials

/-! ## 2. Access for a call -/

/-- The token and the company with which a call is made. -/
structure Access where
  /-- The access token. -/
  token : String
  /-- The company. -/
  realm : Value

namespace Access

/-- The company of a call: the one that the call names, else that of the credentials, else that of
    the settings. -/
def realmOf (settings : Settings) (c : Credentials) (realm : Value) : Value :=
  realm.orElse ((Credentials.optional c.realm).orElse (Credentials.optional settings.company))

/-- The access for a call that may name a company. -/
def resolve (settings : Settings) (credentials : Option Credentials) (realm : Value) :
    Except Failure Access :=
  match credentials with
  | some c =>
    match c.token with
    | some token =>
      if token = "" then .error .noToken
      else
        let realm := realmOf settings c realm
        if realm.isTruthy then .ok ⟨token, realm⟩ else .error .noCompany
    | none => .error .noToken
  | none => .error .noToken

end Access

/-! ## 3. The token as it is sent on -/

/-- The authorization header for a token that may already carry the word before it. -/
def authorization (token : String) : String :=
  let stripped := Text.trim token
  let bare :=
    if isBearer stripped then
      String.ofList (Text.strip (stripped.toList.drop bearerWord.length))
    else stripped
  "Bearer " ++ bare

end BooksGateway
