import BooksGateway.Charset
import BooksGateway.Json.Reader
import BooksGateway.Platform.Header
import BooksGateway.Value.Display

/-!
# Failures

Everything that can go wrong between a request to the gateway and its answer, by cause. The wording
is in `Failure.message`; what a caller of a tool reads is made from it in
`BooksGateway.Failure.Report`.

1. Faults reported by the server.
2. Causes.
3. Wording.
-/

namespace BooksGateway

/-! ## 1. Faults reported by the server -/

/-- What is known of an answer with an error status: the status, the body, and the parts of the
    first fault in it, each null when it is not there. -/
structure ApiFault where
  /-- The status of the answer. -/
  status : Int
  /-- The body: a value if it is JSON, its text otherwise. -/
  payload : Value
  /-- What the fault says. -/
  message : Value
  /-- What the fault says in detail. -/
  detail : Value
  /-- The code of the fault. -/
  code : Value
  /-- The field that the fault is about. -/
  element : Value
  /-- The description that an authorization server gives instead of a fault. -/
  description : Value

namespace ApiFault

/-- The first fault of a body. Both spellings of its keys are tried, and a spelling whose value does
    not count as given is passed over. A body that is not a mapping, and a fault that is not one,
    hold nothing. -/
def firstFault : Value → Except Misuse Fields
  | .obj payload => do
    let fault :=
      (Fields.getD payload "Fault").orElse ((Fields.getD payload "fault").orElse (.obj []))
    let faults := (← fault.member "Error").orElse (← fault.member "error")
    if faults.isTruthy then
      match ← faults.part 0 with
      | .obj fault => return fault
      | _ => return []
    else return []
  | _ => .ok []

/-- The description in a body. -/
def descriptionOf : Value → Value
  | .obj payload => Fields.getD payload "error_description"
  | _ => .null

/-- What an answer with an error status says. -/
def ofPayload (status : Int) (payload : Value) : Except Misuse ApiFault := do
  let fault ← firstFault payload
  return {
    status, payload
    message := fault.getD "Message"
    detail := fault.getD "Detail"
    code := fault.getD "code"
    element := fault.getD "element"
    description := descriptionOf payload }

end ApiFault

/-! ## 2. Causes -/

/-- Why a setting is not made. -/
inductive SettingFault where
  /-- Its name is empty. -/
  | noName
  /-- Its name has an equals sign in it. -/
  | nameDivided
  /-- Its name or its text has a null character in it. -/
  | nullCharacter
  deriving DecidableEq, Repr

/-- The words for a setting that is not made. -/
def SettingFault.message : SettingFault → String
  | .noName => "Invalid argument"
  | .nameDivided => "illegal environment variable name"
  | .nullCharacter => "embedded null byte"

/-- Why a call came to no result. -/
inductive Failure where
  /-- The criteria or the entity were turned down, for these reasons. -/
  | rejected (reasons : List String)
  /-- The server answered with an error status. -/
  | api (fault : ApiFault)
  /-- The server was not reached, or the connection broke. -/
  | network (kind message : String)
  /-- No access token was sent along. -/
  | noToken
  /-- No company is named anywhere. -/
  | noCompany
  /-- An object is asked for without its id. -/
  | idMissing (label : String)
  /-- An object is to be updated, and these keys are missing in it. -/
  | updateIncomplete (label : String) (missing : List String)
  /-- An object is to be deleted without its id or its version. -/
  | deleteIncomplete (label : String)
  /-- A setting is not made. -/
  | settingRefused (fault : SettingFault)
  /-- A setting is not a whole number. -/
  | unreadableWhole (text : String) (fault : Numeral.Fault)
  /-- A setting is not a number. -/
  | unreadableNumber (text : String)
  /-- What is not a number has no whole part. -/
  | noWholePart
  /-- A whole number that is to be shown has more digits than are written. -/
  | unwritableWhole
  /-- A mapping is written as pairs, and the part at a position is no pair but has this size. -/
  | notPair (position size : Nat)
  /-- A header of an answer cannot hold its text. -/
  | unwritableHeader (fault : HeaderFault)
  /-- The text of an answer is not JSON. -/
  | unreadableBody (text : String) (fault : Json.ReadFault)
  /-- The octets of an answer have no text. -/
  | undecodable (fault : CharsetFault)
  /-- A value was used in a way that its kind does not allow. -/
  | misuse (cause : Misuse)
  /-- A tool failed, and this is what its caller reads. -/
  | tool (message : String)
  /-- The application behind the front door broke down. -/
  | crash
  deriving Inhabited

/-- A misuse of a value ends the call. -/
def Failure.ofMisuse {α : Type} : Except Misuse α → Except Failure α
  | .ok a => .ok a
  | .error cause => .error (.misuse cause)

/-- What is done after something else succeeds only on what that gave. -/
theorem exists_of_bind {ε α β : Type} {r : Except ε α} {next : α → Except ε β} {b : β}
    (h : r >>= next = .ok b) : ∃ a, r = .ok a ∧ next a = .ok b := by
  cases r with
  | ok a => exact ⟨a, rfl, h⟩
  | error f => cases h

/-- A value as it reads, if its whole numbers can be written. -/
def Value.shown (v : Value) : Except Failure String :=
  if v.isWritable then .ok v.display else .error .unwritableWhole

/-! ## 3. Wording -/

/-- The reasons for turning criteria down, one to a line. -/
def rejectionText (reasons : List String) : String :=
  "Validation failed:\n" ++ Value.joined "\n" (reasons.map ("  - " ++ ·))

/-- The words for a setting that is not a whole number. The text is shown quoted and cut short. -/
def unreadableWholeText (text : String) : Numeral.Fault → String
  | .malformed =>
    "invalid literal for int() with base 10: "
      ++ String.ofList ((Text.quotedChars text.toList).take 200)
  | .tooLong digits => Json.tooLongText digits

/-- The words for a whole number with more digits than are written. -/
def unwritableWholeText : String :=
  "Exceeds the limit (" ++ toString Numeral.digitLimit
    ++ " digits) for integer string conversion; "
    ++ "use sys.set_int_max_str_digits() to increase the limit"

/-- What went wrong, in words. -/
def Failure.message : Failure → String
  | .rejected reasons => rejectionText reasons
  | .api fault => "QBO API error " ++ toString fault.status
  | .network _ message => message
  | .noToken =>
    "Missing Authorization header. Please provide: Authorization: Bearer <access_token> "
      ++ "(or X-QuickBooks-Token)."
  | .noCompany =>
    "No QuickBooks company selected. Pass realm_id, send X-QuickBooks-Realm-Id, "
      ++ "or set QUICKBOOKS_REALM_ID."
  | .idMissing label => "A " ++ label ++ " id is required."
  | .updateIncomplete label missing =>
    "Updating a " ++ label ++ " requires " ++ Value.joined " and " missing ++ " in the payload."
  | .deleteIncomplete label => "Deleting a " ++ label ++ " requires its id and sync_token."
  | .settingRefused fault => fault.message
  | .unreadableWhole text fault => unreadableWholeText text fault
  | .unreadableNumber text => "could not convert string to float: " ++ Text.quoted text
  | .noWholePart => "cannot convert float NaN to integer"
  | .unwritableWhole => unwritableWholeText
  | .notPair position size =>
    "dictionary update sequence element #" ++ toString position ++ " has length " ++ toString size
      ++ "; 2 is required"
  | .unwritableHeader fault => fault.message
  | .unreadableBody text fault => fault.message text
  | .undecodable fault => fault.message
  | .misuse _ => ""
  | .tool message => message
  | .crash => ""

end BooksGateway
