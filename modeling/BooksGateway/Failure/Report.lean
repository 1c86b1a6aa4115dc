import BooksGateway.Json.Writer
import BooksGateway.Settings

/-!
# Reports of failures

What a caller reads when something failed: one text that names the operation, says what happened,
and for faults of the server adds details, code, field and advice. The values in a fault come from
JSON, in which no whole number is read that is too long to be written.

1. What is reported.
2. Advice by code and status.
3. The report of a server fault.
4. The report of any incident.
-/

namespace BooksGateway

/-! ## 1. What is reported -/

/-- Something to report. -/
inductive Incident where
  /-- The criteria were turned down. -/
  | rejected (reasons : List String)
  /-- The server reported a fault. -/
  | api (fault : ApiFault)
  /-- The server answered with a bare error status. -/
  | status (code : Int)
  /-- The server was not reached. -/
  | network (message : String)
  /-- Any other failure, with the name of its kind. -/
  | exception (kind message : String)
  /-- A text. -/
  | text (message : String)
  /-- A value. -/
  | data (v : Value)
  /-- Something that cannot be written out. -/
  | unwritable

/-- An unforeseen failure as an incident; one about a missing key shows the key quoted. -/
def Incident.unforeseen (kind message : String) : Incident :=
  .exception kind (if kind = "KeyError" then Text.quoted message else message)

/-- The name of the kind of a failure to find a text for octets, if it is foreseen. -/
def charsetKind? : CharsetFault → Option String
  | .nullInName => some "ValueError"
  | .markMissing _ => some "UnicodeError"
  | .noMarking => some "UnicodeError"
  | .neverReadable => some "UnicodeError"
  | .damaged _ => some "UnicodeDecodeError"
  | .unswitched .overlong => some "UnicodeError"
  | .unswitched .unannounced => none
  | .notText => none
  | .notOctets => none
  | .partlyNumbered => none

/-- How a failure of a call is reported. A misuse of a value and a breakdown are not foreseen and
    are not reported but passed on. -/
def Failure.incident? : Failure → Option Incident
  | .rejected reasons => some (.rejected reasons)
  | .api fault => some (.api fault)
  | .network _ message => some (.network message)
  | .noToken => some (.exception "PermissionError" Failure.noToken.message)
  | .unwritableHeader fault => some (.exception "UnicodeEncodeError" fault.message)
  | .unreadableBody body (.malformed what position) =>
    some (.exception "JSONDecodeError"
      (Failure.unreadableBody body (.malformed what position)).message)
  | .unreadableBody _ .tooDeep => none
  | .undecodable fault =>
    (charsetKind? fault).map fun kind => .exception kind fault.message
  | .misuse _ => none
  | .tool _ => none
  | .crash => none
  | failure => some (.exception "ValueError" failure.message)

/-! ## 2. Advice by code and status -/

/-- Advice for the well-known fault codes. -/
def codeAdvice : List (String × String) :=
  [("500", "This is an internal QuickBooks error. Please try again later or contact QuickBooks "
      ++ "support."),
    ("401", "Authentication failed. Please check your access token and ensure it hasn't expired."),
    ("3100", "A required field is missing. Please check that all required fields are provided."),
    ("6000", "An object with this name already exists. Please use a different name or update the "
      ++ "existing object."),
    ("610", "Object not found. Please verify the ID is correct."),
    ("6140", "One of the fields contains an invalid value. Please check the field values match "
      ++ "QuickBooks requirements."),
    ("4001", "This object is already deleted."),
    ("270", "You don't have permission to perform this operation.")]

/-- What the well-known error statuses mean. -/
def statusMeanings : List (Int × String) :=
  [(400, "Bad Request - The request was invalid"),
    (401, "Unauthorized - Authentication failed or token expired"),
    (403, "Forbidden - You don't have permission to access this resource"),
    (404, "Not Found - The requested resource doesn't exist"),
    (429, "Too Many Requests - Rate limit exceeded, please try again later"),
    (500, "Internal Server Error - QuickBooks encountered an error"),
    (503, "Service Unavailable - QuickBooks is temporarily unavailable")]

/-- What a status means. -/
def statusText (status : Int) : String :=
  "HTTP " ++ toString status ++ " - "
    ++ (statusMeanings.lookup status).getD "An unexpected error occurred"

/-! ## 3. The report of a server fault -/

/-- A part of a report that is left out when its value does not count as given. -/
def labelled (label : String) (v : Value) : List Value :=
  if v.isTruthy then [.str (label ++ v.display)] else []

/-- The advice for a code. -/
def adviceFor (code : Value) : List Value :=
  if code.isTruthy then
    match codeAdvice.lookup code.display with
    | some advice => [.str ("\n\nSuggestion: " ++ advice)]
    | none => []
  else []

/-- The report of a server fault; `head` opens it. The message of the fault is taken as it is. -/
def faultReport (head : String) (fault : ApiFault) : Except Misuse String :=
  if fault.message.isTruthy || fault.detail.isTruthy then
    let parts :=
      .str (head ++ ":") :: (if fault.message.isTruthy then [fault.message] else [])
        ++ labelled "\nDetails: " fault.detail
        ++ labelled "\nError Code: " fault.code
        ++ labelled "\nField: " fault.element
        ++ adviceFor fault.code
    (Value.allTexts parts).map (Value.joined " ")
  else if fault.description.isTruthy then .ok (head ++ ": " ++ fault.description.display)
  else .ok (head ++ ": " ++ statusText fault.status)

/-! ## 4. The report of any incident -/

/-- The operation that failed, as it stands in a report. -/
def operationText : Option String → String
  | some context => if context = "" then "" else " while trying to " ++ context
  | none => ""

/-- The report of an incident. -/
def Incident.report (settings : Settings) (context : Option String) :
    Incident → Except Misuse String
  | .rejected reasons => .ok (head ++ ": " ++ rejectionText reasons)
  | .api fault => faultReport head fault
  | .status code => .ok (head ++ ": " ++ statusText code)
  | .network message => .ok (head ++ ": Network error: " ++ message)
  | .exception kind message =>
    .ok (head ++ ": " ++ message
      ++ if settings.namesFailures then "\n\nException type: " ++ kind else "")
  | .text message => .ok (head ++ ": " ++ message)
  | .data v => .ok (unknown ++ if v.isWritable then Json.write .indented v else unwritten)
  | .unwritable => .ok (unknown ++ unwritten)
where
  /-- How the report of a failure begins. -/
  head : String := "Error" ++ operationText context
  /-- How the report of something unknown begins. -/
  unknown : String := "Unknown error" ++ operationText context ++ ": "
  /-- The words for something that cannot be written out. -/
  unwritten : String := "[Unable to serialize error]"

end BooksGateway
