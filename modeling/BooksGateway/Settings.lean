import BooksGateway.Failure
import BooksGateway.Text.Case

/-!
# Settings

The gateway is set up by named texts. A setting is read where it is needed, so a change shows at
once, and one that cannot be read fails the call that needs it.

1. The settings that are made.
2. Switches.
3. Access to the server.
-/

namespace BooksGateway

/-! ## 1. The settings that are made -/

/-- Names with the texts they are set to. -/
structure Settings where
  /-- The settings that are made, a name at most once. -/
  entries : List (String × String) := []

namespace Settings

/-- The text of a setting, if it is made. -/
def get? (settings : Settings) (name : String) : Option String := settings.entries.lookup name

/-- The text of a setting, another if it is not made. -/
def getD (settings : Settings) (name default : String) : String := (settings.get? name).getD default

/-- Makes a setting, or takes it back. -/
def change (settings : Settings) (name : String) (text : Option String) : Settings :=
  let others := settings.entries.filter fun (other, _) => other != name
  match text with
  | some text => ⟨(name, text) :: others⟩
  | none => ⟨others⟩

/-- A name and a text as a setting has to have them. -/
def check (name text : String) : Except Failure Unit :=
  if name.toList.contains '\x00' || text.toList.contains '\x00' then
    .error (.settingRefused .nullCharacter)
  else if name.toList.contains '=' then .error (.settingRefused .nameDivided)
  else if name = "" then .error (.settingRefused .noName)
  else .ok ()

/-- Makes a setting of a value, which has to be a text, or takes it back for null. -/
def changeTo (settings : Settings) (name : String) : Value → Except Failure Settings
  | .null => .ok (settings.change name none)
  | .str text => do
    check name text
    return settings.change name (some text)
  | _ => .error (.misuse .unsuitable)

/-- Makes settings and takes them back, one after another up to the first that fails. -/
def changeAll (settings : Settings) : Fields → Settings × Except Failure Unit
  | [] => (settings, .ok ())
  | (name, v) :: rest =>
    match settings.changeTo name v with
    | .ok changed => changed.changeAll rest
    | .error failure => (settings, .error failure)

/-! ## 2. Switches -/

/-- The words that turn a switch on, in lower case. -/
def onWords : List String := ["1", "true", "yes"]

/-- Whether a switch is on; it is off unless set. -/
def isOn (settings : Settings) (name : String) : Bool :=
  onWords.contains (Text.lower (settings.getD name "0"))

/-- Whether reports of unforeseen failures name their kind. -/
def namesFailures (settings : Settings) : Bool := settings.isOn "QBO_DEBUG_ERRORS"

/-- Whether requests without a token are turned away at the front door. -/
def requiresToken (settings : Settings) : Bool := settings.isOn "REQUIRE_QUICKBOOKS_TOKEN"

/-- Whether only requests for known hosts are taken. -/
def checksHosts (settings : Settings) : Bool := settings.isOn "ENABLE_TRUSTED_HOST"

/-! ## 3. Access to the server -/

/-- The version of the server's interface that is asked for. -/
def minorVersion (settings : Settings) : String := settings.getD "QBO_MINORVERSION" "75"

/-- How many seconds an answer is waited for. -/
def timeout (settings : Settings) : Except Failure Binary64 :=
  let text := settings.getD "QBO_HTTP_TIMEOUT" "30"
  match Numeral.readFloat? text.toList with
  | some seconds => .ok seconds
  | none => .error (.unreadableNumber text)

/-- How many pages are fetched at most. -/
def pageCap (settings : Settings) : Except Failure Int :=
  let text := settings.getD "QBO_FETCH_ALL_MAX_PAGES" "100"
  match Numeral.readWhole text.toList with
  | .ok pages => .ok pages
  | .error fault => .error (.unreadableWhole text fault)

/-- The environments that are served by the sandbox. -/
def sandboxNames : List String := ["sandbox", "development", "dev", "test"]

/-- Whether the sandbox is meant when a call does not say so. The first of two settings that is not
    empty decides. -/
def meansSandbox (settings : Settings) : Bool :=
  let chosen := settings.getD "QUICKBOOKS_ENVIRONMENT" ""
  let environment :=
    if chosen != "" then chosen
    else
      let other := settings.getD "QBO_ENV" ""
      if other != "" then other else "sandbox"
  sandboxNames.contains (Text.lower environment)

/-- The company that is meant when neither the call nor the credentials name one. -/
def company (settings : Settings) : Option String := settings.get? "QUICKBOOKS_REALM_ID"

end Settings

end BooksGateway
