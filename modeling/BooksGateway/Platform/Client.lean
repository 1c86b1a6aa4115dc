import BooksGateway.ContentType
import BooksGateway.Failure

/-!
# Answers as the client library hands them over

The library that talks to the server decides whether an answer arrives at all, and how its octets
are read as JSON or as text. The gateway takes over what it is given; nothing here is its own.

1. Answers.
2. The body as JSON.
3. The body as text.
4. Arrival.
-/

namespace BooksGateway

/-! ## 1. Answers -/

/-- An answer of the server. -/
structure Reply where
  /-- The status. -/
  status : Int
  /-- The kind of the body as the server names it. -/
  contentType : Option String
  /-- The body, given as the text that its octets are in UTF-8. -/
  body : String

/-- What comes of a request. -/
inductive Delivery where
  /-- The server answered. -/
  | answered (reply : Reply)
  /-- The network failed, in a way that has a name. -/
  | failed (kind message : String)

namespace Reply

/-! ## 2. The body as JSON -/

/-- The form with wide units in which the body is JSON, judged by its first four characters, which
    have at least four octets if the body has as many; most bodies are in none. -/
def wideForm? (r : Reply) : Option Wide :=
  Wide.ofJson? (Octets.ofText (String.ofList (r.body.toList.take 4)))

/-- The body without a byte order mark at its start. -/
def markless (r : Reply) : String :=
  match r.body.toList with
  | c :: rest => if c.toNat = 0xFEFF then String.ofList rest else r.body
  | [] => r.body

/-- The body as JSON text. A byte order mark is no part of it. -/
def jsonText (r : Reply) : Except Failure String :=
  match r.wideForm? with
  | some form =>
    match form.read (Octets.ofText r.body) with
    | .ok text => .ok text
    | .error damage => .error (.undecodable (.damaged damage))
  | none => .ok r.markless

/-- The body read as JSON. -/
def document (r : Reply) : Except Failure Value := do
  let text ← r.jsonText
  match Json.read text with
  | .ok v => return v
  | .error fault => throw (.unreadableBody text fault)

/-! ## 3. The body as text -/

/-- The text of the body in the charset that the server names. An empty body is an empty text in
    every charset. -/
def text (r : Reply) : Except Failure String :=
  if r.body = "" then .ok ""
  else
    match ContentType.textOf (r.contentType.getD "") r.body with
    | .ok text => .ok text
    | .error fault => .error (.undecodable fault)

end Reply

/-! ## 4. Arrival -/

/-- The answer that arrives. One whose header cannot hold the kind of its body never does. -/
def Delivery.reply : Delivery → Except Failure Reply
  | .answered reply =>
    match reply.contentType.bind HeaderFault.ofText? with
    | some fault => .error (.unwritableHeader fault)
    | none => .ok reply
  | .failed kind message => .error (.network kind message)

end BooksGateway
