import Gatekeeper.Http.Exchange
import Gatekeeper.Json.Document
import Gatekeeper.Json.Writer
import Gatekeeper.Relation.Answer
import Gatekeeper.Relation.Query
import Gatekeeper.Url.Basic

/-!
# Check client

A check asks the relation backend over HTTP whether a tuple holds in a store.
Only a success with a boolean under `allowed` is an answer.
-/

namespace Gatekeeper

open Gatekeeper.Json
open Gatekeeper.Text

/-- Where checks go and what they carry. -/
structure CheckClient where
  url : String
  store : String
  model : Option String
  token : Option String
deriving DecidableEq, Repr

structure CheckRequest where
  host : Option Host
  port : Option Nat
  /-- The path with the query of the URL. -/
  path : String
  authorization : Option String
  body : Json
deriving Repr

namespace CheckClient

/-- The URL that checks are sent to: slashes at the end of the base do not
count. -/
def checkUrl (client : CheckClient) : String :=
  String.ofList (dropTrailing (· = '/') client.url.toList) ++ "/stores/" ++
    client.store ++ "/check"

def body (client : CheckClient) (query : RelationQuery) : Json :=
  .object
    (("tuple_key",
        .object [("user", .string query.subject),
        ("relation", .string query.relation),
          ("object", .string query.object)]) ::
      client.model.toList.map fun model =>
      ("authorization_model_id", .string model))

/-- Whether a text can stand in a header: it holds no control character but the
tab. -/
def isSendable (text : String) : Bool :=
  text.toList.all fun character =>
    character = '\t' || (0x20 ≤ character.toNat && character.toNat ≠ 0x7F)

/-- The request of a check. There is none when the URL or the token cannot be
sent. -/
def request? (client : CheckClient) (query : RelationQuery) :
    Option CheckRequest :=
  match Url.read? client.checkUrl with
  | none => none
  | some url =>
      if url.scheme ≠ "http" ∧ url.scheme ≠ "https" then none
      else if client.token.any (!isSendable ·) then none
      else
        some
          { host := url.host
            port := url.port
            path := url.path ++ (url.query.map ("?" ++ ·)).getD ""
            authorization := client.token.map ("Bearer " ++ ·)
            body := client.body query }

/-! ### Reading answers -/

/-- The greatest length of the message of an error in characters. -/
def maxMessageLength : Nat := 256

def structuredError? (document : Document) : Option (String × String) := do
  let members ← document.record? ["code", "message"]
  let text (name : String) : Option String :=
    match members.lookup name with
    | none => some ""
    | some value => value.text?
  let code ← text "code"
  let message ← text "message"
  some (code, message)

/-- The message of a body: that of a structured error, or else the body
itself. -/
def errorMessage (body : String) : String :=
  let whole := trimBlank body
  let message :=
    match (Document.read? (symbols body)).bind structuredError? with
    | some (code, message) =>
        if message.isEmpty then whole
        else if code.isEmpty then message
        else code ++ ": " ++ message
    | none => whole
  String.ofList (message.toList.take maxMessageLength)

def allowed? (body : String) : Option Bool := do
  let document ← Document.read? (symbols body)
  let members ← document.record? ["allowed"]
  match members.lookup "allowed" with
  | some (.boolean answer) => some answer
  | _ => none

def interpret : Http.Exchange → CheckAnswer
  | .unanswered => .error (.unavailable "send check request")
  | .cutShort _ => .error (.unavailable "read check response")
  | .answered status body =>
      let text := Http.bodyText body
      if Http.isServerError status || status = 429 then
        .error (.unavailable
          ("status " ++ Http.statusText status ++ ": " ++ errorMessage text))
      else if !Http.isSuccess status then
        .error (.rejected status (errorMessage text))
      else
        match allowed? text with
        | some answer => .ok answer
        | none => .error (.malformed "parse check response")

/-- Ask the backend. Nothing is sent when the request cannot be. -/
def check {State : Type} (client : CheckClient)
    (send : CheckRequest → State → Http.Exchange × State)
    (query : RelationQuery) (state : State) : CheckAnswer × State :=
  match client.request? query with
  | none => (interpret .unanswered, state)
  | some request =>
      let (exchange, state) := send request state
      (interpret exchange, state)

end CheckClient

end Gatekeeper
