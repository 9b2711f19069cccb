import TokenRisk.Failure
import TokenRisk.Json.Display
import TokenRisk.Json.Nesting
import TokenRisk.Text.Encoding

/-!
# Messages over HTTP

The questions that are put to nodes and explorers, what comes back, and how a body is read. Every
way in which an exchange can fail becomes a failure of the provider, but for a body that is nested
too deep to be read: over that, the client stumbles.
-/

namespace TokenRisk.Http

/-- A question: a remote procedure call on a node or a query to an explorer. The number of a remote
call is given when it is sent. -/
inductive Question where
  | call (url method : String) (params : List Json)
  | query (url : String) (params : List (String × String))

/-- A body: a JSON value that was sent as such, or bytes. -/
inductive Body where
  | json (v : Json)
  | bytes (l : List UInt8)

/-- What comes back: a response with its status, or a failure on the way, named by its kind. -/
inductive Response where
  | received (status : Int) (body : Body)
  | raised (kind message : String)

/-- A way to put a `Question`. -/
abbrev Transport := Question → Response

/-- Whether a kind of failure on the way is a lack of time. -/
def isTimeoutKind (kind : String) : Bool :=
  "Timeout".toList.reverse.isPrefixOf kind.toList.reverse || kind == "TimeoutException"

/-- The value of a body by `Json.readAll`, or why it is none. -/
def Body.read : Body → Except String Json
  | .json v => .ok v
  | .bytes l =>
    match Text.decodeBytes l with
    | .error e => .error e.message
    | .ok text =>
      match Json.readAll text with
      | .ok v => .ok v
      | .error e => .error (e.message text)

/-- How deep texts may be nested that a client reads: the body of a response, and the files that a
source text holds. -/
structure Room where
  body : Nat := 970
  files : Nat := 971

/-- The first container in a body for which there is no room, by `Json.tooDeepIn?`. Bytes that are
no text hold none. -/
def Body.tooDeep? (room : Nat) : Body → Option Json.Container
  | .json v => v.tooDeep? room
  | .bytes l =>
    match Text.decodeBytes l with
    | .error _ => none
    | .ok text => Json.tooDeepIn? room text

/-- The members of the object that a provider answered with. A body that is `tooDeep?` is a fault;
whatever else goes wrong is the provider's failure. -/
def Response.members (provider : String) (room : Room) :
    Response → Except Failure (List (String × Json))
  | .raised kind message =>
    if isTimeoutKind kind then .error (.provider provider (.timeout none))
    else .error (.provider provider (.other (if message.isEmpty then kind else message)))
  | .received status body =>
    if status < 200 ∨ 300 ≤ status then .error (.provider provider (.status status))
    else match body.tooDeep? room.body with
      | some container => .error (Json.tooDeepFault container)
      | none =>
        match body.read with
        | .error e => .error (.provider provider (.response ("invalid JSON: " ++ e)))
        | .ok (.object members) => .ok members
        | .ok _ => .error (.provider provider (.response "unexpected response shape"))

end TokenRisk.Http
