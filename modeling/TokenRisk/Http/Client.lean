import TokenRisk.Http.Explorer
import TokenRisk.Http.Node

/-!
# Sources over HTTP

The sources behind a transport, and a log of the questions that calls stand for. Remote calls are
numbered in the order in which they are sent. A client that has been closed sends nothing any more.
-/

namespace TokenRisk.Http

/-- The fault of a client that was closed. -/
def closedFault : Failure :=
  .fault .runtime "Cannot send a request, as the client has been closed."

/-- The `Question` that a `Call` stands for; none when there is nobody to ask. -/
def questionOf? (config : Config) : Call → Option Question
  | .code address chainId => Node.codeQuestion? config address chainId
  | .source address chainId =>
    Explorer.question? config chainId (Explorer.sourceParams address)
  | .holders address chainId limit =>
    Explorer.question? config chainId (Explorer.holderParams address limit)
  | .creation address chainId =>
    Explorer.question? config chainId (Explorer.creationParams address)
  | .label address chainId => Explorer.question? config chainId (Explorer.labelParams address)

/-- The `Sources` behind a `Transport`. They reply without delay. -/
def sources (config : Config) (transport : Transport) (room : Room) : Sources where
  code address chainId := ⟨0, Node.code config transport room address chainId⟩
  source address chainId := ⟨0, Explorer.source config transport room address chainId⟩
  holders address chainId limit := ⟨0, Explorer.holders config transport room address chainId limit⟩
  creation address chainId := ⟨0, Explorer.creation config transport room address chainId⟩
  label address chainId := ⟨0, Explorer.label config transport room address chainId⟩

/-- The `Sources` of a closed client: whom it would ask, it cannot ask. -/
def closedSources (config : Config) : Sources :=
  let refuse {α : Type} (call : Call) : Reply α :=
    match questionOf? config call with
    | some _ => { answer := .error closedFault }
    | none => { answer := .error .unsupportedChain }
  { code := fun address chainId => refuse (.code address chainId)
    source := fun address chainId => refuse (.source address chainId)
    holders := fun address chainId limit => refuse (.holders address chainId limit)
    creation := fun address chainId => refuse (.creation address chainId)
    label := fun address chainId => refuse (.label address chainId) }

/-- A `Question` as it is logged; a remote call has the given number. -/
def Question.toJson (number : Nat) : Question → Json
  | .call url method params =>
    .object [("method", .string "POST"), ("url", .string url),
      ("body", .object [("jsonrpc", .string "2.0"), ("id", .int number),
        ("method", .string method), ("params", .array params)])]
  | .query url params =>
    .object [("method", .string "GET"), ("url", .string url),
      ("params", .array (params.map fun p => .array [.string p.1, .string p.2]))]

/-- The questions that calls stand for by `questionOf?`, in order, with the number of the next
remote call. -/
def logCalls (config : Config) : Nat → List Call → List Json × Nat
  | next, [] => ([], next)
  | next, call :: calls =>
    match questionOf? config call with
    | none => logCalls config next calls
    | some q =>
      let following := match q with
        | .call .. => next + 1
        | .query .. => next
      let (log, last) := logCalls config following calls
      (q.toJson next :: log, last)

end TokenRisk.Http
