import TokenRisk.Http.Message
import TokenRisk.Text.LetterCase

/-!
# Scripted answers

A transport for rehearsals: it answers from a list of rules. A rule holds for questions with given
attributes, and the first rule that holds counts. A question that no rule answers finds nothing.
-/

namespace TokenRisk.Http

/-- A `Response` to the questions whose attributes have the given values. -/
structure Rule where
  conditions : List (String × Json)
  response : Response

/-- The part of an address in front of its query. -/
def withoutQuery (url : String) : String :=
  String.ofList (url.toList.takeWhile fun c => c != '?' && c != '#')

/-- The host of an address. -/
def hostOf (url : String) : String :=
  match Text.splitOn '/' url.toList with
  | _ :: _ :: authority :: _ =>
    let named := (authority.reverse.takeWhile (· != '@')).reverse
    Text.lower (String.ofList (named.takeWhile fun c => c != ':' && c != '?' && c != '#'))
  | _ => ""

/-- The value of a parameter. -/
def param? (name : String) (params : List (String × String)) : Option String :=
  params.findSome? fun p => if p.1 = name then some p.2 else none

/-- An attribute of a `Question`. -/
def Question.attribute? (q : Question) (name : String) : Option Json :=
  match q, name with
  | .call .., "method" => some (.string "POST")
  | .query .., "method" => some (.string "GET")
  | .call url .., "url" => some (.string (withoutQuery url))
  | .query url _, "url" => some (.string url)
  | .call url .., "host" => some (.string (hostOf url))
  | .query url _, "host" => some (.string (hostOf url))
  | .call _ method _, "action" => some (.string method)
  | .query _ params, "action" => (param? "action" params).map .string
  | .call _ _ params, "address" => params.head?
  | .query _ params, "address" =>
    ((["address", "contractaddress", "contractaddresses"]).findSome? fun n =>
      param? n params).map .string
  | _, _ => none

/-- Whether an attribute has the value that a `Rule` asks for. -/
def attributeIs : Option Json → Json → Bool
  | none, .null => true
  | some (.string s), .string t => s == t
  | _, _ => false

/-- Whether a rule holds for a question, that is, all of its `conditions` do. -/
def Rule.holdsFor (r : Rule) (q : Question) : Bool :=
  r.conditions.all fun c => attributeIs (q.attribute? c.1) c.2

/-- The `Transport` of a script. -/
def scripted (rules : List Rule) : Transport := fun q =>
  match rules.find? (·.holdsFor q) with
  | some r => r.response
  | none => .received 404 (.json (.object []))

end TokenRisk.Http
