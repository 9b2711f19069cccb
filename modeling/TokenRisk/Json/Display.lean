import TokenRisk.Binary64.Shortest
import TokenRisk.Json.Basic
import TokenRisk.Text.Basic
import TokenRisk.Text.Quoted

/-!
# Values within messages

How a JSON value appears in the running text of a message: a text as it is, any other value in a
notation in which nested texts are quoted.
-/

namespace TokenRisk.Json

mutual

/-- A value with its texts in quotes, as `Text.quoted` puts them. -/
def quotedForm : Json → String
  | .null => "None"
  | .bool b => if b then "True" else "False"
  | .int n => toString n
  | .real x => x.text
  | .string s => Text.quoted s
  | .array items => "[" ++ Text.join ", " (itemForms items) ++ "]"
  | .object members => "\x7b" ++ Text.join ", " (memberForms members) ++ "\x7d"

/-- The `quotedForm` of each item of an array. -/
def itemForms : List Json → List String
  | [] => []
  | v :: vs => quotedForm v :: itemForms vs

/-- The `quotedForm` of each member of an object. -/
def memberForms : List (String × Json) → List String
  | [] => []
  | (k, v) :: ms => (Text.quoted k ++ ": " ++ quotedForm v) :: memberForms ms

end

/-- A value as part of a message: a text as it is, any other value in its `quotedForm`. -/
def display : Json → String
  | .string s => s
  | v => v.quotedForm

end TokenRisk.Json
