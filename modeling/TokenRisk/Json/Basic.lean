import TokenRisk.Binary64.Basic

/-!
# JSON values

The values that services answer with and that results are written as. An object keeps the order of
its members. What a service may leave out or fill with anything is kept as the value it sent, `null`
when it sent none.
-/

namespace TokenRisk

/-- A JSON value. Integers are exact; other numbers are doubles. -/
inductive Json where
  | null
  | bool (b : Bool)
  | int (n : Int)
  | real (x : Binary64)
  | string (s : String)
  | array (items : List Json)
  | object (members : List (String × Json))
  deriving Inhabited

namespace Json

/-- Whether a value counts as something: null, false, zero and empty values do not. -/
def isTruthy : Json → Bool
  | .null => false
  | .bool b => b
  | .int n => n != 0
  | .real x => x.isNonzero
  | .string s => !s.isEmpty
  | .array items => !items.isEmpty
  | .object members => !members.isEmpty

/-- The value itself if it `isTruthy`, else the other one. -/
def orElse (v w : Json) : Json :=
  if v.isTruthy then v else w

/-- The value under a key in a list of members. -/
def lookup (key : String) (members : List (String × Json)) : Option Json :=
  members.findSome? fun m => if m.1 = key then some m.2 else none

/-- The value under a key by `lookup`, null where there is none. -/
def field (key : String) (members : List (String × Json)) : Json :=
  (lookup key members).getD .null

/-- Members with one of them set: a key that is there keeps its place and takes the new value, a new
one goes to the end. -/
def setMember (key : String) (v : Json) : List (String × Json) → List (String × Json)
  | [] => [(key, v)]
  | m :: ms => if m.1 = key then (key, v) :: ms else m :: setMember key v ms

/-- `setMember` puts a new key behind the members that are there. -/
theorem setMember_of_not_mem {key : String} {members : List (String × Json)}
    (h : key ∉ members.map (·.1)) (v : Json) :
    setMember key v members = members ++ [(key, v)] := by
  induction members with
  | nil => rfl
  | cons m ms ih =>
    obtain ⟨hm, hms⟩ := not_or.mp (mt List.mem_cons.mpr h)
    rw [setMember, if_neg (Ne.symm hm), ih hms, List.cons_append]

/-- The name that error messages give to the kind of a value. -/
def kindName : Json → String
  | .null => "NoneType"
  | .bool _ => "bool"
  | .int _ => "int"
  | .real _ => "float"
  | .string _ => "str"
  | .array _ => "list"
  | .object _ => "dict"

/-- A text, or `null` for none. -/
def ofText? : Option String → Json
  | none => .null
  | some s => .string s

end Json

end TokenRisk
