import TokenRisk.Failure
import TokenRisk.Json.Reader

/-!
# How deep JSON is nested

A text is read by functions that call themselves for every array and every object, and there is room
for so many such calls at one time only. The first container for which there is none ends the
reading, unless the text is refused before. How much room there is depends on how deep the calls are
from which a text is read, and so it is left open here.
-/

namespace TokenRisk.Json

/-- What values are nested in. -/
inductive Container where
  | array
  | object
  deriving DecidableEq

/-- The name of a `Container` in the wording of `tooDeepFault`. -/
def Container.name : Container → String
  | .array => "array"
  | .object => "object"

/-- The fault over a `Container` for which there is no room. -/
def tooDeepFault (c : Container) : Failure :=
  .fault .recursion ("maximum recursion depth exceeded while decoding a JSON " ++ c.name ++
    " from a unicode string")

mutual

/-- The first `Container` in a value for which there is no room, in the order of its text. -/
def tooDeep? : Nat → Json → Option Container
  | 0, .array _ => some .array
  | 0, .object _ => some .object
  | room + 1, .array items => tooDeepItem? room items
  | room + 1, .object members => tooDeepMember? room members
  | _, _ => none

/-- The first `tooDeep?` one in the items of an array. -/
def tooDeepItem? : Nat → List Json → Option Container
  | _, [] => none
  | room, v :: vs => (tooDeep? room v).or (tooDeepItem? room vs)

/-- The first `tooDeep?` one in the members of an object. -/
def tooDeepMember? : Nat → List (String × Json) → Option Container
  | _, [] => none
  | room, (_, v) :: ms => (tooDeep? room v).or (tooDeepMember? room ms)

end

mutual

/-- The first `Container` for which there is no room in a value at the start of the text. -/
def tooDeepValueIn? : Nat → Nat → List Char → Option Container
  | 0, _, _ => none
  | fuel + 1, room, l =>
    match room, l with
    | 0, '[' :: _ => some .array
    | 0, '{' :: _ => some .object
    | room + 1, '[' :: l => tooDeepItemIn? fuel room (skipGap l)
    | room + 1, '{' :: l => tooDeepMemberIn? fuel room (skipGap l)
    | _, _ => none

/-- The first one in the items of an array from one of them on. What comes after an item is looked
at only if `readValue` reads the item without a refusal. -/
def tooDeepItemIn? : Nat → Nat → List Char → Option Container
  | 0, _, _ => none
  | fuel + 1, room, l =>
    (tooDeepValueIn? fuel room l).or <|
      match readValue fuel l with
      | .error _ => none
      | .ok (_, rest) =>
        match skipGap rest with
        | ',' :: rest => tooDeepItemIn? fuel room (skipGap rest)
        | _ => none

/-- The first one in the members of an object from one of them on, under the same proviso. -/
def tooDeepMemberIn? : Nat → Nat → List Char → Option Container
  | 0, _, _ => none
  | fuel + 1, room, l =>
    match l with
    | '"' :: r =>
      match readString l.length r with
      | .error _ => none
      | .ok (_, rest) =>
        match skipGap rest with
        | ':' :: rest =>
          (tooDeepValueIn? fuel room (skipGap rest)).or <|
            match readValue fuel (skipGap rest) with
            | .error _ => none
            | .ok (_, rest) =>
              match skipGap rest with
              | ',' :: rest => tooDeepMemberIn? fuel room (skipGap rest)
              | _ => none
        | _ => none
    | _ => none

end

/-- The first `Container` in a text for which there is no room. It ends the reading of `readAll`,
unless a refusal comes before it. -/
def tooDeepIn? (room : Nat) (l : List Char) : Option Container :=
  tooDeepValueIn? (2 * l.length + 2) room (skipGap l)

end TokenRisk.Json
