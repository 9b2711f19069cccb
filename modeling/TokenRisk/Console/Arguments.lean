import TokenRisk.Text.Basic
import TokenRisk.Text.Numeral

/-!
# Arguments

The words of a command line are positional arguments and options. An option may stand anywhere
before a double dash; one that takes a value has it after an equals sign or as the next word.
-/

namespace TokenRisk

/-- The options of a command: switches, letters that stand for switches, and options with a
value. -/
structure OptionSet where
  switches : List String := []
  letters : List (Char × String) := []
  valued : List String := []

/-- The words of a command line sorted out. -/
structure Arguments where
  switches : List String := []
  values : List (String × String) := []
  positional : List String := []

namespace Arguments

/-- Whether a word is an option by its form. -/
def isOption (word : String) : Bool :=
  Text.startsWith word "-" && word != "-"

/-- An option word cut at its first equals sign. -/
def splitValue (word : String) : String × Option String :=
  let name := word.toList.takeWhile (· != '=')
  match word.toList.drop name.length with
  | [] => (word, none)
  | _ :: value => (String.ofList name, some (String.ofList value))

/-- The switches that a word of letters after one dash stands for. -/
def letterSwitches? (set : OptionSet) : List Char → Option (List String)
  | [] => some []
  | c :: l => do
    let switch ← set.letters.lookup c
    return switch :: (← letterSwitches? set l)

/-- Sorts out words after those that are already. There is no result when an option is unknown to
the `OptionSet`, lacks its value or has one that it does not take. -/
def sortOut (set : OptionSet) (sorted : Arguments) : List String → Option Arguments
  | [] => some sorted
  | word :: words =>
    if word = "--" then some { sorted with positional := sorted.positional ++ words }
    else if !isOption word then
      sortOut set { sorted with positional := sorted.positional ++ [word] } words
    else
      let (name, value) := splitValue word
      if set.switches.contains name then
        match value with
        | some _ => none
        | none => sortOut set { sorted with switches := sorted.switches ++ [name] } words
      else if set.valued.contains name then
        match value, words with
        | some v, words => sortOut set { sorted with values := sorted.values ++ [(name, v)] } words
        | none, [] => none
        | none, v :: words =>
          sortOut set { sorted with values := sorted.values ++ [(name, v)] } words
      else if Text.startsWith word "--" then none
      else match letterSwitches? set (word.toList.drop 1) with
        | none => none
        | some switches =>
          sortOut set { sorted with switches := sorted.switches ++ switches } words

/-- Whether a switch is on. -/
def has (a : Arguments) (switch : String) : Bool :=
  a.switches.contains switch

/-- The value of an option; the last one counts. -/
def value? (a : Arguments) (name : String) : Option String :=
  (a.values.reverse.find? (·.1 == name)).map (·.2)

/-- The `value?` of an option as an integer; none if it is given and is no integer. -/
def intValue? (a : Arguments) (name : String) : Option (Option Int) :=
  match a.value? name with
  | none => some none
  | some s => (Numeral.readInt s).toOption.map some

end Arguments

end TokenRisk
