import TokenRisk.Survey.Basic
import TokenRisk.Text.Basic
import TokenRisk.Text.Word

/-!
# Names of wrapped tokens

Bridges and wrappers betray themselves by the names of their contracts. A list of patterns is tried
in order; most disregard letter case.
-/

namespace TokenRisk.Wrapped

/-- A letter without its case. The long s and the Kelvin sign count as the letters they stand
for. -/
def foldCase (c : Char) : Char :=
  if c.toNat = 0x17F then 's' else if c.toNat = 0x212A then 'k' else c.toLower

/-- Whether a lower-case word starts the name in any letter case, as `foldCase` has it. -/
def startsWithWord (word : String) (name : List Char) : Bool :=
  word.toList.isPrefixOf (name.map foldCase)

/-- Whether a lower-case word occurs in the name in any letter case, as `foldCase` has it. -/
def containsWord (word : String) (name : List Char) : Bool :=
  Text.occurs word.toList (name.map foldCase)

/-- Whether a lower-case word occurs with no other word character next to it; `inWord` tells whether
the character before the name belongs to a word. -/
def standsAlone (word : String) (inWord : Bool) : List Char → Bool
  | [] => false
  | c :: l =>
    (!inWord && startsWithWord word (c :: l) &&
      !((c :: l).drop word.length).head?.any Text.isWordChar) ||
    standsAlone word (Text.isWordChar c) l

/-- Whether a name starts with the letter `first` that a capital follows, or a digit if `digits` are
let in. -/
def startsBeforeCapital (first : Char) (digits : Bool) : List Char → Bool
  | c :: d :: _ => c == first && (d.isUpper || (digits && d.isDigit))
  | _ => false

/-- The patterns in the order in which `ofName?` tries them: a test of the name, what it is called,
and what it indicates. -/
def patterns : List ((List Char → Bool) × String × String) := [
  (startsWithWord "wst", "Wrapped Staked", "liquid_staking"),
  (fun name => startsBeforeCapital 'W' true name || containsWord "wrapped" name,
    "Wrapped", "bridge"),
  (startsBeforeCapital 'x' false, "Cross-chain", "bridge"),
  (containsWord "anycall", "Multichain (AnyCall)", "bridge"),
  (standsAlone "ark" false, "Ark Bridge", "bridge"),
  (containsWord "stargate", "Stargate", "bridge")]

/-- The wrapper and the indication that a name stands for, by the first of the `patterns` that it
meets. -/
def ofName? (name : String) : Option (String × String) :=
  (patterns.find? fun p => p.1 name.toList).map (·.2)

/-- The wrapper that a reported name stands for. A name that is there but no text is a fault. -/
def ofReported? (name : Json) : Except Failure (Option (String × String)) :=
  if !name.isTruthy then .ok none
  else match name with
    | .string s => .ok (ofName? s)
    | v => .error (.fault .type
        s!"expected string or bytes-like object, got '{v.kindName}'")

/-- The record of a chain as a `WrappedToken`, if the name of its contract says so. -/
def ofRecord? (r : ChainRecord) : Except Failure (Option WrappedToken) :=
  match r.analysis with
  | none => .ok none
  | some a => (ofReported? a.contractName).map fun found =>
    found.map fun (wrapperName, indicator) =>
      { chainId := r.chainId, address := r.tokenAddress, wrapperName, indicator }

/-- The wrapped tokens among the records. The first name that `ofReported?` stumbles over ends the
search. -/
def ofRecords : List ChainRecord → Except Failure (List WrappedToken)
  | [] => .ok []
  | r :: rs => do
    let here ← ofRecord? r
    return here.toList ++ (← ofRecords rs)

end TokenRisk.Wrapped
