import TokenRisk.Failure
import TokenRisk.Json.Reader
import TokenRisk.Keccak
import TokenRisk.Text.LetterCase

/-!
# Addresses

An address is written as `0x` and forty hexadecimal digits. Letter case is free, but mixed case is
read as a checksum: under the standard scheme from a hash of the address, under the older one from
the bits of the address itself. A wrong checksum is only worth a warning.
-/

namespace TokenRisk

/-- Whether `c` is a hexadecimal digit, as `Json.hexValue?` reads them. -/
def isHexDigit (c : Char) : Bool :=
  (Json.hexValue? c).isSome

namespace Address

/-- The address that nobody owns, which `control` tells from an owner. -/
def zero : String := "0x0000000000000000000000000000000000000000"

/-- The forty digits behind `0x`. One line break may follow them; the second component tells whether
it does. -/
def digits? (s : String) : Option (List Char × Bool) :=
  match s.toList with
  | '0' :: 'x' :: l =>
    let ds := l.take 40
    let rest := l.drop 40
    if ds.length = 40 ∧ ds.all isHexDigit ∧ (rest = [] ∨ rest = ['\n']) then
      some (ds, !rest.isEmpty)
    else none
  | _ => none

/-- Whether `s` is an address: whether `digits?` finds its digits, so that one line break at the end
is let through. -/
def isAddress (s : String) : Bool :=
  (digits? s).isSome

/-- The byte that the digits at `position` and behind it write; zero past the end. -/
def byteAt (ds : List Char) (position : Nat) : Nat :=
  ((ds.drop position).take 2).foldl (fun n c => 16 * n + (Json.hexValue? c).getD 0) 0

/-- Whether the older scheme writes the letter at index `i` large: the bit `i % 8` of the two bytes
that `byteAt` reads from twice the index on. -/
def legacyBit (ds : List Char) (i : Nat) : Bool :=
  let current := byteAt ds (2 * i)
  let following := if i < 39 then byteAt ds (2 * (i + 1)) else 0
  ((current * 256 + following) >>> (i % 8)) % 2 = 1

/-- The lower-case digits `ds` with the letters at the indices chosen by `large` in upper case. -/
def withLarge (large : Nat → Bool) (ds : List Char) : List Char :=
  ds.mapIdx fun i c => if large i && c.isAlpha then c.toUpper else c

/-- The form of an address with its letters as `legacyBit` chooses them. -/
def legacyChecksum (s : String) : Except Failure String :=
  match digits? s with
  | none => .error (.fault .value "Invalid address format")
  | some (_, true) => .error (.fault .value (Numeral.malformedMessage 16 "\n"))
  | some (ds, false) =>
    let ds := ds.map Char.toLower
    .ok (String.ofList ('0' :: 'x' :: withLarge (legacyBit ds) ds))

/-- Whether the standard scheme writes the letter at index `i` large: the matching digit of
`Keccak.keccak256` of the lower-case digits is eight or more. -/
def hashBit (ds : List Char) (i : Nat) : Bool :=
  let hash := Keccak.keccak256 (ds.map fun c => c.toNat.toUInt8)
  let byte := (hash.getD (i / 2) 0).toNat
  8 ≤ (if i % 2 = 0 then byte / 16 else byte % 16)

/-- The text after a leading `0x` or `0X`. -/
def withoutPrefix : List Char → List Char
  | '0' :: 'x' :: l => l
  | '0' :: 'X' :: l => l
  | l => l

/-- The form of an address with its letters as `hashBit` chooses them. The text may lack its
`0x`. -/
def standardChecksum (s : String) : Except Failure String :=
  let ds := withoutPrefix s.toList
  if !ds.all isHexDigit then
    .error (.fault .value
      ("when sending a str, it must be a hex string. Got: " ++ Text.quoted s))
  else
    let ds := ds.map Char.toLower
    if ds.length = 40 then
      let large := (List.range 40).map (hashBit ds)
      .ok (String.ofList ('0' :: 'x' :: withLarge (fun i => large.getD i false) ds))
    else
      .error (.fault .value (s!"Unknown format {Text.quoted s}, attempted to normalize to " ++
        Text.quoted (String.ofList ('0' :: 'x' :: ds))))

/-- The schemes by which `checksum` chooses the letters to write large. -/
inductive Scheme where
  | legacy
  | standard
  deriving DecidableEq

/-- The `Scheme` of a name; any name but that of the `standard` one means the `legacy` one. -/
def Scheme.ofName (name : String) : Scheme :=
  if name = "eip55" then .standard else .legacy

/-- The form of an address under a `Scheme`. -/
def checksum : Scheme → String → Except Failure String
  | .legacy, s => legacyChecksum s
  | .standard, s => standardChecksum s

/-- What `Address.check` finds about an address. -/
structure Check where
  address : String
  isValid : Bool
  isChecksum : Bool := false
  errors : List String := []
  warnings : List String := []
  deriving DecidableEq

/-- The lower-case form of an address that `isValid`. -/
def Check.normalized? (c : Check) : Option String :=
  if c.isValid then some (Text.lower c.address) else none

/-- Whether the letters in `l` are all small or all large, so that there is no checksum to read. -/
def isSingleCase (l : List Char) : Bool :=
  l == l.map Char.toLower || l == l.map Char.toUpper

/-- Checks the form of an address and its `checksum`. A flawed form is an error of the `Check` and a
flawed checksum a warning. -/
def check (scheme : Scheme) (address : Option String) : Except Failure Check :=
  match address.getD "" with
  | "" => .ok { address := "", isValid := false, errors := ["Address is empty or undefined"] }
  | s =>
    if !isAddress s then
      .ok { address := s, isValid := false,
            errors := ["Invalid address format: must be 42 characters " ++
              "(0x followed by 40 hex chars)"] }
    else if isSingleCase (s.toList.drop 2) then
      .ok { address := s, isValid := true, warnings := ["Address is not checksummed"] }
    else
      (checksum scheme s).map fun expected =>
        if s = expected then { address := s, isValid := true, isChecksum := true }
        else { address := s, isValid := true, warnings := ["Address checksum is invalid"] }

end Address

end TokenRisk
