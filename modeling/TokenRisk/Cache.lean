import TokenRisk.Failure
import TokenRisk.Number

/-!
# Cache

Results under keys for a fixed time. An entry is dead once its age reaches the lifetime; the dead
are swept out by the next read or write. When the cache is full, the entry that was least recently
used gives way to a new one. Two orders are kept: that of the last writes, by which entries die, and
that of the last uses.

Each operation is given one reading of the clock: the `now` of `Cache.get`, `Cache.put` and
`Cache.stats` serves the `Cache.sweep` and the look at the entries after it, so no entry dies
between the two.
-/

namespace TokenRisk

/-- A result under a key, alive before the moment `expires`. A stored result may be nothing. -/
structure Entry (κ ν : Type) where
  key : κ
  value : Option ν
  expires : Binary64

/-- A store of results for at most `capacity` keys. -/
structure Cache (κ ν : Type) where
  lifetime : Number
  capacity : Nat
  /-- The entries in the order in which `put` wrote them last. -/
  entries : List (Entry κ ν) := []
  /-- The keys in the order in which `touch` named them last, the longest unused first. -/
  uses : List κ := []
  hits : Nat := 0
  misses : Nat := 0
  evictions : Nat := 0

namespace Cache

variable {κ ν : Type} [DecidableEq κ]

/-- A cache without entries. A negative `capacity` is refused. -/
def empty (lifetime : Number) (capacity : Int) : Except Failure (Cache κ ν) :=
  if capacity < 0 then .error (.fault .value "maxsize must be non-negative")
  else .ok { lifetime, capacity := capacity.toNat }

/-- Whether an entry is alive at the moment `now`. -/
def isLive (now : Binary64) (e : Entry κ ν) : Bool :=
  now.lt e.expires

/-- The entry under a key, be it alive or not. -/
def find? (c : Cache κ ν) (key : κ) : Option (Entry κ ν) :=
  c.entries.find? fun e => e.key = key

/-- The cache without the entry of a key and without its use. -/
def remove (c : Cache κ ν) (key : κ) : Cache κ ν :=
  { c with
    entries := c.entries.filter fun e => e.key ≠ key
    uses := c.uses.filter fun k => k ≠ key }

/-- The cache with `key` as the last one used. -/
def touch (c : Cache κ ν) (key : κ) : Cache κ ν :=
  { c with uses := (c.uses.filter fun k => k ≠ key) ++ [key] }

/-- Drops the entries at the front that are not `isLive`, and counts them as `evictions`. -/
def sweep (now : Binary64) (c : Cache κ ν) : Cache κ ν :=
  let dead := (c.entries.takeWhile fun e => !isLive now e).map Entry.key
  { c with
    entries := c.entries.dropWhile fun e => !isLive now e
    uses := c.uses.filter fun k => !dead.contains k
    evictions := c.evictions + dead.length }

/-- The result under a key, after a `sweep`. A result that is nothing counts as one of the
`misses`. -/
def get (now : Binary64) (key : κ) (c : Cache κ ν) : Option ν × Cache κ ν :=
  let c := c.sweep now
  match (c.find? key).filter (isLive now) with
  | none => (none, { c with misses := c.misses + 1 })
  | some e =>
    let c := c.touch key
    match e.value with
    | none => (none, { c with misses := c.misses + 1 })
    | some v => (some v, { c with hits := c.hits + 1 })

/-- Drops the keys that were least recently used until another one fits into the `capacity`. -/
def makeRoom (c : Cache κ ν) : Cache κ ν :=
  let surplus := c.uses.take (c.entries.length + 1 - c.capacity)
  surplus.foldl remove c

/-- Stores a result under a key, after a `sweep`. A cache without `capacity` takes nothing in. The
result is stored whole, however deep it is nested: `Json.tooDeep?` bounds what is read off an
answer, not this. -/
def put (now : Binary64) (key : κ) (value : Option ν) (c : Cache κ ν) :
    Except Failure Unit × Cache κ ν :=
  let c := c.sweep now
  if c.capacity = 0 then (.error (.fault .value "value too large"), c)
  else
    let c := if (c.find? key).isSome then c else c.makeRoom
    let c := c.touch key
    let others := c.entries.filter fun e => e.key ≠ key
    (.ok (), { c with
      entries := others ++ [⟨key, value, now.add c.lifetime.toBinary64⟩] })

/-- Takes a key that `isLive` out and tells whether it held a result. There is no `sweep`, to which
a dead one is left. -/
def invalidate (now : Binary64) (key : κ) (c : Cache κ ν) : Bool × Cache κ ν :=
  match (c.find? key).filter (isLive now) with
  | none => (false, c)
  | some e => (e.value.isSome, c.remove key)

/-- Takes all entries out; the counts of `hits`, `misses` and `evictions` stay. -/
def clear (c : Cache κ ν) : Cache κ ν :=
  { c with entries := [], uses := [] }

/-- The number of entries after a `sweep`. -/
def size (now : Binary64) (c : Cache κ ν) : Nat × Cache κ ν :=
  let c := c.sweep now
  (c.entries.length, c)

/-- What `stats` tells about a cache. -/
structure Stats (κ : Type) where
  size : Nat
  capacity : Nat
  keys : List κ
  hits : Nat
  misses : Nat
  evictions : Nat
  lifetime : Number

/-- The state of the cache after a `sweep`. -/
def stats (now : Binary64) (c : Cache κ ν) : Stats κ × Cache κ ν :=
  let c := c.sweep now
  ({ size := c.entries.length
     capacity := c.capacity
     keys := (c.entries.filter (isLive now)).map Entry.key
     hits := c.hits
     misses := c.misses
     evictions := c.evictions
     lifetime := c.lifetime }, c)

end Cache

end TokenRisk
