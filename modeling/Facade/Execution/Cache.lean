import Facade.Number.Shortest
import Facade.Store.Display

/-!
# Value caches

A cache hands out an identifier for each value that is put into it and gives the value back for the
identifier, however it is spelled. Entries are never removed.

* `identifierOf?`: the identifier that a value spells.
* `addValue`, `findValue`, `holdsValue`: the operations.
* `CacheStats`: what has been looked up so far.
-/

namespace Facade

namespace World

/-- The cache with a number. -/
def cache (w : World) (id : Nat) : ValueCache := (w.caches[id]?).getD {}

/-- The world with another cache under a number. -/
def setCache (w : World) (id : Nat) (c : ValueCache) : World :=
  { w with caches := w.caches.setIfInBounds id c }

/-- The name of the class of a value. -/
def kindName (w : World) (v : Value) : String :=
  match v with
  | .cls c =>
    if ((w.class? c.id).map ClassInfo.checksAbstract).getD false then "ABCMeta" else "type"
  | v => w.className (classOf w v)

end World

namespace Execution

/-- Adds a cache and gives its number. -/
def newCache : Run Nat := do
  let w ← get
  set { w with caches := w.caches.push {} }
  return w.caches.size

/-- The identifier that a value spells; a text may spell none. -/
def identifierOf? : Value → Except Fault (Option Uuid)
  | .uuid u => .ok (some u)
  | .str s | .subStr s => .ok (Uuid.parse? s)
  | .none | .bytes _ => .error .type
  | _ => .error .attribute

/-! ## Adding -/

/-- Draws identifiers until one is not in use; `draws` bounds how often. Whoever keeps drawing those
in use never ends. -/
def drawFresh (used : Table Uuid Value) : Nat → Run Uuid
  | 0 => Run.fault .recursion
  | draws + 1 => do
    let u ← Run.freshUuid
    if used.contains u then drawFresh used draws else return u

/-- Puts a value under a fresh identifier. -/
def addValue (cache : Nat) (v : Value) : Run Uuid := do
  let w ← get
  let used := (w.cache cache).entries
  let u ← drawFresh used (w.queuedUuids.length + used.size + 1)
  modify fun w =>
    let c := w.cache cache
    w.setCache cache { c with entries := c.entries.set u v }
  Run.log
    { component := "value_cache"
      level := "DEBUG"
      message := "cached value"
      extra := [("identifier", u.render), ("kind", (← get).kindName v)] }
  return u

/-! ## Looking up -/

/-- What a look-up leaves behind: a hit or a miss is counted. -/
def countLookup (c : ValueCache) (found : Bool) : ValueCache :=
  if found then { c with hits := c.hits + 1 } else { c with misses := c.misses + 1 }

/-- The value under an identifier. -/
def findValue (cache : Nat) (identifier : Value) : Run Value := do
  match identifierOf? identifier with
  | .error f => Run.fault f
  | .ok u =>
    let c := (← get).cache cache
    let found := u.bind c.entries.get?
    modify fun w => w.setCache cache (countLookup c found.isSome)
    match found with
    | some v => return v
    | none => Run.refuse (.valueNotFound (identifier.asText (← get)))

/-- Whether a value can be looked for in a table. -/
def isKey : Value → Bool
  | .list _ | .dict _ => false
  | .tuple vs => areKeys vs
  | _ => true
where
  /-- Whether all of several values can be looked for in a table. -/
  areKeys : List Value → Bool
    | [] => true
    | v :: r => isKey v && areKeys r

/-- Whether something is stored under an identifier. What spells no identifier is not there. -/
def holdsValue (cache : Nat) (identifier : Value) : Run Bool := do
  let c := (← get).cache cache
  match identifier with
  | .str s | .subStr s => return ((Uuid.parse? s).map c.entries.contains).getD false
  | .uuid u => return c.entries.contains u
  | v => if isKey v then return false else Run.fault .type

/-! ## Statistics -/

/-- What has been looked up in a cache, and how much it holds. -/
structure CacheStats where
  /-- Look-ups that found a value. -/
  hits : Nat
  /-- Look-ups that did not. -/
  misses : Nat
  /-- How many values there are. -/
  entries : Nat
  deriving DecidableEq, Repr

/-- The statistics of a cache. -/
def statsOf (c : ValueCache) : CacheStats := ⟨c.hits, c.misses, c.entries.size⟩

/-- The share of look-ups that found a value; none have been made, none was found. -/
def CacheStats.hitRate (s : CacheStats) : Binary64 :=
  if s.hits + s.misses = 0 then .ofInt 0 else .ofRatio false s.hits (s.hits + s.misses)

/-- The share as a percentage with two places. -/
def CacheStats.hitRateText (s : CacheStats) : String :=
  (s.hitRate.mul (.ofInt 100)).fixed 2 ++ "%"

end Execution

end Facade
