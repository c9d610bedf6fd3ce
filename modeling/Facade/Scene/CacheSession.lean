import Facade.Execution.Cache
import Facade.Scene.Build

/-!
# Using value caches

* `Identifier`: what a value is looked up by.
* `CacheStep`: what can be done with caches.
* `CacheSession`: the cache in use, the one for general use, and the identifiers handed out.
* `CacheSession.step`: does one thing.
-/

namespace Facade.Scene

open Facade.Execution

/-- What a value is looked up by. -/
inductive Identifier where
  /-- An identifier that was handed out, as it is or as a text. -/
  | issued (n : Nat) (asText : Bool)
  /-- Any value. -/
  | value (v : Value)
  deriving Repr, Inhabited

/-- What can be done with caches. -/
inductive CacheStep where
  /-- Puts a value in. -/
  | add (v : Value)
  /-- Looks a value up. -/
  | find (i : Identifier)
  /-- Asks whether there is a value. -/
  | contains (i : Identifier)
  /-- Asks how many values there are. -/
  | size
  /-- Asks what has been looked up. -/
  | stats
  /-- Goes on with a new cache. -/
  | fresh
  /-- Makes the cache the one for general use. -/
  | setUsual
  /-- Goes on with the one for general use. -/
  | useUsual
  deriving Repr, Inhabited

/-- What came out. -/
inductive CacheOutcome where
  | value (v : Value)
  | stats (s : CacheStats)

/-- The caches in use and the identifiers handed out. -/
structure CacheSession where
  /-- The identifiers, oldest first. -/
  issued : List Uuid := []
  /-- The cache in use. -/
  current : Nat
  /-- The cache for general use. -/
  usual : Nat
  deriving Repr, Inhabited

namespace CacheSession

/-- A session with two empty caches. -/
def start : Run CacheSession := do
  let usual ← newCache
  return { usual := usual, current := ← newCache }

/-- The value that an identifier is. -/
def spell (s : CacheSession) : Identifier → Value
  | .issued n asText =>
    let u := s.issued[n]?.getD default
    if asText then .str u.render else .uuid u
  | .value v => v

/-- How many values a cache holds. -/
def sizeOf (cache : Nat) : Run CacheOutcome := do
  return .value (.int ((← get).cache cache).entries.size)

/-- Does one thing. -/
def step (s : CacheSession) : CacheStep → Run (CacheOutcome × CacheSession)
  | .add v => do
    let u ← addValue s.current (← freshen v)
    return (.value (.str u.render), { s with issued := s.issued ++ [u] })
  | .find i => do return (.value (← findValue s.current (s.spell i)), s)
  | .contains i => do return (.value (.bool (← holdsValue s.current (s.spell i))), s)
  | .size => do return (← sizeOf s.current, s)
  | .stats => do return (.stats (statsOf ((← get).cache s.current)), s)
  | .fresh => do return (.value .none, { s with current := ← newCache })
  | .setUsual => return (.value .none, { s with usual := s.current })
  | .useUsual => do return (← sizeOf s.usual, { s with current := s.usual })

end CacheSession

end Facade.Scene
