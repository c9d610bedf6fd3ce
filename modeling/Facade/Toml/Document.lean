import Facade.Store.Value
import Facade.Table

/-!
# TOML documents

A document is built statement by statement, and each table remembers how it came about, because that
decides what a later statement may still do to it.

* `Node`: a value, a table, or an array of tables; `Entries`: the content of a table.
* `Entries.within`: changes the table under a header.
* `Entries.declare`, `Entries.extend`, `Entries.assign`: what the three kinds of statements do.
* `Entries.toValue`: the table that a document denotes.
-/

namespace Facade.Toml

/-- How a table came about. -/
inductive Origin where
  /-- Headers of tables inside it imply it; a header of its own may follow. -/
  | implied
  /-- It has a header of its own. -/
  | declared
  /-- Dotted keys of one part of the document made it; only they may add to it. -/
  | dotted (part : Nat)
  deriving DecidableEq, Repr, Inhabited

/-- What stands under a key. -/
inductive Node where
  /-- A finished value: nothing can be added to it. -/
  | leaf (v : Value)
  /-- A table. -/
  | table (origin : Origin) (entries : List (String × Node))
  /-- An array of tables: those before the last, oldest first, and the last. -/
  | array (earlier : List (List (String × Node))) (last : List (String × Node))
  deriving Inhabited

/-- The content of a table, in the order in which the keys came in. -/
abbrev Entries := List (String × Node)

/-- A key with dots: the parts before the last, and the last. -/
structure Key where
  /-- The parts before the last. -/
  front : List String := []
  /-- The last part. -/
  last : String
  deriving DecidableEq, Repr, Inhabited

/-- All parts of a key. -/
def Key.parts (k : Key) : List String := k.front ++ [k.last]

namespace Entries

/-- What stands under a name. -/
def get? (es : Entries) (k : String) : Option Node := (Table.mk es).get? k

/-- Puts a node under a name; a name that is already there keeps its place. -/
def set (es : Entries) (k : String) (n : Node) : Entries := Table.setEntries k n es

/-! ## Statements -/

/-- Changes the table under a header. Tables on the way are made where they are missing, and an array
of tables stands for its last one. -/
def within (f : Entries → Option Entries) : List String → Entries → Option Entries
  | [], es => f es
  | k :: ks, es =>
    match es.get? k with
    | none => (within f ks []).map fun t => es.set k (.table .implied t)
    | some (.table o t) => (within f ks t).map fun t => es.set k (.table o t)
    | some (.array ts t) => (within f ks t).map fun t => es.set k (.array ts t)
    | some (.leaf _) => none

/-- The header of a table: it may follow headers of tables inside, but nothing else of that name. -/
def declare (k : Key) : Entries → Option Entries :=
  within (fun es =>
    match es.get? k.last with
    | none => some (es.set k.last (.table .declared []))
    | some (.table .implied t) => some (es.set k.last (.table .declared t))
    | _ => none) k.front

/-- The header of one more table of an array. -/
def extend (k : Key) : Entries → Option Entries :=
  within (fun es =>
    match es.get? k.last with
    | none => some (es.set k.last (.array [] []))
    | some (.array ts t) => some (es.set k.last (.array (ts ++ [t]) []))
    | _ => none) k.front

/-- A key with its value, in a table of the given part of the document. Dotted keys take over tables
that are only implied; a key can be set once. -/
def assign (part : Nat) (name : String) (v : Value) : List String → Entries → Option Entries
  | [], es => if (es.get? name).isSome then none else some (es.set name (.leaf v))
  | p :: ps, es =>
    let enter (t : Entries) : Option Entries :=
      (assign part name v ps t).map fun t => es.set p (.table (.dotted part) t)
    match es.get? p with
    | none => enter []
    | some (.table .implied t) => enter t
    | some (.table (.dotted n) t) => if n = part then enter t else none
    | _ => none

end Entries

/-! ## The table that a document denotes -/

mutual

/-- The value under a key. -/
def Node.toValue : Node → Value
  | .leaf v => v
  | .table _ es => .dict (Entries.items es)
  | .array ts t => .list (Entries.tables ts ++ [.dict (Entries.items t)])

/-- The entries of a table as values. -/
def Entries.items : List (String × Node) → List (Value × Value)
  | [] => []
  | (k, n) :: r => (.str k, n.toValue) :: Entries.items r

/-- Tables as values. -/
def Entries.tables : List (List (String × Node)) → List Value
  | [] => []
  | es :: r => .dict (Entries.items es) :: Entries.tables r

end

/-- The table that a document denotes. -/
def Entries.toValue (es : Entries) : Value := .dict (Entries.items es)

end Facade.Toml
