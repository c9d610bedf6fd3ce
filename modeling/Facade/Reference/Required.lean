import Facade.Hint.Spelling

/-!
# Types that annotations need

Which types have to be nameable so that annotations can be spelled.

* `Objects`: annotations as a walk meets them, with what it knows them by and what it goes on to.
* `Objects.visit`, `Objects.required`: the walk, which goes into no object again that it knows.
* `values`: annotations that are values outright; `requiredTypes`: the types that they need.
-/

namespace Facade.Hint

/-! ## Walks -/

/-- Annotations as a walk meets them. -/
structure Objects (α ι : Type) where
  /-- What an object is known by when it is met again, if it is known at all. -/
  identity? : α → Option ι
  /-- Whether an object is a type that is imported by name. -/
  declares : α → Bool
  /-- What an object was made from. -/
  origin? : α → Option α
  /-- What it was made with. -/
  arguments : α → List α
  /-- How many objects can follow an object, each a part of the one before, until one comes
  again. -/
  depth : α → Nat

/-- How far a walk has come. -/
structure Search (α ι : Type) where
  /-- What the objects are known by that have been visited. -/
  visited : List ι := []
  /-- The types that have been found, in order. -/
  found : List α := []

namespace Objects

variable {α ι : Type} (o : Objects α ι)

/-- What a walk goes on to from an object: what it was made from, then its arguments. -/
def parts (a : α) : List α := (o.origin? a).toList ++ o.arguments a

/-- Takes note of an object: it has been visited, and if it is a type, it has been found. -/
def enter (s : Search α ι) (a : α) : Search α ι where
  visited := (o.identity? a).toList ++ s.visited
  found := if o.declares a then s.found ++ [a] else s.found

variable [DecidableEq ι]

/-- Whether an object is known to have been visited. -/
def isKnown (s : Search α ι) (a : α) : Bool := (o.identity? a).any s.visited.contains

/-- Visits an object and, in depth, its parts. One that is known is passed over, with all that lies
in it. -/
def visit : Nat → Search α ι → α → Search α ι
  | 0, s, _ => s
  | fuel + 1, s, a => if o.isKnown s a then s else (o.parts a).foldl (visit fuel) (o.enter s a)

/-- The types that are found if objects are visited one after the other. -/
def required (as : List α) : List α :=
  (as.foldl (fun s a => o.visit (o.depth a + 1) s a) {}).found

end Objects

/-! ## Annotations -/

/-- What a class, a new type or an alias is known by. -/
inductive Identity where
  | cls (c : Named)
  | newType (n : Named)
  | typeAlias (n : Named)
  deriving DecidableEq, Repr

/-- What a value is known by. Types are kept in the store; other annotations are values outright,
made anew wherever they stand. -/
def identity? : Value → Option Identity
  | .cls c => some (.cls c)
  | .newType n => some (.newType n)
  | .typeAlias n => some (.typeAlias n)
  | _ => none

/-- What an annotation says that it was made from. -/
def statedOrigin? : Value → Option Value
  | .special n => (Standard.aliasClass? n).map Value.cls
  | .generic _ o _ => some o
  | .annotated o _ => some o
  | _ => none

mutual

/-- How deep the parts of an annotation lie in one another. -/
def nesting : Value → Nat
  | .special _ => 1
  | .generic _ o as => max (nesting o) (nestingAll as) + 1
  | .pipe as => nestingAll as + 1
  | .annotated o ms => max (nesting o) (nestingAll ms) + 1
  | .list vs | .tuple vs => nestingAll vs
  | _ => 0

/-- How deep the parts of several annotations lie in one another. -/
def nestingAll : List Value → Nat
  | [] => 0
  | v :: r => max (nesting v) (nestingAll r)

end

/-- Annotations that are values outright. An origin that is a text is not gone on to. -/
def values : Objects Value Identity where
  identity? := identity?
  declares a := (declaringModule? a).isSome
  origin? a := (statedOrigin? a).filter fun o => o.toStr?.isNone
  arguments := typeArguments
  depth := nesting

/-- Every type that must be nameable to spell the given annotations, each once, in the order in
which a walk first comes to them. -/
def requiredTypes (as : List Value) : List Value := values.required as

end Facade.Hint
