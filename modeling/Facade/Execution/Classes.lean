import Facade.Hint.Forms

/-!
# Making classes

* `linearise?`: the order of precedence of a class: each class before its bases, and the bases in
  the order in which they are given, wherever they meet.
* `makeClass`: a class from its bases and its namespace.
-/

namespace Facade.Execution

/-! ## Linearisation -/

/-- Whether a class stands behind the head of a sequence. -/
def inTail (c : Named) (s : List Named) : Bool := s.tail.any fun d => d.id == c.id

/-- The first head of a sequence that stands behind no head. -/
def nextHead? (ss : List (List Named)) : Option Named :=
  ss.findSome? fun s => s.head?.filter fun c => !(ss.any (inTail c))

/-- A sequence without its head if that is the given class. -/
def dropHead (c : Named) : List Named → List Named
  | [] => []
  | d :: r => if d.id == c.id then r else d :: r

/-- The merge of sequences that keeps the order of each; there may be none. -/
def merge? : Nat → List (List Named) → Option (List Named)
  | 0, _ => none
  | fuel + 1, ss =>
    if ss.all List.isEmpty then some []
    else do
      let c ← nextHead? ss
      let r ← merge? fuel (ss.map (dropHead c))
      return c :: r

/-- The order of precedence of the ancestors of a class with the given bases. -/
def ancestors? (w : World) (bases : List Named) : Option (List Named) :=
  let ss := bases.map (fun b => w.linearisation b.id) ++ [bases]
  merge? (ss.flatten.length + 1) ss

/-! ## Bases -/

/-- The classes that a value in the list of bases stands for. -/
def baseClasses? : Value → Option (List Named)
  | .cls c => some [c]
  | .generic .plain (.cls c) _ => some [c]
  | .generic (.special "") (.cls c) _ => some [c]
  | .generic (.special _) (.cls c) _ => some [c, Standard.generic]
  | .special n => (Standard.aliasClass? n).map fun c => [c, Standard.generic]
  | _ => none

/-- The bases of a class that is given these values as bases. -/
def resolveBases? (vs : List Value) : Option (List Named) := do
  let bases := (← vs.mapM baseClasses?).flatten
  let given := bases.filter fun c => c.id != Standard.generic.id
  -- The root of generic classes gives way to a base that derives from it and stands later.
  if bases.length = given.length then return (if bases.isEmpty then [Standard.object] else bases)
  else return given ++ [Standard.generic]

/-- The class that lays out instances of a class with the given bases: one of the bases' layouts
must derive from all the others. -/
def layoutOf? (w : World) (bases : List Named) : Option Nat :=
  bases.foldlM (fun winner b => do
    let candidate := ((w.class? b.id).map ClassInfo.layout).getD 0
    let derives (c d : Nat) : Bool := (w.linearisation c).any fun a => a.id == d
    if derives winner candidate then return winner
    else if derives candidate winner then return candidate
    else none) 0

/-- How a class with the given values as bases can be subscripted. -/
def subscriptingOf (w : World) (vs : List Value) (ancestors : List Named) : Subscripting :=
  let variablesOf (p : Value → Bool) : List Value :=
    Value.dedupe ((vs.filter p).flatMap Hint.typeVars)
  let isRoot : Value → Bool := fun
    | .generic _ (.cls c) _ => c.id == Standard.generic.id
    | _ => false
  let isSpecial : Value → Bool := fun
    | .generic (.special _) _ _ => true
    | _ => false
  if vs.any isRoot then .params (variablesOf isRoot).length
  else if vs.any isSpecial then .params (variablesOf isSpecial).length
  else
    match ancestors.findSome? fun c =>
      ((w.class? c.id).map ClassInfo.subscripting).filter (· != .refused) with
    | some (.params _) => .params 0
    | some s => s
    | none => .refused

/-! ## Abstract methods -/

/-- Whether a member of a class is abstract. -/
def isAbstract (w : World) : Value → Bool
  | .function f => ((w.function? f).map Function.isAbstract).getD false
  | .staticMethod f | .classMethod f => isAbstract w f
  | .property getter setter =>
    (match getter with
      | some (.function f) => ((w.function? f).map Function.isAbstract).getD false
      | _ => false) ||
    (match setter with
      | some (.function f) => ((w.function? f).map Function.isAbstract).getD false
      | _ => false)
  | _ => false

/-- The abstract members of a class: its own, and those of its bases that it leaves abstract. -/
def abstractsOf (w : World) (members : Table String Value) (bases ancestors : List Named) :
    List String :=
  let own := (members.entries.filter fun e => isAbstract w e.2).map Prod.fst
  let inherited := (bases.flatMap fun b => ((w.class? b.id).map ClassInfo.abstracts).getD []).filter
    fun n => match members.get? n with
      | some _ => false
      | none => ((w.findMember? ancestors n).map (isAbstract w)).getD true
  (own ++ inherited).eraseDups

/-! ## Classes -/

/-- What a class is made from. -/
structure ClassDraft where
  /-- Its name. -/
  name : String
  /-- Its name inside its module. -/
  qualname : String
  /-- The module that declares it. -/
  module : String
  /-- The values given as its bases. -/
  bases : List Value := []
  /-- Its namespace. -/
  members : Table String Value := {}
  /-- Abstract methods keep it from being instantiated. -/
  checksAbstract : Bool := false

/-- Lets the functions of a namespace know the class that they were defined in. -/
def settle (cls : Nat) (functions : List Nat) : Run Unit :=
  functions.forM fun f => do
    match (← get).function? f with
    | some info => Run.replace f (.function { info with home := some cls })
    | none => pure ()

/-- Makes a class. Values that are no classes, bases that occur twice, that cannot be derived from,
that cannot be put in order or that do not fit together are faults. -/
def makeClass (d : ClassDraft) : Run Named := do
  let w ← get
  let some bases := resolveBases? d.bases | Run.fault .type
  if (bases.map Named.id).eraseDups.length ≠ bases.length then Run.fault .type
  let infos := bases.filterMap fun b => w.class? b.id
  if infos.any ClassInfo.final then Run.fault .type
  let some layout := layoutOf? w bases | Run.fault .type
  let some ancestors := ancestors? w bases | Run.fault .type
  let self : Named := ⟨w.objects.size, d.module, d.qualname⟩
  let checks := d.checksAbstract || infos.any ClassInfo.checksAbstract
  let _ ← Run.allocate (.cls
    { named := self
      name := d.name
      bases := bases
      linearisation := self :: ancestors
      members := d.members
      subscripting := subscriptingOf w d.bases ancestors
      checksAbstract := checks
      abstracts := if checks then abstractsOf w d.members bases ancestors else []
      layout := layout })
  return self

/-- Writes a member of a class; a class of the language cannot be changed. -/
def setMember (cls : Nat) (name : String) (v : Value) : Run Unit := do
  match (← get).class? cls with
  | some info =>
    if info.builtin then Run.fault .type
    else Run.replace cls (.cls { info with members := info.members.set name v })
  | none => Run.fault .type

end Facade.Execution
