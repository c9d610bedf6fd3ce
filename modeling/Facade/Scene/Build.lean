import Facade.Compiler.Host
import Facade.Scene.Spec

/-!
# Building a described world

* `Scene`: what the names of a description stand for.
* `Ann.build`: the annotation that is written.
* `Scene.build`: the world that modules and definitions describe.
* `CallableSpec.build`: the value to be called.
* `Scene.useCompiler`: a compiler, made when it is first used.
-/

namespace Facade

open Facade.Execution
open Syntax (ParamKind)

/-- What the names of a description stand for. -/
structure Scene where
  /-- Classes and annotations. -/
  names : Table String Value := {}
  /-- The described modules. -/
  modules : Table String Nat := {}
  /-- The context that modules are loaded into. -/
  context : Nat
  /-- The cache in use. -/
  cache : Nat
  deriving Inhabited

namespace Scene

/-- The names that need no description. -/
def knownNames : Table String Value :=
  let builtins := ["int", "str", "float", "bool", "bytes", "complex", "object", "list", "dict",
    "set", "frozenset", "tuple", "type", "range", "Exception", "ValueError", "NoneType"]
  let others := [("decimal", "Decimal"), ("pathlib", "Path"), ("uuid", "UUID"),
    ("datetime", "datetime"), ("collections", "deque"), ("collections", "OrderedDict")]
  let abstracts := ["Iterable", "Iterator", "Sequence", "Mapping", "Callable", "Awaitable",
    "Hashable"]
  ⟨builtins.map (fun n => (n, Value.cls (Standard.namedIn "builtins" n))) ++
    others.map (fun p => (p.2, Value.cls (Standard.namedIn p.1 p.2))) ++
    abstracts.map (fun n => (n, Value.cls (Standard.namedIn "collections.abc" n)))⟩

/-! ## Values -/

mutual

/-- A value in which every object known only by its name is a new one. -/
def freshen : Value → Run Value
  | .opaqueObj _ n => return .opaqueObj (← Run.freshId) n
  | .tuple vs => return .tuple (← freshenAll vs)
  | .list vs => return .list (← freshenAll vs)
  | .dict es => return .dict (← freshenEntries es)
  | v => return v

/-- Several values in which every object known only by its name is a new one. -/
def freshenAll : List Value → Run (List Value)
  | [] => return []
  | v :: r => return (← freshen v) :: (← freshenAll r)

/-- Entries in which every object known only by its name is a new one. -/
def freshenEntries : List (Value × Value) → Run (List (Value × Value))
  | [] => return []
  | (k, v) :: r => return (← freshen k, ← freshen v) :: (← freshenEntries r)

end

/-- The number of the type variable of a name; different names have different numbers. -/
def typeVarNumber (name : String) : Nat :=
  name.toList.foldl (fun n c => n * 0x110000 + c.toNat + 1) 0

/-- The type variable of a name. -/
def typeVar (name : String) : Value := .typeVar (typeVarNumber name) name

/-- What stands in brackets: one argument by itself, several side by side. -/
def bracketed : List Value → Value
  | [v] => v
  | vs => .tuple vs

/-- Lets a described module give out a value; a name with dots leads through what it gives out
already. -/
def giveOut (s : Scene) (module name : String) (v : Value) : Run Unit := do
  match s.modules.get? module with
  | none => pure ()
  | some m =>
    let parts := Syntax.dottedParts name
    let owner ← parts.dropLast.foldlM (fun o part => getAttr depth o part) (Value.module m)
    setAttr depth owner (parts.getLast?.getD name) v

/-! ## Annotations -/

/-- What a name of the description stands for. -/
def find (s : Scene) (id : String) : Run Value :=
  match s.names.get? id <|> knownNames.get? id with
  | some v => return v
  | none => Run.fault .key

mutual

/-- The annotation that is written. -/
def Ann.build (s : Scene) : Ann → Run Value
  | .none => return .none
  | .named id => s.find id
  | .any => return Standard.any
  | .empty => return Standard.empty
  | .ellipsis => return .ellipsis
  | .text t => return .str t
  | .forward t => lift (Hint.forwardRef t)
  | .value v => freshen v
  | .list args => return .list (← Ann.buildAll s args)
  | .typeVar n => return Scene.typeVar n
  | .subscript base args => do
    let b ← base.build s
    let vs ← Ann.buildAll s args
    lift (Hint.subscript (← get) b (bracketed vs))
  | .special n =>
    return ← lift (((Standard.members "typing").get? n).elim (.error .attribute) .ok)
  | .union args => do lift (Hint.union (← Ann.buildAll s args))
  | .pipe args => do
    match ← Ann.buildAll s args with
    | [] => Run.fault .type
    | v :: vs => lift (vs.foldlM Hint.unite v)
  | .literal values => do
    lift (Hint.subscript (← get) (.special "Literal") (.tuple (← freshenAll values)))
  | .annotated args metadata => do
    let vs ← Ann.buildAll s args
    lift (Hint.subscript (← get) (.cls (Standard.named "Annotated"))
      (.tuple (vs ++ metadata.map Value.str)))
  | .callable params returns isPlain => do
    let ps ← match params with
      | some ps => do pure (Value.list (← Ann.buildAll s ps))
      | Option.none => pure .ellipsis
    let r ← returns.build s
    let base := if isPlain then .cls Hint.callableClass else Value.special "Callable"
    lift (Hint.subscript (← get) base (.tuple [ps, r]))
  | .newType name module supertype => do
    let _ ← supertype.build s
    let v := Value.newType ⟨← Run.freshId, module, name⟩
    s.giveOut module name v
    return v
  | .typeAlias name module of => do
    let _ ← of.build s
    let v := Value.typeAlias ⟨← Run.freshId, module, name⟩
    s.giveOut module name v
    return v

/-- The annotations that are written. -/
def Ann.buildAll (s : Scene) : List Ann → Run (List Value)
  | [] => return []
  | a :: r => return (← a.build s) :: (← Ann.buildAll s r)

end

/-! ## Functions -/

/-- The parameter that is described. -/
def ParamSpec.build (s : Scene) (p : ParamSpec) : Run Parameter := do
  let hint ← p.hint.mapM (Ann.build s)
  let default ← p.default.mapM freshen
  return { name := p.name, kind := p.kind, hint := hint, default := default }

/-- The receiver in front of parameters: it can be given by position only if one of them can. -/
def receiverParam? (receiver : Receiver) (usual : String) (ps : List Parameter) :
    Option Parameter :=
  let kind : ParamKind := if ps.any fun p => p.kind = .positionalOnly then .positionalOnly
    else .positionalOrKeyword
  match receiver with
  | .usual => some { name := usual, kind := kind }
  | .named n => some { name := n, kind := kind }
  | .absent => none

/-- The action with objects of its own. -/
def freshenAction : Action → Run Action
  | .value v => return .value (← freshen v)
  | a => return a

/-- The name under which a function records its calls unless it has one. -/
def usualName : String := "func"

/-- Puts the described function into the store. Its name is the given one; calls are recorded under
the name of the description. -/
def FunctionSpec.build (s : Scene) (f : FunctionSpec) (name qualname : String)
    (receiver : Option (Receiver × String)) (module : Option Nat) : Run Value := do
  let params ← f.params.mapM (ParamSpec.build s)
  let first := receiver.bind fun r => receiverParam? r.1 r.2 params
  let returns ← f.returns.mapM (Ann.build s)
  let action ← freshenAction f.action
  let id ← Run.allocate (.function
    { name := name
      qualname := qualname
      params := first.toList ++ params
      returns := returns
      isAsync := f.isAsync
      isAbstract := f.isAbstract
      typeParams := f.typeParams
      hasSignature := f.hasSignature
      globals := module
      body := .script (f.name.getD usualName) first.isSome action })
  return .function id

/-! ## Classes -/

/-- The getter of a described property. -/
def getterSpec (name : String) (returns : Option Ann) (attr : String) : FunctionSpec :=
  { name := some name, returns := returns, action := .get attr }

/-- The setter of a described property. -/
def setterSpec (name attr : String) : FunctionSpec :=
  { name := some name, params := [{ name := "value" }], action := .set attr "value" }

/-- The members that are described, added to those before. -/
def MemberSpec.build (s : Scene) (qualname : String) (module : Option Nat)
    (members : Table String Value) (m : MemberSpec) : Run (Table String Value) := do
  let function (f : FunctionSpec) (receiver : Option (Receiver × String)) : Run Value :=
    let name := f.name.getD usualName
    f.build s name (qualname ++ "." ++ name) receiver module
  match m with
  | .annotated name a =>
    let old := match members.get? "__annotations__" with
      | some (.dict es) => es
      | _ => []
    return members.set "__annotations__"
      (.dict (Value.insertEntry old (.str name) (← a.build s)))
  | .attribute name v => return members.set name (← freshen v)
  | .property name returns hasGetter hasSetter attr =>
    let getter ← if hasGetter then
        some <$> function (getterSpec name returns attr) (some (.usual, "self"))
      else pure none
    let setter ← if hasSetter then
        some <$> function (setterSpec name attr) (some (.usual, "self"))
      else pure none
    return members.set name (.property getter setter)
  | .method f receiver =>
    return members.set (f.name.getD usualName) (← function f (some (receiver, "self")))
  | .staticMethod f =>
    return members.set (f.name.getD usualName) (.staticMethod (← function f none))
  | .classMethod f receiver =>
    return members.set (f.name.getD usualName)
      (.classMethod (← function f (some (receiver, "cls"))))

/-- Makes the class that is described. -/
def ClassSpec.build (s : Scene) (c : ClassSpec) : Run Value := do
  let module := s.modules.get? c.module
  let bases ← Ann.buildAll s c.bases
  let root ← if c.typeVars.isEmpty then pure []
    else do
      let v ← lift (Hint.subscript (← get) (.cls Standard.generic)
        (bracketed (c.typeVars.map typeVar)))
      pure [v]
  let members ← c.members.foldlM (MemberSpec.build s c.qualname module) {}
  let made ← makeClass
    { name := c.name
      qualname := c.qualname
      module := c.module
      bases := bases ++ root
      members := members
      checksAbstract := c.checksAbstract }
  match c.frozen with
  | none => pure ()
  | some frozen =>
    let params ← Run.allocate (.instance
      { cls := Standard.object, attrs := Table.ofList [("frozen", .bool frozen)] })
    setMember made.id "__dataclass_params__" (.instance params)
  if !c.hidden && !c.qualname.contains "<locals>" then
    s.giveOut c.module c.qualname (.cls made)
  return .cls made

/-! ## Modules -/

/-- Makes a module importable by everyone; packages that it lies in are made if they are missing. -/
def publish (m : Nat) (name : String) : Run Unit := do
  let parts := Syntax.dottedParts name
  let fronts := (List.range (parts.length - 1)).map fun k => ".".intercalate (parts.take (k + 1))
  for front in fronts do
    if !(← get).importable.contains front then
      let p ← Run.allocate (.module
        { name := front
          globals := Table.ofList [("__name__", .str front)]
          isPackage := true })
      modify fun w => { w with importable := w.importable.set front p }
  modify fun w => { w with importable := w.importable.set name m }
  modify fun w =>
    { w with objects := (fronts ++ [name]).foldl (Standard.link w.importable) w.objects }

/-- The module of a key: a described one, else one that everyone can import. -/
def findModule (s : Scene) (key : String) : Run Nat := do
  match s.modules.get? key <|> (← get).importable.get? key with
  | some m => return m
  | none => Run.fault .moduleNotFound

/-- Puts the described module into the store. -/
def ModuleSpec.allocate (m : ModuleSpec) : Run Nat :=
  Run.allocate (.module
    { name := m.name
      globals := Table.ofList ([("__name__", .str m.name)] ++
        (m.file.map fun f => ("__file__", f)).toList)
      origin := m.origin })

/-- Lets a described module refer to others. -/
def ModuleSpec.refer (s : Scene) (m : ModuleSpec) : Run Unit := do
  match m.references, s.modules.get? m.key with
  | some keys, some id =>
    let ms ← keys.mapM s.findModule
    setAttr depth (.module id) Resolver.referencesAttribute (.tuple (ms.map Value.module))
  | _, _ => pure ()

/-- Puts a described module where it can be found. -/
def ModuleSpec.settle (s : Scene) (m : ModuleSpec) : Run Unit := do
  match s.modules.get? m.key with
  | none => pure ()
  | some id =>
    match m.place with
    | .everywhere => publish id m.name
    | .context => registerModule s.context id
    | .contextReferences => setReferences s.context [id]
    | .nowhere => pure ()

/-! ## The world -/

/-- The description of an empty world: a context and a cache. -/
def start : Run Scene := do
  return { context := ← newContext (some "ctx"), cache := ← newCache }

/-- Adds a definition. -/
def define (s : Scene) (d : DefSpec) : Run Scene := do
  match d with
  | .hint id a => return { s with names := s.names.set id (← a.build s) }
  | .cls c => return { s with names := s.names.set c.id (← c.build s) }

/-- Builds the world that modules and definitions describe. -/
def build (modules : List ModuleSpec) (defs : List DefSpec) : Run Scene := do
  let s ← start
  let keys ← modules.mapM fun m => return (m.key, ← m.allocate)
  let s := { s with modules := Table.ofList keys }
  modules.forM (ModuleSpec.settle s)
  modules.forM (ModuleSpec.refer s)
  defs.foldlM define s

/-! ## Callables -/

/-- The value to be called. A callable with some of its arguments takes on those of one it is made
from. -/
def CallableSpec.build (s : Scene) : CallableSpec → Run Value
  | .function f module =>
    let name := f.name.getD usualName
    f.build s name name none (module.bind s.modules.get?)
  | .anonymous f module => f.build s "<lambda>" "<lambda>" none (module.bind s.modules.get?)
  | .method f receiver module => do
    let name := f.name.getD usualName
    let g ← f.build s name name (some (receiver, "self")) (module.bind s.modules.get?)
    let self ← Run.allocate (.instance
      { cls := Standard.named "Opaque", attrs := Table.ofList [("name", .str "self")] })
    return .bound (.instance self) g
  | .object f receiver module cls => do
    let g ← f.build s "__call__" (cls ++ ".__call__") (some (receiver, "self"))
      (module.bind s.modules.get?)
    let c ← makeClass
      { name := cls
        qualname := cls
        module := "__main__"
        bases := [.cls (Standard.named "Opaque")]
        members := Table.ofList [("__call__", g)] }
    return .instance (← Run.allocate (.instance
      { cls := c, attrs := Table.ofList [("name", .str "callable")] }))
  | .partialCall f args keywords => do
    let g ← f.build s
    let vs ← freshenAll args
    let ks ← keywords.mapM fun k => return (k.1, ← freshen k.2)
    match g with
    | .partialCall g bs js => return .partialCall g (bs ++ vs) (overrideKeywords js ks)
    | g => return .partialCall g vs ks
  | .length => return .native .len
  | .value v => freshen v
  | .named id => s.find id

/-! ## Compilers -/

/-- The type or module to be referenced. -/
def Target.build (s : Scene) : Target → Run Value
  | .hint a => a.build s
  | .module key => return .module (← s.findModule key)

/-- A compiler, made when it is first used. -/
def useCompiler (s : Scene) (id : String) (c : CompilerSpec) : Run String := do
  if !(← get).compilers.contains id then
    let references ← c.references.mapM (Target.build s)
    Compiler.new id
      { persist := c.persist
        warningsAsErrors := c.warningsAsErrors
        name := c.name
        workingDir := Path.clean c.workingDir
        version := c.version
        context := s.context }
      references
  return id

end Scene

end Facade
